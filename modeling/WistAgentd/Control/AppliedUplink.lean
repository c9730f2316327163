/- # Control.AppliedUplink -- the uplink grant in force, and the lines about its changes

`uplink.rs`: what a fetch leaves behind, and the line that is printed about it.

* `AppliedUplink.observe`: one outcome.
* `logsChange_iff`: when a line about a grant stands for a change one can read.
* `uplink_lines`: along every run of outcomes. -/
import Mathlib.Data.List.Chain
import Mathlib.Data.List.Induction
import WistAgentd.Control.Work

namespace WistAgentd.Control
open Option
open Theory.Utf8 (trim)
set_option autoImplicit false

structure AgentUplinkGrant where
  enabled : Bool
  host : Option String
  port : Option Nat
  grantedAt : String

inductive UplinkFetch
  | notDispatched
  | failed (signature : String)
  | credentialRejected (signature : String)
  | granted (grant : AgentUplinkGrant)

structure AppliedUplink where
  grant : Option AgentUplinkGrant := none
  lastFailure : Option String := none

inductive Line
  | failed (signature : String)
  | rejected (signature : String)
  | applied (description : String)

def Line.text : Line → String
  | .failed signature => "wist-agentd uplink grant fetch failed: " ++ signature
  | .rejected signature =>
    "event=UplinkGrantRejected " ++ signature ++ " action=\"强制回落待命\""
  | .applied description => "event=UplinkGrantApplied " ++ description

def effectiveState (grant : AgentUplinkGrant) : Bool × Option String × Option Nat :=
  (grant.enabled, grant.host.map trim, grant.port)

def standbyState : Bool × Option String × Option Nat := (false, none, none)

/-- What is taken from the API crate: `AgentUplinkGrant::target` of an enabled grant, a function of
the trimmed host and the port, and `AgentUplinkGrant::standby`, a grant that sends nothing. -/
structure GrantApi where
  target : Option String → Option Nat → Option (String × Nat)
  standby : String → AgentUplinkGrant
  standby_state : ∀ now, effectiveState (standby now) = standbyState

variable (api : GrantApi)

def describe (grant : AgentUplinkGrant) : String :=
  match grant.enabled, api.target (grant.host.map trim) grant.port with
  | false, _ => "enabled=false"
  | true, some (host, port) => "enabled=true target=" ++ host ++ ":" ++ toString port
  | true, none => "enabled=true target=\"本机配置\""

theorem describe_congr {old new : AgentUplinkGrant}
    (same : effectiveState old = effectiveState new) :
    describe api old = describe api new := by
  simp only [effectiveState, Prod.mk.injEq] at same
  rw [describe, describe, same.1, same.2.1, same.2.2]

/-- `observe`, at the time `now`: what is in force afterwards, and the line to print. -/
def AppliedUplink.observe (uplink : AppliedUplink) (now : String) :
    UplinkFetch → AppliedUplink × Option Line
  | .notDispatched => ({ uplink with lastFailure := none }, none)
  | .failed signature =>
    if uplink.lastFailure = some signature then (uplink, none)
    else ({ uplink with lastFailure := some signature }, some (.failed signature))
  | .credentialRejected signature =>
    (⟨some (api.standby now), some signature⟩,
      if uplink.grant.map effectiveState = some standbyState ∧ uplink.lastFailure = some signature
      then none else some (.rejected signature))
  | .granted grant =>
    (⟨some grant, none⟩,
      if uplink.grant.map effectiveState = some (effectiveState grant) then none
      else some (.applied (describe api grant)))

/-- The grant in force, and all lines so far. -/
structure UplinkLog where
  uplink : AppliedUplink := {}
  lines : List Line := []

namespace UplinkLog

def step (log : UplinkLog) (event : String × UplinkFetch) : UplinkLog :=
  let observed := log.uplink.observe api event.1 event.2
  ⟨observed.1, log.lines ++ observed.2.toList⟩

def after (events : List (String × UplinkFetch)) : UplinkLog := events.foldl (step api) {}

/-- A line about a grant is printed exactly when its description is not the one in force. -/
def LogsChange (log : UplinkLog) (event : String × UplinkFetch) : Prop :=
  (∃ description,
    (log.uplink.observe api event.1 event.2).2 = some (.applied description)) ↔
  ∃ grant, event.2 = .granted grant ∧
    log.uplink.grant.map (describe api) ≠ some (describe api grant)

/-- A grant that is described like the one in force is the same to `effectiveState`. -/
def Distinguished (log : UplinkLog) (event : String × UplinkFetch) : Prop :=
  ∀ old new, log.uplink.grant = some old → event.2 = .granted new →
    describe api old = describe api new → effectiveState old = effectiveState new

variable {api}

theorem logsChange_iff (log : UplinkLog) (event : String × UplinkFetch) :
    log.LogsChange api event ↔ log.Distinguished api event := by
  obtain ⟨⟨inForce, lastFailure⟩, lines⟩ := log
  obtain ⟨now, fetch⟩ := event
  cases fetch with
  | notDispatched => simp [LogsChange, Distinguished, AppliedUplink.observe]
  | failed signature | credentialRejected signature =>
    simp only [LogsChange, Distinguished, AppliedUplink.observe]
    split <;> simp
  | granted grant =>
    cases inForce with
    | none => simp [LogsChange, Distinguished, AppliedUplink.observe]
    | some old =>
      have congr := @describe_congr api old grant
      simp only [LogsChange, Distinguished, AppliedUplink.observe]
      by_cases same : effectiveState old = effectiveState grant
      · simp [same, congr same]
      · simp [same]

/-- Lines other than failures. -/
def notable : Line → Bool
  | .failed _ => false
  | _ => true

/-- No line about a grant is followed by a like one, failures apart, and the last one describes the
grant in force. -/
structure Told (api : GrantApi) (log : UplinkLog) : Prop where
  apart : (log.lines.filter notable).IsChain fun earlier later => ∀ old new,
    earlier = .applied old → later = .applied new → earlier.text ≠ later.text
  last : ∀ description, (log.lines.filter notable).getLast? = some (.applied description) →
    log.uplink.grant.map (describe api) = some description

/-- Nothing notable is said, and nothing described changes. -/
theorem Told.silent {log next : UplinkLog} (told : Told api log)
    (lines : next.lines.filter notable = log.lines.filter notable)
    (same : next.uplink.grant.map (describe api) = log.uplink.grant.map (describe api)) :
    Told api next :=
  ⟨lines ▸ told.apart, fun description => by
    rw [lines, same]
    exact told.last description⟩

/-- Something notable is said; a description is news and holds from now on. -/
theorem Told.say {log : UplinkLog} (told : Told api log) {uplink : AppliedUplink} {line : Line}
    (shown : notable line = true)
    (news : ∀ description, line = .applied description →
      log.uplink.grant.map (describe api) ≠ some description ∧
        uplink.grant.map (describe api) = some description) :
    Told api ⟨uplink, log.lines ++ [line]⟩ := by
  have lines : (log.lines ++ [line]).filter notable = log.lines.filter notable ++ [line] := by
    simp [shown]
  constructor
  · rw [lines]
    refine List.isChain_append.2 ⟨told.apart, .singleton _, ?_⟩
    rintro _ last _ here old new rfl rfl same
    obtain rfl : line = .applied new := by simpa using here
    obtain rfl : old = new := (String.append_right_inj _).1 same
    exact (news old rfl).1 (told.last old last)
  · intro description last
    rw [lines, List.getLast?_concat] at last
    exact (news description (some.inj last)).2

theorem Told.step {log : UplinkLog} {event : String × UplinkFetch} (told : Told api log)
    (distinguished : log.Distinguished api event) : Told api (log.step api event) := by
  obtain ⟨now, fetch⟩ := event
  unfold UplinkLog.step
  cases fetch with
  | notDispatched => exact told.silent (by simp [AppliedUplink.observe]) rfl
  | failed signature =>
    dsimp only [AppliedUplink.observe]
    split
    · exact told.silent (by simp) rfl
    · exact told.silent (by simp [notable]) rfl
  | credentialRejected signature =>
    dsimp only [AppliedUplink.observe]
    split
    · -- a rejection that is not printed finds a grant that sends nothing
      rename_i quiet
      refine told.silent (by simp) ?_
      obtain ⟨old, inForce, standing⟩ := map_eq_some_iff.1 quiet.1
      rw [inForce]
      exact congrArg some (describe_congr api ((api.standby_state now).trans standing.symm))
    · exact told.say rfl nofun
  | granted grant =>
    dsimp only [AppliedUplink.observe]
    split
    · rename_i same
      refine told.silent (by simp) ?_
      obtain ⟨old, inForce, standing⟩ := map_eq_some_iff.1 same
      rw [inForce]
      exact congrArg some (describe_congr api standing.symm)
    · rename_i differs
      refine told.say rfl fun description said => ?_
      obtain rfl := Line.applied.inj said
      refine ⟨fun same => differs ?_, rfl⟩
      obtain ⟨old, inForce, alike⟩ := map_eq_some_iff.1 same
      rw [inForce, map_some, distinguished old grant inForce rfl alike]

/-- **A line about a grant is printed exactly when its description changes**, along the runs in
which a grant that reads like the one in force is the same; then no two such lines that follow one
another, with no rejection between them, are alike. -/
theorem uplink_lines (api : GrantApi) (events : List (String × UplinkFetch)) :
    ((∀ front event back, events = front ++ event :: back →
        (after api front).LogsChange api event) ↔
      ∀ front event back, events = front ++ event :: back →
        (after api front).Distinguished api event) ∧
    ((∀ front event back, events = front ++ event :: back →
        (after api front).Distinguished api event) →
      ((after api events).lines.filter notable).IsChain fun earlier later => ∀ old new,
        earlier = .applied old → later = .applied new → earlier.text ≠ later.text) := by
  refine ⟨by simp only [logsChange_iff], fun distinguished => ?_⟩
  have told : Told api (after api events) := by
    induction events using List.reverseRecOn with
    | nil => exact ⟨.nil, by simp [after]⟩
    | append_singleton events last ih =>
      rw [after, List.foldl_append]
      refine (ih fun front event back split => ?_).step (distinguished events last [] rfl)
      exact distinguished front event (back ++ [last]) (by simp [split])
  exact told.apart

/-- **Two grants that send nothing but name different hosts are printed as the same line twice.** -/
theorem standby_line_repeated :
    (after ⟨fun _ _ => none, fun now => ⟨false, none, none, now⟩, fun _ => rfl⟩
      [("", .granted ⟨false, some "a", none, ""⟩),
      ("", .granted ⟨false, some "b", none, ""⟩)]).lines.map Line.text =
    ["event=UplinkGrantApplied enabled=false", "event=UplinkGrantApplied enabled=false"] := by
  decide +kernel

end UplinkLog

end WistAgentd.Control
