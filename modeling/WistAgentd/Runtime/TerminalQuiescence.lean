/- # Runtime.TerminalQuiescence -- silence after a terminal rejection

A monitor reads what has happened in order: once a terminal rejection is on record, and from the next
turn or start on, it admits nothing but status reports a retry interval apart, until one is accepted.
The loop meets it; the start of the daemon does only if it has nothing to enroll or renew.

* `watch`: the monitor.
* `keeps_ensureEnrolled`, `triple_ensureEnrolled_quiet`: what a start sends.
* `triple_turn`, `boot_started`: one turn, one start.
* `terminal_quiescence`: every run; `restart_renews` is the one in which a start renews. -/
import WistAgentd.Control.IdentityCrash
import WistAgentd.Runtime.TerminalMode
import WistAgentd.Theory.Transition

namespace WistAgentd.Terminal
open Enrollment
open Exec (Stored)
open Telemetry (Bytes ascii)
open Theory.Crash
open Theory.Transition
open Option
set_option autoImplicit false

variable {memory : LoopMemory} {tried : Option Nat} {now : Nat}

/-! ## The monitor -/

inductive Watch
  /-- Nothing is on record, or a report was accepted since. -/
  | free
  /-- A rejection was recorded in this turn. -/
  | noted
  /-- It was recorded earlier: the last report of this process, and the turn it is in. -/
  | quiet (last now : Option Nat)
  deriving DecidableEq

def watch (retry : Nat) : Watch → Happening → Option Watch
  | .free, .recorded => some .noted
  | .free, _ => some .free
  | .noted, .accepted => some .free
  | .noted, .booted => some (.quiet none none)
  | .noted, .turn now => some (.quiet none (some now))
  | .noted, _ => some .noted
  | .quiet _ _, .accepted => some .free
  | .quiet _ _, .booted => some (.quiet none none)
  | .quiet last _, .turn now => some (.quiet last (some now))
  | .quiet last now, .recorded => some (.quiet last now)
  | .quiet last (some now), .sent .status _ =>
    if last.all fun before => decide (retry ≤ now - before) then
      some (.quiet (some now) (some now))
    else none
  | .quiet _ _, _ => none

/-- The monitor has read everything that happened and stands at `mode`. -/
def Mode (retry : Nat) (home : Home) (mode : Watch) : Prop :=
  run (watch retry) .free home.history = some mode

variable {retry : Nat}

variable {mode : Watch}

section

variable {home : Home}

theorem Mode.log {next : Watch} {happening : Happening} (held : Mode retry home mode)
    (read : watch retry mode happening = some next) : Mode retry (home.log happening) next := by
  unfold Mode
  rw [Home.log, run_append, held]
  simp [run_cons, read]

/-- A rejection is on record. -/
def OnRecord (home : Home) : Prop := ∃ state, home.authTerminal = .intact state

instance (home : Home) : Decidable (OnRecord home) :=
  match found : home.authTerminal with
  | .intact state => .isTrue ⟨state, found⟩
  | .missing | .corrupt => .isFalse fun ⟨_, other⟩ => nomatch found.symm.trans other

/-- Nothing runs. -/
def Asleep (retry : Nat) (home : Home) : Prop :=
  ∃ mode, Mode retry home mode ∧ (mode ≠ .free → OnRecord home)

/-- A loop with this memory runs, between two turns. -/
structure Awake (retry : Nat) (memory : LoopMemory) (home : Home) (mode : Watch) : Prop where
  stands : Mode retry home mode
  recorded : mode ≠ .free → OnRecord home ∧ memory.terminal.isSome
  cleared : memory.terminalClearPending = false
  fresh : memory.terminal = none → memory.lastTerminalRetry = none
  noted : mode = .noted → memory.lastTerminalRetry = none
  last : ∀ before now, mode = .quiet (some before) now →
    ∃ tried, memory.lastTerminalRetry = some tried ∧ (retry = 0 ∨ before ≤ tried)

/-- In an ordinary turn. -/
structure Ordinary (retry : Nat) (memory : LoopMemory) (home : Home) : Prop where
  cleared : memory.terminalClearPending = false
  fresh : memory.lastTerminalRetry = none
  mode : Mode retry home .free ∨ Mode retry home .noted ∧ OnRecord home ∧ memory.terminal.isSome

theorem Mode.asleep (free : Mode retry home .free) : Asleep retry home :=
  ⟨.free, free, fun other => absurd rfl other⟩

theorem Ordinary.asleep (ordinary : Ordinary retry memory home) : Asleep retry home := by
  rcases ordinary.mode with free | ⟨noted, recorded, -⟩
  · exact free.asleep
  · exact ⟨.noted, noted, fun _ => recorded⟩

theorem Ordinary.awake (ordinary : Ordinary retry memory home) :
    ∃ mode, Awake retry memory home mode := by
  rcases ordinary.mode with free | ⟨noted, recorded, terminal⟩
  · exact ⟨.free, free, fun other => absurd rfl other, ordinary.cleared, fun _ => ordinary.fresh,
      nofun, nofun⟩
  · exact ⟨.noted, noted, fun _ => ⟨recorded, terminal⟩, ordinary.cleared,
      fun _ => ordinary.fresh, fun _ => ordinary.fresh, nofun⟩

theorem Awake.asleep (awake : Awake retry memory home mode) : Asleep retry home :=
  ⟨mode, awake.stands, fun other => (awake.recorded other).1⟩

/-- The ledger can be written, removed and read. -/
def LedgerWorks (event : Event Effect Home EnrollmentError) : Prop :=
  event.label = .storeTerminal ∨ event.label = .clearTerminal ∨ event.label = .readTerminal →
    event.fate.failed = false
deriving Decidable

/-! ## Enrollment and renewal only send -/

/-- What depends on the ledger and the history, and stands a request. -/
structure SentClosed (I : Home → Prop) : Prop where
  only : ∀ home other, other.authTerminal = home.authTerminal → other.history = home.history →
    I home → I other
  sent : ∀ home request identity, I home → I (home.log (.sent request identity))

section Sent

variable {Key : Type} {lib : Libraries Key} {env : Surroundings Key}
variable {A : Event Effect Home EnrollmentError → Prop} {I : Home → Prop} (closed : SentClosed I)

include closed

theorem SentClosed.outside (home other : Home) (same : other.outside = home.outside)
    (held : I home) : I other := by
  obtain ⟨-, rest⟩ := Prod.mk.inj same
  exact closed.only home other (Prod.mk.inj rest).1 (Prod.mk.inj rest).2 held

theorem SentClosed.guards : Guards lib env (fun _ => True) I fun _ => False where
  harmless _ _ := trivial
  only := closed.outside
  spoiled _ _ _ held := held
  sends request identity :=
    (keeps_attempt (keeps_effect fun home => closed.sent home request identity)).guarded
  writes file bytes _ := by
    have puts (label : Effect) (content : Home → Option Bytes) :
        Keeps (fun _ => True) I
          (Prog.effect label fun home => home.put file (content home) : Enroll Unit) :=
      keeps_effect fun _ => closed.only _ _ rfl rfl
    exact (keeps_bind (puts _ _) fun _ => keeps_forEach (fun _ => puts _ _) bytes).guarded

theorem keeps_renewCredentialIfDue : Keeps A I (renewCredentialIfDue lib env) :=
  (tolerates_renewCredentialIfDue closed.guards).keeps.under

theorem keeps_ensureEnrolled : Keeps A I (ensureEnrolled lib env) :=
  (tolerates_ensureEnrolled closed.guards).keeps.under

end Sent

/-! ## A start with nothing to ask -/

section Quiet

variable {Key : Type} (lib : Libraries Key) (env : Surroundings Key)

/-- The certificate is there and inside its renewal window. -/
def certificateDue (home : Home) : Bool :=
  ((home.files .certificate).bind Text.ofBytes?).any fun pem =>
    match certificateStatusFromPem lib pem env.now with
    | .ok status => status.validity = .renewDue
    | .error _ => false

/-- A start enrolls or renews: the configuration does not name the agent, and the state directory
has an identity whose certificate is due, or has none. -/
def mayAsk (home : Home) : Bool :=
  !hasConfigIdentity home.config &&
    match home.runtimeState with
    | .missing => home.config.controlPlane.enabled
    | .corrupt => false
    | .intact state =>
      if isRegisteredAgentId state.agentId then certificateDue lib env home
      else home.config.controlPlane.enabled

variable {lib env}
variable {A : Event Effect Home EnrollmentError → Prop} {I : Home → Prop}

theorem triple_readOptional (file : PrivateFile) {P : Home → Prop} :
    TripleOr A P (readOptional file)
      (fun text home => P home ∧ (home.files file).bind Text.ofBytes? = text) P := by
  refine triple_read fun home => ?_
  split
  · refine triple_bind (Q := fun text now => P now ∧
      (now.files file).bind Text.ofBytes? = some text) ?_ fun text => triple_pure fun _ => id
    refine triple_bind (Q := fun _ => P)
      (tripleOr_effect (fun _ held => held.2) fun _ held => held.2)
      fun _ => triple_read fun home => ?_
    split
    next text found => exact triple_pure fun now held => ⟨held.2, held.1 ▸ found⟩
    next => exact triple_throw fun now held => held.2
  next absent =>
    refine triple_pure fun now held => ⟨held.2, ?_⟩
    rw [held.1, not_isSome_iff_eq_none] at absent
    rw [absent]
    rfl

/-- A certificate that is not due is not found due. -/
theorem triple_clientCertificateStatus :
    Triple A (fun home => certificateDue lib env home = false ∧ I home)
      (clientCertificateStatus lib env).attempt
      (fun status home => (∀ found, status = .ok (some found) → found.validity ≠ .renewDue) ∧ I home)
      (fun _ => I) I := by
  refine triple_attempt ((triple_bind (triple_readOptional .certificate) fun pem => ?_).failing
    (fun _ _ held => ⟨nofun, held.2⟩) fun _ held => held.2)
  cases pem with
  | none => exact triple_pure fun _ held => ⟨nofun, held.1.2⟩
  | some pem =>
    dsimp only
    split
    next status computed =>
      refine triple_pure fun home held => ⟨?_, held.1.2⟩
      rintro found ⟨⟩ due
      have calm := held.1.1
      simp [certificateDue, held.2, computed, due] at calm
    next => exact triple_throw fun _ held => held.1

variable (only : ∀ home other : Home, other.outside = home.outside → I home → I other)

include only

theorem triple_renewCredentialIfDue_quiet :
    Triple A (fun home => certificateDue lib env home = false ∧ I home)
      (renewCredentialIfDue lib env) (fun _ => I) (fun _ => I) I := by
  refine triple_bind (Q := fun _ => I) ?_ fun decision =>
    keeps_bind ((quiet_recordRenewalLedger env decision).keeps only) fun _ => keeps_pure
  refine triple_bind triple_clientCertificateStatus fun status => triple_assume fun calm => ?_
  split
  next found =>
    split
    · exact triple_pure fun _ => id
    · exact triple_pure fun _ => id
    next due => exact absurd due (calm _ rfl)
  · exact triple_pure fun _ => id
  · exact triple_pure fun _ => id

omit only in
theorem triple_loadRuntimeState {P : Home → Prop} :
    TripleOr A P (loadRuntimeState env)
      (fun state home => P home ∧ (home.runtimeState = .missing ∨ home.runtimeState = .intact state))
      P := by
  refine triple_bind (Q := fun _ => P) (triple_mapError (keeps_effect fun _ => id)) fun _ =>
    triple_read fun home => ?_
  split
  next missing => exact triple_pure fun now held => ⟨held.2, .inl (held.1 ▸ missing)⟩
  · exact triple_throw fun now held => held.2
  next state found => exact triple_pure fun now held => ⟨held.2, .inr (held.1 ▸ found)⟩

/-- What is known afterwards: an identity whose certificate is not due, or a control plane that is
disabled. -/
theorem triple_loadStateIdentity_quiet :
    Triple A (fun home => (hasConfigIdentity home.config = false ∧ mayAsk lib env home = false) ∧
        I home)
      (loadStateIdentity env)
      (fun known home => (if known = true then certificateDue lib env home = false
        else home.config.controlPlane.enabled = false) ∧ I home)
      (fun _ => I) I := by
  refine triple_bind (Q := fun home now => home.runtimeState = now.runtimeState ∧
    (hasConfigIdentity now.config = false ∧ mayAsk lib env now = false) ∧ I now)
    (triple_get fun _ held => ⟨rfl, held⟩) fun home => ?_
  split
  next missing =>
    refine triple_pure fun now held => ⟨?_, held.2.2⟩
    obtain ⟨same, ⟨unnamed, silent⟩, -⟩ := held
    simpa [mayAsk, unnamed, ← same, missing] using silent
  next present =>
    refine (triple_bind triple_loadRuntimeState fun state => ?_).cut fun _ held => held.2.2
    have stored (now : Home) (same : home.runtimeState = now.runtimeState)
        (found : now.runtimeState = .missing ∨ now.runtimeState = .intact state) :
        now.runtimeState = .intact state :=
      found.resolve_left fun missing => present (same.trans missing)
    split
    next registered =>
      refine triple_bind (Q := fun _ now => certificateDue lib env now = false ∧ I now)
        (triple_modify ?_) fun _ => triple_pure fun _ => id
      rintro now ⟨⟨same, ⟨unnamed, silent⟩, held⟩, found⟩
      have due : certificateDue lib env now = false := by
        simpa [mayAsk, unnamed, stored now same found, registered] using silent
      exact ⟨due, only now _ rfl held⟩
    next unregistered =>
      refine triple_pure fun now held => ?_
      obtain ⟨⟨same, ⟨unnamed, silent⟩, held⟩, found⟩ := held
      exact ⟨by simpa [mayAsk, unnamed, stored now same found, unregistered] using silent, held⟩

/-- **A start with nothing to ask sends nothing.** -/
theorem triple_ensureEnrolled_quiet :
    Triple A (fun home => mayAsk lib env home = false ∧ I home) (ensureEnrolled lib env)
      (fun _ => I) (fun _ => I) I := by
  have scrubbed (decision : EnrollmentDecision) :
      Keeps A I (do scrubEnrollmentTokenFromConfigFile; pure decision) :=
    keeps_bind ((@quiet_scrub _ lib).keeps only) fun _ => keeps_pure
  refine triple_read fun home => ?_
  split
  · exact (scrubbed _).before fun _ held => held.2.2
  next unnamed =>
    refine triple_bind ((triple_loadStateIdentity_quiet only).before fun now held =>
      ⟨⟨by simpa [held.1] using unnamed, held.2.1⟩, held.2.2⟩) fun known => ?_
    split
    next found =>
      refine triple_bind ((triple_renewCredentialIfDue_quiet only).before fun now held => ?_)
        fun _ => scrubbed _
      simpa [found] using held
    next absent =>
      refine triple_bind (Q := fun home now => home = now ∧
        now.config.controlPlane.enabled = false ∧ I now)
        (triple_get fun now held => ⟨rfl, by simpa [absent] using held⟩) fun home => ?_
      split
      next enabled => exact triple_absurd fun now held => by simp [held.1, held.2.1] at enabled
      · exact triple_pure fun _ held => held.2.2

end Quiet

/-! ## Turns -/

theorem Mode.outside {other : Home} (same : other.outside = home.outside)
    (held : Mode retry home mode) : Mode retry other mode := by
  obtain ⟨-, rest⟩ := Prod.mk.inj same
  unfold Mode
  rw [(Prod.mk.inj rest).2]
  exact held

theorem OnRecord.outside {other : Home} (same : other.outside = home.outside) (held : OnRecord home) :
    OnRecord other := by
  obtain ⟨-, rest⟩ := Prod.mk.inj same
  obtain ⟨state, found⟩ := held
  exact ⟨state, (Prod.mk.inj rest).1.trans found⟩

theorem ordinary_closed (memory : LoopMemory) : SentClosed (Ordinary retry memory) where
  only home other ledger history held := by
    have same (mode : Watch) (stands : Mode retry home mode) : Mode retry other mode := by
      unfold Mode
      rw [history]
      exact stands
    refine ⟨held.cleared, held.fresh, held.mode.imp (same _) ?_⟩
    rintro ⟨noted, ⟨state, found⟩, terminal⟩
    exact ⟨same _ noted, ⟨state, ledger.trans found⟩, terminal⟩
  sent home request identity held :=
    ⟨held.cleared, held.fresh, held.mode.imp (·.log rfl) fun noted => ⟨noted.1.log rfl, noted.2⟩⟩

/-- Whatever is read in an ordinary turn, other than a recording, changes the mode to `free` or not
at all. -/
theorem Ordinary.log {happening : Happening} (held : Ordinary retry memory home)
    (free : watch retry .free happening = some .free)
    (noted : watch retry .noted happening = some .free ∨
      watch retry .noted happening = some .noted) : Ordinary retry memory (home.log happening) := by
  refine ⟨held.cleared, held.fresh, ?_⟩
  rcases held.mode with stands | ⟨stands, recorded, terminal⟩
  · exact .inl (stands.log free)
  · exact noted.imp stands.log fun same => ⟨stands.log same, recorded, terminal⟩

section Turns

variable {Key : Type} {lib : Libraries Key} {A : Event Effect Home EnrollmentError → Prop}

theorem triple_readStatusReply {J K : Home → Prop} {E : EnrollmentError → Home → Prop}
    {C : Home → Prop} (reply : Option Response) (accepted : ∀ home, J home → K (home.log .accepted)) :
    Triple A J (readStatusReply reply)
      (fun outcome home => if outcome = .success then K home else J home) E C := by
  cases reply with
  | none => exact triple_pure fun _ held => by simpa using held
  | some response =>
    rw [readStatusReply]
    split
    · exact triple_bind (Q := fun _ => K) (triple_modify accepted) fun _ =>
        triple_pure fun _ held => by simpa using held
    · split
      · exact triple_pure fun _ held => by simpa using held
      · exact triple_pure fun _ held => by simpa using held

/-- A status report: `J` once it is sent, `K` once it is accepted. -/
theorem triple_reportStatus {I J K : Home → Prop} (env : Surroundings Key)
    (reply : Option Response)
    (only : ∀ home other : Home, other.outside = home.outside → I home → I other)
    (sent : ∀ home identity, I home → J (home.log (.sent .status identity)))
    (accepted : ∀ home, J home → K (home.log .accepted)) :
    Triple A I (reportStatusToControlPlane lib env reply)
      (fun outcome home => if outcome = .success then K home else I home ∨ J home)
      (fun _ => I) I := by
  refine triple_bind (Q := fun _ => I) (triple_get fun _ => id) fun home => ?_
  split
  · exact triple_pure fun _ held => .inl held
  · refine triple_bind (Q := fun _ => I)
      (keeps_attempt ((quiet_enrollmentHttpClient env).keeps only)) fun client => ?_
    cases client with
    | error err => exact triple_pure fun _ held => .inl held
    | ok identity =>
      refine triple_bind (Q := fun done home => (done = .ok () ∧ J home) ∨
          ((∃ err, done = .error err) ∧ I home)) (triple_attempt (triple_effect
        (fun home held _ => .inl ⟨rfl, sent home identity held⟩)
        (fun _ _ held _ => .inr ⟨⟨_, rfl⟩, held⟩) fun _ held _ => held)) fun done => ?_
      cases done with
      | error err => exact triple_pure fun _ held => .inl (held.elim (fun sent => nomatch sent.1) (·.2))
      | ok done =>
        refine ((triple_readStatusReply reply accepted).before fun _ held =>
          held.elim (·.2) fun failed => nomatch failed.1.choose_spec).after ?_
        intro outcome home held
        split at held
        next success => simpa [success] using held
        next other => simpa [other] using Or.inr held

/-- With a ledger that works; what is cut short leaves nothing running. -/
abbrev Passes {α : Type} (retry : Nat) (P : Home → Prop) (prog : Enroll α) (Q : α → Home → Prop) :
    Prop :=
  Triple LedgerWorks P prog Q (fun _ => Asleep retry) (Asleep retry)

theorem passes_keeps {α : Type} {prog : Enroll α} {I : Home → Prop}
    (asleep : ∀ home, I home → Asleep retry home) (kept : Keeps LedgerWorks I prog) :
    Passes retry I prog fun _ => I :=
  Triple.cut kept asleep

theorem triple_enterTerminalIfAbsent (memory : LoopMemory) (code source nowText : String) :
    Passes retry (Ordinary retry memory) (enterTerminalIfAbsent memory code source nowText)
      (Ordinary retry) := by
  unfold enterTerminalIfAbsent
  split
  · exact triple_pure fun _ => id
  · refine triple_bind (Q := fun state => Ordinary retry { memory with terminal := some state })
      (triple_bind (Q := fun _ => Ordinary retry
        { memory with terminal := some ⟨code, source, nowText, 0⟩ })
        (triple_attempt (triple_effect ?_ ?_ ?_)) fun _ => triple_pure fun _ => id)
      fun state => triple_pure fun _ => id
    · intro home held _
      refine ⟨held.cleared, held.fresh, .inr ⟨?_, ⟨_, rfl⟩, rfl⟩⟩
      rcases held.mode with stands | ⟨stands, -⟩
      · exact Mode.log stands rfl
      · exact Mode.log stands rfl
    · intro home err held works
      cases works (.inl rfl)
    · intro home held _
      exact held.asleep

theorem triple_ordinaryTurn (memory : LoopMemory) (input : TurnInput Key) :
    Passes retry (Ordinary retry memory) (ordinaryTurn lib memory input) (Ordinary retry) := by
  have keeps {α : Type} {prog : Enroll α} (memory : LoopMemory) :
      Keeps LedgerWorks (Ordinary retry memory) prog →
        Passes retry (Ordinary retry memory) prog fun _ => Ordinary retry memory :=
    passes_keeps fun _ held => held.asleep
  refine triple_bind (Q := Ordinary retry) ?_ fun memory =>
    triple_bind (keeps memory (keeps_forEach (fun path => keeps_bind (keeps_attempt
      (keeps_effect fun home => (ordinary_closed memory).sent home _ _)) fun _ => keeps_pure) _))
      fun _ => triple_bind (Q := fun _ => Ordinary retry memory) ?_ fun _ => ?_
  · unfold checkRenewal
    split
    · refine triple_bind (keeps memory (keeps_renewCredentialIfDue (ordinary_closed memory)))
        fun decision => ?_
      have same (home : Home) (held : Ordinary retry memory home) :
          Ordinary retry { memory with lastRenewalCheck := some input.now } home :=
        ⟨held.cleared, held.fresh, held.mode⟩
      split
      · exact (triple_enterTerminalIfAbsent _ _ _ _).before same
      · exact triple_pure same
    · exact triple_pure fun _ => id
  · refine triple_bind (Q := fun _ => Ordinary retry memory)
      (triple_modify fun home held => held.log rfl (.inr rfl)) fun _ => ?_
    split
    · exact triple_throw fun _ held => held.asleep
    · exact triple_pure fun _ => id
  · unfold reportStatus
    split
    · have reported : Triple LedgerWorks (Ordinary retry memory)
          (reportStatusToControlPlane lib input.env input.report)
          (fun outcome home => if outcome = .success then Ordinary retry memory home
            else Ordinary retry memory home ∨ Ordinary retry memory home)
          (fun _ => Ordinary retry memory) (Ordinary retry memory) :=
        triple_reportStatus input.env input.report (ordinary_closed memory).outside
          (fun home identity => (ordinary_closed memory).sent home .status identity)
          fun home held => held.log rfl (.inl rfl)
      refine triple_bind (Q := fun _ => Ordinary retry { memory with lastReportAt := input.now })
        ((reported.after fun outcome home held => ?_).cut fun _ held => held.asleep) fun outcome => ?_
      · have still : Ordinary retry memory home := by
          split at held
          · exact held
          · exact held.elim id id
        exact ⟨still.cleared, still.fresh, still.mode⟩
      · cases outcome with
        | success | failed => exact triple_pure fun _ => id
        | terminal code => exact triple_enterTerminalIfAbsent _ _ _ _
    · exact triple_pure fun _ => id

/-- The terminal mode at its probe: the last report is at least as old as the last attempt. -/
def Probing (retry : Nat) (tried : Option Nat) (now : Nat) (home : Home) : Prop :=
  Mode retry home .free ∨ ∃ last, Mode retry home (.quiet last (some now)) ∧ OnRecord home ∧
    ∀ before, last = some before → ∃ attempt, tried = some attempt ∧ (retry = 0 ∨ before ≤ attempt)

theorem probing_only (home other : Home) (same : other.outside = home.outside)
    (held : Probing retry tried now home) :
    Probing retry tried now other := by
  rcases held with free | ⟨last, stands, recorded, old⟩
  · exact .inl (free.outside same)
  · exact .inr ⟨last, stands.outside same, recorded.outside same, old⟩

theorem Probing.asleep (held : Probing retry tried now home) : Asleep retry home := by
  rcases held with free | ⟨last, stands, recorded, -⟩
  · exact free.asleep
  · exact ⟨_, stands, fun _ => recorded⟩

/-- When the probe is due, this instant is an attempt no older than the last one. -/
theorem Probing.due (due : elapsed tried retry now) (held : Probing retry tried now home) :
    Probing retry (some now) now home := by
  rcases held with free | ⟨last, stands, recorded, old⟩
  · exact .inl free
  · refine .inr ⟨last, stands, recorded, fun before was => ⟨now, rfl, ?_⟩⟩
    obtain ⟨attempt, rfl, order⟩ := old before was
    simp only [elapsed, all_some, decide_eq_true_eq] at due
    omega

/-- A report that is due is admitted. -/
theorem Probing.sent (due : elapsed tried retry now) (held : Probing retry tried now home)
    (identity : Option Bytes) :
    Probing retry (some now) now (home.log (.sent .status identity)) := by
  rcases held with free | ⟨last, stands, recorded, old⟩
  · exact .inl (free.log rfl)
  · refine .inr ⟨some now, stands.log ?_, recorded, fun before was => ⟨now, rfl, ?_⟩⟩
    · refine if_pos ?_
      cases last with
      | none => rfl
      | some before =>
        obtain ⟨attempt, rfl, order⟩ := old before rfl
        simp only [elapsed, all_some, decide_eq_true_eq] at due ⊢
        omega
    · exact .inr (some.inj was).ge

theorem Probing.accepted (held : Probing retry tried now home) :
    Mode retry (home.log .accepted) .free := by
  rcases held with free | ⟨last, stands, -⟩
  · exact free.log rfl
  · exact stands.log rfl

theorem Probing.awake (held : Probing retry memory.lastTerminalRetry now home)
    (terminal : memory.terminal.isSome) (cleared : memory.terminalClearPending = false) :
    ∃ mode, Awake retry memory home mode := by
  have never : ¬ memory.terminal = none := isSome_iff_ne_none.1 terminal
  rcases held with free | ⟨last, stands, recorded, old⟩
  · exact ⟨.free, free, fun other => absurd rfl other, cleared, fun none => absurd none never,
      nofun, nofun⟩
  · refine ⟨_, stands, fun _ => ⟨recorded, terminal⟩, cleared, fun none => absurd none never,
      nofun, ?_⟩
    rintro before _ ⟨⟩
    exact old before rfl

/-- What a probe leaves: acceptance, or the terminal mode with this attempt. -/
def Probed (retry now : Nat) (accepted : Bool) (home : Home) : Prop :=
  if accepted = true then Mode retry home .free else Probing retry (some now) now home

theorem Probed.asleep {accepted : Bool} (held : Probed retry now accepted home) :
    Asleep retry home := by
  unfold Probed at held
  split at held
  · exact Mode.asleep held
  · exact Probing.asleep held

/-- The ledger is rewritten. -/
theorem Probed.stored {accepted : Bool} (state : AuthTerminal)
    (held : Probed retry now accepted home) :
    Probed retry now accepted { home with authTerminal := .intact state } := by
  unfold Probed at held ⊢
  split at held
  next yes =>
    rw [if_pos yes]
    exact held
  next no =>
    rw [if_neg no]
    refine held.imp id ?_
    rintro ⟨last, stands, -, old⟩
    exact ⟨last, stands, ⟨state, rfl⟩, old⟩

theorem triple_retryTerminalProbe (input : TurnInput Key) (state : AuthTerminal)
    (due : elapsed tried retry input.now) :
    TripleOr A (Probing retry tried input.now) (retryTerminalProbe lib input state)
      (fun probed => Probed retry input.now probed.2) (Asleep retry) := by
  have reported : TripleOr A (Probing retry tried input.now)
      (reportStatusToControlPlane lib input.env input.probe)
      (fun outcome home => if outcome = .success then Mode retry home .free
        else Probing retry tried input.now home ∨ Probing retry (some input.now) input.now home)
      (Probing retry tried input.now) :=
    triple_reportStatus input.env input.probe probing_only
      (fun _ identity held => held.sent due identity) fun _ held => held.accepted
  refine triple_bind (reported.cut fun _ held => held.asleep) fun outcome => ?_
  have refused (home : Home) (held : Probing retry tried input.now home ∨
      Probing retry (some input.now) input.now home) : Probed retry input.now false home :=
    held.elim (·.due due) id
  cases outcome with
  | success => exact triple_pure fun _ => id
  | failed => exact triple_pure refused
  | terminal code =>
    by_cases same : code = state.code <;> simp only [same, if_true, if_false] <;>
      exact triple_pure refused

theorem triple_terminalTurn (memory : LoopMemory) {state : AuthTerminal} (input : TurnInput Key)
    (terminal : memory.terminal = some state) (cleared : memory.terminalClearPending = false) :
    Passes retry (Probing retry memory.lastTerminalRetry input.now)
      (terminalTurn lib retry memory state input)
      fun after home => ∃ mode, Awake retry after home mode := by
  unfold terminalTurn
  split
  next due =>
    refine triple_bind (triple_retryTerminalProbe input state due) fun probed =>
      triple_bind (Q := fun _ => Probed retry input.now probed.2) (triple_attempt
        (triple_effect (fun _ held _ => held.stored probed.1) (fun _ _ held _ => held)
          fun _ held _ => held.asleep)) fun _ => ?_
    split
    next accepted =>
      -- the mode is over; the ledger goes, and the turn continues as an ordinary one
      refine triple_bind (Q := fun done home => done = .ok () ∧ Mode retry home .free)
        (triple_attempt (triple_effect ?_ ?_ ?_)) fun done => triple_assume fun works => ?_
      · intro home held _
        exact ⟨rfl, by simpa [Probed, accepted, Mode] using held⟩
      · intro home err held works
        cases works (.inr (.inl rfl))
      · exact fun home held _ => held.asleep
      · subst works
        exact ((triple_ordinaryTurn _ input).before fun _ free => ⟨rfl, rfl, .inl free⟩).after
          fun _ _ held => held.awake
    next refused =>
      refine triple_pure fun home held => ?_
      have probing : Probing retry (some input.now) input.now home := by
        simpa [Probed, refused] using held
      exact probing.awake rfl cleared
  next early => exact triple_pure fun home held => held.awake (terminal ▸ rfl) cleared

/-- At the beginning of a turn the loop is ordinary or about to probe. -/
theorem Awake.turned (awake : Awake retry memory home mode) (now : Nat) :
    (memory.terminal = none → Ordinary retry memory (home.log (.turn now))) ∧
      (memory.terminal ≠ none → Probing retry memory.lastTerminalRetry now
        (home.log (.turn now))) := by
  cases mode with
  | free =>
    exact ⟨fun none => ⟨awake.cleared, awake.fresh none, .inl (awake.stands.log rfl)⟩,
      fun _ => .inl (awake.stands.log rfl)⟩
  | noted =>
    obtain ⟨recorded, terminal⟩ := awake.recorded nofun
    refine ⟨fun none => by simp [none] at terminal, fun _ => .inr ⟨none, ?_, recorded, nofun⟩⟩
    exact awake.stands.log rfl
  | quiet last before =>
    obtain ⟨recorded, terminal⟩ := awake.recorded nofun
    refine ⟨fun none => by simp [none] at terminal, fun _ => .inr ⟨last, ?_, recorded, ?_⟩⟩
    · exact awake.stands.log rfl
    · rintro attempt rfl
      exact awake.last attempt before rfl

/-- **One turn**, of a loop that is awake. -/
theorem triple_turn (input : TurnInput Key) (cleared : memory.terminalClearPending = false) :
    Passes retry (fun home => Awake retry memory home mode) (turn lib retry memory input)
      fun after home => ∃ mode, Awake retry after home mode := by
  refine triple_bind (Q := fun _ home =>
    (memory.terminal = none → Ordinary retry memory home) ∧
      (memory.terminal ≠ none → Probing retry memory.lastTerminalRetry input.now home))
    (triple_modify fun home awake => awake.turned input.now) fun _ => ?_
  have through : ∀ rest : LoopMemory → Enroll LoopMemory, (pure memory >>= rest) = rest memory :=
    fun _ => rfl
  rw [clearTerminalLedgerIfPending, if_neg (by simp [cleared]), through]
  cases terminal : memory.terminal with
  | none =>
    exact ((triple_ordinaryTurn memory input).before fun _ held => held.1 rfl).after
      fun _ _ held => held.awake
  | some state =>
    exact (triple_terminalTurn memory input terminal cleared).before fun _ held =>
      held.2 (by simp)

end Turns

/-! ## Starts -/

section Starts

variable {Key : Type} {lib : Libraries Key}

/-- A process is starting, with a rejection on record. -/
def Starting (retry : Nat) (home : Home) : Prop :=
  Mode retry home (.quiet none none) ∧ OnRecord home

theorem starting_only (home other : Home) (same : other.outside = home.outside)
    (held : Starting retry home) : Starting retry other :=
  ⟨held.1.outside same, held.2.outside same⟩

theorem free_closed : SentClosed fun home => Mode retry home .free where
  only home other ledger history held := by
    unfold Mode
    rw [history]
    exact held
  sent home request identity held := held.log rfl

theorem Starting.asleep (held : Starting retry home) : Asleep retry home :=
  ⟨_, held.1, fun _ => held.2⟩

theorem quiet_initializeRuntimeState (env : Surroundings Key) :
    Quiet lib (initializeRuntimeState env) := by
  refine leaves_bind (quiet_loadRuntimeState env) fun state => leaves_bind leaves_get fun home => ?_
  split
  · exact leaves_throw
  · exact quiet_storeRuntimeState _

theorem triple_loadTerminalLedger :
    Passes retry (Starting retry) loadTerminalLedger
      fun terminal home => terminal.isSome ∧ Starting retry home := by
  refine triple_bind (Q := fun read home => read = .ok () ∧ Starting retry home)
    (triple_attempt (triple_effect (fun _ held _ => ⟨rfl, held⟩) ?_ fun _ held _ => held.asleep))
    fun read => triple_assume fun works => ?_
  · intro home err held works
    cases works (.inr (.inr rfl))
  · subst works
    refine triple_read fun home => ?_
    cases found : home.authTerminal with
    | intact state => exact triple_pure fun _ held => ⟨rfl, held.2⟩
    | missing | corrupt =>
      refine triple_absurd fun now held => ?_
      obtain ⟨state, other⟩ := held.2.2
      rw [← held.1, found] at other
      cases other

theorem keeps_loadTerminalLedger {A : Event Effect Home EnrollmentError → Prop} :
    Keeps A (fun home => Mode retry home .free) loadTerminalLedger := by
  refine keeps_bind (keeps_attempt (keeps_effect fun _ => id)) fun read =>
    keeps_bind keeps_get fun home => ?_
  split
  · exact keeps_pure
  · exact keeps_pure
  · exact keeps_bind (keeps_attempt (keeps_effect fun _ => id)) fun _ => keeps_pure

/-- What is there when a start is over: a loop, or nothing. -/
def Started (retry : Nat) : Option LoopMemory → Home → Prop
  | none, home => Asleep retry home
  | some memory, home => ∃ mode, Awake retry memory home mode

/-- A start, with no rejection on record. -/
theorem triple_boot_free (input : BootInput Key) :
    Passes retry (fun home => Mode retry home .free) (boot lib input) (Started retry) := by
  have keeps {α : Type} {prog : Enroll α} :
      Keeps LedgerWorks (fun home => Mode retry home .free) prog →
        Passes retry (fun home => Mode retry home .free) prog fun _ home => Mode retry home .free :=
    passes_keeps fun _ held => held.asleep
  refine triple_bind (Q := fun _ home => Mode retry home .free)
    (triple_modify fun home held => Mode.log held rfl) fun _ =>
      triple_bind (keeps (keeps_ensureEnrolled free_closed)) fun _ => triple_bind
        (keeps ((@quiet_initializeRuntimeState _ lib input.env).keeps free_closed.outside)) fun _ => ?_
  split
  · exact triple_bind (Q := fun _ home => Mode retry home .free)
      (triple_modify fun home held => held.log rfl) fun _ => triple_pure fun _ held => held.asleep
  · exact triple_bind (keeps keeps_loadTerminalLedger) fun terminal => triple_pure fun home held =>
      ⟨.free, held, fun other => absurd rfl other, rfl, fun _ => rfl, nofun, nofun⟩

/-- A start with a rejection on record that has nothing to ask. -/
theorem triple_boot_recorded (input : BootInput Key) (daemon : input.runOnce = false) :
    Passes retry (fun home => mayAsk lib input.env { home with config := input.config } = false ∧
        OnRecord home ∧ ∃ mode ≠ .free, Mode retry home mode) (boot lib input) (Started retry) := by
  refine triple_bind (Q := fun _ home => mayAsk lib input.env home = false ∧ Starting retry home)
    (triple_modify ?_) fun _ => triple_bind (Q := fun _ => Starting retry)
      ((triple_ensureEnrolled_quiet starting_only).cut fun _ held => held.asleep) fun _ =>
      triple_bind (passes_keeps (fun _ held => held.asleep)
        ((@quiet_initializeRuntimeState _ lib input.env).keeps starting_only)) fun _ => ?_
  · rintro home ⟨silent, recorded, mode, other, stands⟩
    have read : watch retry mode .booted = some (.quiet none none) := by
      cases mode with
      | free => exact absurd rfl other
      | noted | quiet last now => rfl
    exact ⟨silent, Mode.log stands read, recorded⟩
  · rw [if_neg (by simp [daemon])]
    refine triple_bind triple_loadTerminalLedger fun terminal => triple_pure fun home held => ?_
    exact ⟨_, held.2.1, fun _ => ⟨held.2.2, held.1⟩, rfl, fun _ => rfl, nofun, nofun⟩

end Starts

/-! ## Runs -/

section Runs

variable {Key : Type} (lib : Libraries Key)

/-- With a rejection on record, the start has nothing to enroll or renew and is not a single
tick. -/
def BootInput.Silent (input : BootInput Key) (home : Home) : Prop :=
  OnRecord home → input.runOnce = false ∧
    mayAsk lib input.env { home with config := input.config } = false
deriving Decidable

/-- The ledger works, and starts are silent. -/
def MachineEvent.Allowed (retry : Nat) (machine : Machine) : MachineEvent Key → Prop
  | .boot input fates => input.Silent lib machine.home ∧
      ∀ event ∈ (Terminal.boot lib input fates machine.home).trace, LedgerWorks event
  | .turn input fates => ∀ memory ∈ machine.process,
      ∀ event ∈ (Terminal.turn lib retry memory input fates machine.home).trace, LedgerWorks event
  | .die => True

instance (retry : Nat) (machine : Machine) :
    (event : MachineEvent Key) → Decidable (event.Allowed lib retry machine)
  | .boot _ _ => inferInstanceAs (Decidable (_ ∧ ∀ event ∈ _, LedgerWorks event))
  | .turn _ _ => inferInstanceAs (Decidable (∀ memory ∈ machine.process, _))
  | .die => .isTrue trivial

/-- The monitor admits everything that has happened. -/
def Quiescent (retry : Nat) (home : Home) : Prop :=
  (run (watch retry) .free home.history).isSome

structure Machine.Sound (retry : Nat) (machine : Machine) : Prop where
  asleep : Asleep retry machine.home
  awake : ∀ memory, machine.process = some memory → ∃ mode, Awake retry memory machine.home mode

theorem Machine.Sound.quiescent {machine : Machine} (sound : machine.Sound retry) :
    Quiescent retry machine.home := by
  obtain ⟨mode, stands, -⟩ := sound.asleep
  exact isSome_iff_exists.2 ⟨mode, stands⟩

variable {lib}

theorem Started.sound {process : Option LoopMemory} (started : Started retry process home) :
    Machine.Sound retry ⟨home, process⟩ := by
  cases process with
  | none => exact ⟨started, nofun⟩
  | some memory =>
    obtain ⟨mode, awake⟩ := started
    exact ⟨awake.asleep, fun _ same => some.inj same ▸ ⟨mode, awake⟩⟩

theorem boot_started {input : BootInput Key} {fates : List (Fate EnrollmentError)}
    (asleep : Asleep retry home) (silent : input.Silent lib home)
    (works : ∀ event ∈ (boot lib input fates home).trace, LedgerWorks event) :
    Started retry (boot lib input fates home).outcome.value?.join
      (boot lib input fates home).state := by
  obtain ⟨mode, stands, recorded⟩ := asleep
  by_cases free : mode = .free
  · subst free
    exact Ends.result (R := fun value => Started retry value.join) (triple_boot_free input) fates
      stands works
  · obtain ⟨daemon, asks⟩ := silent (recorded free)
    exact Ends.result (R := fun value => Started retry value.join)
      (triple_boot_recorded input daemon) fates ⟨asks, recorded free, mode, free, stands⟩ works

theorem step_sound {machine next : Machine} {event : MachineEvent Key}
    (sound : machine.Sound retry) (allowed : event.Allowed lib retry machine)
    (stepped : machine.step lib retry event = some next) : next.Sound retry := by
  cases event with
  | boot input fates =>
    simp only [Machine.step] at stepped
    split at stepped
    · cases stepped
    · cases stepped
      exact (boot_started sound.asleep allowed.1 allowed.2).sound
  | turn input fates =>
    simp only [Machine.step] at stepped
    split at stepped
    · cases stepped
    next memory running =>
      cases stepped
      obtain ⟨mode, awake⟩ := sound.awake memory running
      exact (Ends.result (R := Started retry) (triple_turn input awake.cleared) fates awake
        (allowed memory running)).sound
  | die =>
    cases stepped
    exact Started.sound sound.asleep

end Runs

/-- **Terminal quiescence**: in every run of starts, turns and deaths in which the ledger works and
no start with a rejection on record has something to enroll or renew, from the turn or start after a
recorded rejection until an accepted report nothing is collected, and nothing is sent but status
reports in turns at least the retry interval apart in each process. -/
theorem terminal_quiescence {Key : Type} (lib : Libraries Key) (retry : Nat) (home : Home)
    (events : List (MachineEvent Key)) (final : Machine) (unwritten : home.history = [])
    (allowed : Along (Machine.step lib retry) (fun machine event => event.Allowed lib retry machine)
      ⟨home, none⟩ events)
    (ran : run (Machine.step lib retry) ⟨home, none⟩ events = some final) :
    Quiescent retry final.home := by
  have free : Mode retry home .free := by rw [Mode, unwritten, run_nil]
  have start : Machine.Sound retry ⟨home, none⟩ := Started.sound free.asleep
  have sound : final.Sound retry :=
    run_induction_along (fun _ _ _ sound meets stepped => step_sound sound meets stepped) start
      allowed ran
  exact sound.quiescent

end

/-! ## A restart that renews -/

namespace Restart

open Enrollment.TornWrite (lib env home)

/-- The gateway answers every enrollment and renewal like this. -/
def answering (response : Response) : Surroundings Unit :=
  { env with replies := fun _ => some response }

def revoked : Response := ⟨401, "certificate_revoked"⟩

/-- The configuration file does not name the agent; the state directory does. -/
def config : AgentConfig := { home.config with agent := ⟨none, none, none⟩ }

/-- `TERMINAL_RETRY_INTERVAL` -/
def interval : Nat := 300 * second

def start (now : Nat) : MachineEvent Unit :=
  .boot ⟨now * second, answering revoked, config, false⟩ []

/-- A turn, with the replies to its probe and its report. -/
def turnAt (now : Nat) (probe report : Option Response) : MachineEvent Unit :=
  .turn ⟨now * second, answering revoked, probe, report, ["/api/v1/agent/work"], false⟩ []

/-- The certificate is due: the first turn finds it revoked, and the process is started again. -/
def events : List (MachineEvent Unit) := [start 0, turnAt 1 none none, .die, start 10]

/-- The certificate is not due. -/
def renewed : Home := home.put .certificate (some (ascii "new"))

/-- A report is rejected; the process is started again; two probes are, a third is accepted. -/
def quietEvents : List (MachineEvent Unit) :=
  [start 0, turnAt 3 none (some revoked), turnAt 6 (some revoked) none, .die, start 10,
    turnAt 11 (some revoked) none, turnAt 14 (some revoked) none, turnAt 400 (some ⟨200, ""⟩) none]

end Restart

open Restart in
open Enrollment.TornWrite (lib) in
theorem terminal_quiescence_restart :
    ∃ final, run (Machine.step lib interval) ⟨renewed, none⟩ quietEvents = some final ∧
      Happening.recorded ∈ final.home.history ∧ Quiescent interval final.home := by
  have found : (run (Machine.step lib interval) ⟨renewed, none⟩ quietEvents).map
      (fun final => decide (Happening.recorded ∈ final.home.history)) = some true := by
    decide +kernel
  obtain ⟨final, ran, recorded⟩ := map_eq_some_iff.1 found
  exact ⟨final, ran, of_decide_eq_true recorded,
    terminal_quiescence lib interval renewed quietEvents final rfl (by decide +kernel) ran⟩

open Restart in
open Enrollment.TornWrite (lib home) in
/-- No effect fails, and the second start asks for a renewal. -/
theorem restart_renews :
    ∃ final, home.history = [] ∧ run (Machine.step lib interval) ⟨home, none⟩ events = some final ∧
      ¬ Quiescent interval final.home := by
  have found : (run (Machine.step lib interval) ⟨home, none⟩ events).map
      (fun final => (run (watch interval) .free final.home.history).isSome) = some false := by
    decide +kernel
  obtain ⟨final, ran, noisy⟩ := map_eq_some_iff.1 found
  exact ⟨final, rfl, ran, fun quiescent => Bool.false_ne_true (noisy.symm.trans quiescent)⟩

end WistAgentd.Terminal
