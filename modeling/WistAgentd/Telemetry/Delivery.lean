/- # Telemetry.Delivery -- no record is lost between sink and spool

A record is accounted for when a sink acknowledged it or it is parked in the spool. Replay keeps
that at every point where it can be cut off, since it empties the spool only after every line of it
was acknowledged; delivery appends only to the spool that replay left empty.

* `Accounted`: acknowledged or parked.
* `parseableRecords`, `unreadableText`: what is due to the sink and to the quarantine file.
* `replayLoop_exact`: what the loop of a replay has done, wherever it stops.
* `replaySpoolIfPresent_accounts`: replay loses nothing, and a replay that succeeds leaves nothing.
* `deliverRecords_accounts`: a delivery that succeeds accounts for its whole batch. -/
import WistAgentd.Telemetry.Spool

namespace WistAgentd.Telemetry
open Theory.Crash Theory.Utf8
open List
set_option autoImplicit false

variable {w : World}

def Accounted (ext : Externals) (inputId : String) (w : World) (record : TelemetryRecord) : Prop :=
  record ∈ w.accepted ∨ Parked ext (w.stores inputId).spool record

/-- The spool of the input is these bytes. -/
def SpoolIs (inputId : String) (bytes : Bytes) (w : World) : Prop :=
  (w.stores inputId).spool = bytes

/-- All of `records` have been acknowledged. -/
def AllAccepted (records : TelemetryRecord → Prop) (w : World) : Prop :=
  ∀ record, records record → record ∈ w.accepted

def AllAccounted (ext : Externals) (inputId : String) (records : TelemetryRecord → Prop)
    (w : World) : Prop :=
  ∀ record, records record → Accounted ext inputId w record

/-- The records on the lines, in order. -/
def parseableRecords (ext : Externals) (lines : List Bytes) : List TelemetryRecord :=
  lines.filterMap fun line => if isBlank line then none else parseRecordLine ext line

/-- The lines that are neither blank nor a record, as the quarantine file gets them. -/
def unreadableText (ext : Externals) (lines : List Bytes) : Bytes :=
  lines.flatMap fun line =>
    if isBlank line || (parseRecordLine ext line).isSome then []
    else if line.getLast? = some newline then line else line ++ [newline]

/-- Records as they leave for a sink. -/
def sentTo (sink : Sink) (records : List TelemetryRecord) : List Departure :=
  records.map fun record => ⟨.sink sink, .log record⟩

/-- The two logs of the sink and the two files of the input. -/
structure ReplayState (inputId : String) (accepted : List TelemetryRecord)
    (departures : List Departure) (bad spool : Bytes) (w : World) : Prop where
  accepted : w.accepted = accepted
  departures : w.departures = departures
  bad : (w.stores inputId).bad = bad
  spool : (w.stores inputId).spool = spool

/-- The sink got the first of `due` and the spool is what it was. -/
def Interrupted (sink : Sink) (inputId : String) (departures : List Departure)
    (due : List TelemetryRecord) (spool : Bytes) (w : World) : Prop :=
  (w.stores inputId).spool = spool ∧
    ∃ sent, sent <+: due ∧ w.departures = departures ++ sentTo sink sent

section Frame

variable {I J : World → Prop} {inputId : String}

theorem SinkBlind.and (left : SinkBlind I) (right : SinkBlind J) :
    SinkBlind fun w => I w ∧ J w where
  depart w via frame held := ⟨left.depart w via frame held.1, right.depart w via frame held.2⟩
  accept w records held := ⟨left.accept w records held.1, right.accept w records held.2⟩
  appendBad w other bytes held :=
    ⟨left.appendBad w other bytes held.1, right.appendBad w other bytes held.2⟩

theorem sinkBlind_spoolIs (bytes : Bytes) : SinkBlind (SpoolIs inputId bytes) where
  depart _ _ _ held := held
  accept _ _ held := held
  appendBad w other bytes held := by
    unfold SpoolIs World.appendBad
    by_cases here : inputId = other
    · rw [here, World.updateStore_same, ← here]
      exact held
    · rw [World.updateStore_other _ _ here]
      exact held

/-- Acknowledgements are never taken back. -/
theorem deliveryBlind_accepted (records : TelemetryRecord → Prop) :
    DeliveryBlind (AllAccepted records) where
  depart _ _ _ held := held
  accept _ _ held record mem := mem_append_left _ (held record mem)
  appendBad _ _ _ held := held
  appendSpool _ _ _ held := held
  clearSpool _ _ held := held

end Frame

section Delivery

variable {A : Event Effect World IoError → Prop} {ext : Externals} {sink : Sink}
  {inputId : String} {base text : Bytes}

/-! ## Replay -/

section Replay

variable {accepted due : List TelemetryRecord} {departures : List Departure} {bad spool : Bytes}

theorem ReplayState.interrupted (state : ReplayState inputId accepted departures bad spool w)
    (due : List TelemetryRecord) : Interrupted sink inputId departures due spool w :=
  ⟨state.spool, [], nil_prefix, by rw [state.departures, sentTo, map_nil, append_nil]⟩

theorem Interrupted.extend (state : Interrupted sink inputId departures due spool w)
    (more : List TelemetryRecord) :
    Interrupted sink inputId departures (due ++ more) spool w := by
  obtain ⟨same, sent, part, gone⟩ := state
  exact ⟨same, sent, part.trans (prefix_append _ _), gone⟩

theorem Interrupted.shift {front : List TelemetryRecord}
    (state : Interrupted sink inputId (departures ++ sentTo sink front) due spool w) :
    Interrupted sink inputId departures (front ++ due) spool w := by
  obtain ⟨same, sent, part, gone⟩ := state
  refine ⟨same, front ++ sent, (prefix_append_right_inj front).2 part, ?_⟩
  rw [gone, append_assoc, sentTo, sentTo, sentTo, map_append]

variable (records : List TelemetryRecord)

/-- The records go out one by one. -/
theorem sendAll_exact (departures : List Departure) :
    TripleOr A (ReplayState inputId accepted departures bad spool)
      (Prog.forEach records fun record =>
        Prog.effect (.send (.log record)) fun w => w.depart (.sink sink) (.log record))
      (fun _ => ReplayState inputId accepted (departures ++ sentTo sink records) bad spool)
      (Interrupted sink inputId departures records spool) := by
  induction records generalizing departures with
  | nil =>
    rw [sentTo, map_nil, append_nil]
    exact triple_pure fun _ => id
  | cons record rest ih =>
    have sent : sentTo sink (record :: rest) = sentTo sink [record] ++ sentTo sink rest := rfl
    rw [sent, ← append_assoc]
    refine triple_bind (Q := fun _ =>
      ReplayState inputId accepted (departures ++ sentTo sink [record]) bad spool)
      (tripleOr_effect (fun w held => ⟨held.accepted, ?_, held.bad, held.spool⟩)
        fun w held => held.interrupted _) fun _ => ?_
    · rw [World.depart, held.departures]
      rfl
    · exact (ih (departures ++ sentTo sink [record])).cut fun _ held => held.shift

theorem writeRecords_exact :
    TripleOr A (ReplayState inputId accepted departures bad spool) (writeRecords sink records)
      (fun _ => ReplayState inputId (accepted ++ records) (departures ++ sentTo sink records) bad spool)
      (Interrupted sink inputId departures records spool) := by
  unfold writeRecords
  split
  · rename_i empty
    rw [empty, sentTo, map_nil, append_nil, append_nil]
    exact triple_pure fun _ => id
  · have whole : ∀ w, ReplayState inputId accepted (departures ++ sentTo sink records) bad spool w →
        Interrupted sink inputId departures records spool w :=
      fun w held => ⟨held.spool, records, prefix_rfl, held.departures⟩
    refine triple_bind (Q := fun result w => match result with
      | .ok _ => ReplayState inputId (accepted ++ records) (departures ++ sentTo sink records) bad spool w
      | .error _ => Interrupted sink inputId departures records spool w)
      (triple_attempt (triple_bind (sendAll_exact records departures) fun _ => ?_)) fun result => ?_
    · exact tripleOr_effect (fun w held =>
        ⟨congrArg (· ++ records) held.accepted, held.departures, held.bad, held.spool⟩) whole
    · cases result with
      | ok value => exact triple_pure fun w held => held
      | error err => exact triple_throw fun w held => held

theorem appendBad_exact (state : ReplayState inputId accepted departures bad spool w)
    (bytes : Bytes) :
    ReplayState inputId accepted departures (bad ++ bytes) spool (w.appendBad inputId bytes) := by
  refine ⟨state.accepted, state.departures, ?_, ?_⟩
  · rw [World.appendBad, World.updateStore_same, state.bad]
  · rw [World.appendBad, World.updateStore_same]
    exact state.spool

theorem quarantineLine_exact (line : Bytes) (due : List TelemetryRecord) :
    TripleOr A (ReplayState inputId accepted departures bad spool) (quarantineLine inputId line)
      (fun _ => ReplayState inputId accepted departures
        (bad ++ if line.getLast? = some newline then line else line ++ [newline]) spool)
      (Interrupted sink inputId departures due spool) := by
  refine triple_bind (Q := fun _ => ReplayState inputId accepted departures (bad ++ line) spool)
    (tripleOr_effect (fun w held => appendBad_exact held line) fun w held => held.interrupted _)
    fun _ => ?_
  split
  · exact triple_pure fun _ => id
  · rw [← append_assoc]
    exact tripleOr_effect (fun w held => appendBad_exact held _) fun w held => held.interrupted _

/-- The loop, from any point: what it delivers and quarantines when it gets to the end, and that the
sink has a part of it otherwise. -/
theorem replayLoop_exact (batchSize : Nat) (lines : List Bytes) (batch : List TelemetryRecord)
    (replayed : Nat) :
    TripleOr A (ReplayState inputId accepted departures bad spool)
      (replayLoop ext sink inputId batchSize lines batch replayed)
      (fun count w => (∀ line ∈ lines, validUtf8 line = true) ∧
        count = replayed + (batch ++ parseableRecords ext lines).length ∧
        ReplayState inputId (accepted ++ (batch ++ parseableRecords ext lines))
          (departures ++ sentTo sink (batch ++ parseableRecords ext lines))
          (bad ++ unreadableText ext lines) spool w)
      (Interrupted sink inputId departures (batch ++ parseableRecords ext lines) spool) := by
  induction lines generalizing accepted departures bad batch replayed with
  | nil =>
    simp only [parseableRecords, unreadableText, filterMap_nil, flatMap_nil, append_nil]
    unfold replayLoop
    split
    · rename_i empty
      rw [empty]
      refine triple_pure fun w held => ⟨by simp, by simp, ?_⟩
      rw [sentTo, map_nil, append_nil, append_nil]
      exact held
    · exact triple_bind (writeRecords_exact batch) fun _ =>
        triple_pure fun w held => ⟨by simp, rfl, held⟩
  | cons line rest ih =>
    unfold replayLoop
    by_cases valid : validUtf8 line = true
    · rw [if_neg (by simp [valid])]
      have all : (∀ other ∈ rest, validUtf8 other = true) →
          ∀ other ∈ line :: rest, validUtf8 other = true := by
        intro later other mem
        rcases mem_cons.1 mem with rfl | inside
        · exact valid
        · exact later other inside
      by_cases blank : isBlank line = true
      · have records : parseableRecords ext (line :: rest) = parseableRecords ext rest := by
          simp [parseableRecords, blank]
        have bads : unreadableText ext (line :: rest) = unreadableText ext rest := by
          simp [unreadableText, blank]
        rw [if_pos blank, records, bads]
        exact (ih batch replayed).after (fun _ _ held => ⟨all held.1, held.2⟩)
      · rw [if_neg blank]
        cases parsed : parseRecordLine ext line with
        | some record =>
          have records : batch ++ parseableRecords ext (line :: rest) =
              batch ++ [record] ++ parseableRecords ext rest := by
            simp [parseableRecords, blank, parsed]
          have bads : unreadableText ext (line :: rest) = unreadableText ext rest := by
            simp [unreadableText, parsed]
          rw [records, bads]
          dsimp only
          split
          · -- a full batch: the rest of the loop starts with what it has sent
            refine triple_bind ((writeRecords_exact (batch ++ [record])).cut fun _ held =>
              held.extend _) fun _ => ?_
            refine ((ih [] _).after fun count w held => ?_).cut fun _ held => held.shift
            obtain ⟨later, counted, state⟩ := held
            refine ⟨all later, ?_, ?_⟩
            · rw [counted, nil_append]
              simp only [length_append]
              omega
            · rw [nil_append, append_assoc accepted, append_assoc departures] at state
              rw [sentTo, map_append]
              exact state
          · exact (ih (batch ++ [record]) replayed).after (fun _ _ held => ⟨all held.1, held.2⟩)
        | none =>
          have records : parseableRecords ext (line :: rest) = parseableRecords ext rest := by
            simp [parseableRecords, parsed]
          have bads : unreadableText ext (line :: rest) =
              (if line.getLast? = some newline then line else line ++ [newline]) ++
                unreadableText ext rest := by
            simp [unreadableText, blank, parsed]
          rw [records, bads, ← append_assoc bad]
          exact triple_bind (quarantineLine_exact line _) fun _ =>
            (ih batch replayed).after (fun _ _ held => ⟨all held.1, held.2⟩)
    · rw [if_pos (by simpa using valid)]
      exact triple_throw fun w held => held.interrupted _

theorem replayRecords_exact (batchSize : Nat) :
    TripleOr A (ReplayState inputId accepted departures bad spool)
      (replayRecords ext sink inputId batchSize)
      (fun count w => (∀ line ∈ splitLines spool, validUtf8 line = true) ∧
        count = (parseableRecords ext (splitLines spool)).length ∧
        ReplayState inputId (accepted ++ parseableRecords ext (splitLines spool))
          (departures ++ sentTo sink (parseableRecords ext (splitLines spool)))
          (bad ++ unreadableText ext (splitLines spool)) [] w)
      (Interrupted sink inputId departures (parseableRecords ext (splitLines spool)) spool) := by
  refine triple_bind (Q := fun _ => ReplayState inputId accepted departures bad spool)
    (tripleOr_effect (fun _ => id) fun w held => held.interrupted _) fun _ => ?_
  refine triple_bind (Q := fun (v : World) w => (v.stores inputId).spool = spool ∧
    ReplayState inputId accepted departures bad spool w) (triple_get fun w held => ⟨held.spool, held⟩)
    fun v => triple_assume fun same => ?_
  rw [same]
  refine triple_bind (replayLoop_exact batchSize (splitLines spool) [] 0) fun count => ?_
  simp only [nil_append, Nat.zero_add]
  refine triple_bind (tripleOr_effect
      (fun w held => ⟨held.1, held.2.1, held.2.2.accepted, held.2.2.departures, ?_, ?_⟩)
      fun w held => ⟨held.2.2.spool, _, prefix_rfl, held.2.2.departures⟩)
    fun _ => triple_pure fun _ => id
  · rw [World.clearSpool, World.updateStore_same]
    exact held.2.2.bad
  · rw [World.clearSpool, World.updateStore_same]

end Replay

variable (records : List TelemetryRecord)

/-- A write that succeeds has been acknowledged as a whole. -/
theorem writeRecords_accepted (base : Bytes) :
    TripleOr A (SpoolIs inputId base) (writeRecords sink records)
      (fun _ w => SpoolIs inputId base w ∧ AllAccepted (· ∈ records) w) (SpoolIs inputId base) := by
  refine triple_start fun start held => triple_weaken (@writeRecords_exact A sink inputId
    start.accepted start.departures (start.stores inputId).bad base records) ?_
    (fun _ w state => ⟨state.spool, fun record mem => ?_⟩) (fun _ _ cut => cut.1) fun _ cut => cut.1
  · rintro w rfl
    exact ⟨rfl, rfl, rfl, held⟩
  · rw [state.accepted]
    exact mem_append_right _ mem

theorem Parked.parseable {spool : Bytes} {record : TelemetryRecord} (parked : Parked ext spool record) :
    record ∈ parseableRecords ext (splitLines spool) := by
  obtain ⟨line, mem, visible, parsed⟩ := parked
  exact mem_filterMap.2 ⟨line, mem, by simp [visible, parsed]⟩

theorem hasRecords_spec {I : World → Prop} :
    TripleOr A I (hasRecords inputId)
      (fun present w => I w ∧ present = decide (0 < (w.stores inputId).spool.length)) I := by
  refine triple_bind (Q := fun _ => I) (keeps_effect fun _ => id) fun _ => ?_
  refine triple_bind (Q := fun v w => I w ∧ v = w) (triple_get fun w held => ⟨held, rfl⟩) fun v => ?_
  exact triple_pure fun w held => ⟨held.1, by rw [held.2]⟩

theorem AllAccepted.accounted {records : TelemetryRecord → Prop} (accepted : AllAccepted records w) :
    AllAccounted ext inputId records w :=
  fun record mem => .inl (accepted record mem)

theorem AllAccounted.accepted {records : TelemetryRecord → Prop}
    (accounted : AllAccounted ext inputId records w) (empty : SpoolIs inputId [] w) :
    AllAccepted records w := by
  intro record mem
  rcases accounted record mem with accepted | parked
  · exact accepted
  · rw [empty] at parked
    exact absurd parked (not_parked_nil ext record)

/-- **Replay loses nothing.** Wherever it is cut off, what was accounted for still is; once it has
succeeded the spool is empty and all of it is acknowledged. -/
theorem replaySpoolIfPresent_accounts (ext : Externals) (sink : Sink) (inputId : String)
    (records : TelemetryRecord → Prop) :
    TripleOr A (AllAccounted ext inputId records) (replaySpoolIfPresent ext sink inputId)
      (fun _ w => SpoolIs inputId [] w ∧ AllAccepted records w)
      (AllAccounted ext inputId records) := by
  refine triple_bind hasRecords_spec fun present => ?_
  cases present with
  | false =>
    refine triple_pure fun w held => ?_
    have empty : SpoolIs inputId [] w := by
      have none_ := of_decide_eq_false held.2.symm
      exact length_eq_zero_iff.1 (by omega)
    exact ⟨empty, held.1.accepted empty⟩
  | true =>
    refine triple_start fun start held => ?_
    -- what was acknowledged stays so, and the spool is left alone until the whole of it is
    have still : ∀ w, AllAccepted (· ∈ start.accepted) w ∧ Interrupted sink inputId start.departures
        (parseableRecords ext (splitLines (start.stores inputId).spool))
        (start.stores inputId).spool w → AllAccounted ext inputId records w := by
      rintro w ⟨kept, spool, -⟩ record mem
      refine (held.1 record mem).imp (kept record) fun parked => ?_
      rw [spool]
      exact parked
    refine triple_weaken (triple_and (replayRecords_keeps (deliveryBlind_accepted
      (· ∈ start.accepted))) (@replayRecords_exact A ext sink inputId start.accepted
      start.departures (start.stores inputId).bad _ _)) ?_ (fun _ w replayed => ?_) (fun _ => still) still
    · rintro w rfl
      exact ⟨fun _ => id, rfl, rfl, rfl, rfl⟩
    · obtain ⟨kept, -, -, state⟩ := replayed
      refine ⟨state.spool, fun record mem => ?_⟩
      rcases held.1 record mem with accepted | parked
      · exact kept record accepted
      · rw [state.accepted]
        exact mem_append_right _ parked.parseable

/-! ## Appending -/

/-- The append of `text` behind `base` got to some point. -/
def WrittenUpTo (inputId : String) (base text : Bytes) (w : World) : Prop :=
  ∃ torn, torn <+: text ∧ SpoolIs inputId (base ++ torn) w

theorem SpoolIs.append {bytes : Bytes} (held : SpoolIs inputId bytes w) (more : Bytes) :
    SpoolIs inputId (bytes ++ more) (w.appendSpool inputId more) := by
  unfold SpoolIs World.appendSpool
  rw [World.updateStore_same, ← held]

theorem SpoolIs.unwritten (held : SpoolIs inputId base w) (text : Bytes) :
    WrittenUpTo inputId base text w :=
  ⟨[], nil_prefix, by rw [append_nil]; exact held⟩

theorem WrittenUpTo.shift {front : Bytes}
    (written : WrittenUpTo inputId (base ++ front) text w) :
    WrittenUpTo inputId base (front ++ text) w := by
  obtain ⟨torn, cut, held⟩ := written
  refine ⟨front ++ torn, (prefix_append_right_inj front).2 cut, ?_⟩
  rw [← append_assoc]
  exact held

theorem WrittenUpTo.extend (written : WrittenUpTo inputId base text w) (more : Bytes) :
    WrittenUpTo inputId base (text ++ more) w := by
  obtain ⟨torn, cut, held⟩ := written
  exact ⟨torn, cut.trans (prefix_append _ _), held⟩

theorem writeBytes_writes (bytes base : Bytes) :
    TripleOr A (SpoolIs inputId base)
      (Prog.forEach bytes fun byte =>
        Prog.effect (.writeSpool inputId) fun w => w.appendSpool inputId [byte])
      (fun _ => SpoolIs inputId (base ++ bytes)) (WrittenUpTo inputId base bytes) := by
  induction bytes generalizing base with
  | nil =>
    rw [append_nil]
    exact triple_pure fun w held => held
  | cons byte rest ih =>
    refine triple_bind (Q := fun _ => SpoolIs inputId (base ++ [byte]))
      (tripleOr_effect (fun w held => held.append _) fun w held => held.unwritten _) fun _ => ?_
    refine ((ih (base ++ [byte])).after fun _ _ held => ?_).cut fun _ held => held.shift
    rw [append_assoc] at held
    exact held

theorem writeLines_writes (base : Bytes) :
    TripleOr A (SpoolIs inputId base)
      (Prog.forEach records fun record => do
        Prog.forEach (ext.encodeRecord record) fun byte =>
          Prog.effect (.writeSpool inputId) fun w => w.appendSpool inputId [byte]
        Prog.modify fun w => w.depart (.spool inputId) (.log record)
        Prog.effect (.writeSpool inputId) fun w => w.appendSpool inputId [newline])
      (fun _ => SpoolIs inputId (base ++ spoolText ext records))
      (WrittenUpTo inputId base (spoolText ext records)) := by
  induction records generalizing base with
  | nil =>
    rw [spoolText, flatMap_nil, append_nil]
    exact triple_pure fun w held => held
  | cons record rest ih =>
    have inLine : ∀ w, WrittenUpTo inputId base (ext.encodeRecord record) w →
        WrittenUpTo inputId base (spoolText ext (record :: rest)) w := by
      intro w held
      rw [spoolText_cons, append_assoc]
      exact held.extend _
    have lineDone : ∀ w, SpoolIs inputId (base ++ ext.encodeRecord record) w →
        WrittenUpTo inputId base (spoolText ext (record :: rest)) w :=
      fun w held => inLine w ⟨_, prefix_rfl, held⟩
    refine triple_bind (Q := fun _ =>
      SpoolIs inputId (base ++ (ext.encodeRecord record ++ [newline]))) ?_ fun _ => ?_
    · refine triple_bind ((writeBytes_writes (ext.encodeRecord record) base).cut inLine) fun _ => ?_
      refine triple_bind (Q := fun _ => SpoolIs inputId (base ++ ext.encodeRecord record))
        (triple_modify fun w held => held) fun _ => ?_
      rw [← append_assoc]
      exact tripleOr_effect (fun w held => held.append _) lineDone
    · rw [spoolText_cons]
      refine ((ih (base ++ (ext.encodeRecord record ++ [newline]))).after fun _ _ held => ?_).cut
        fun _ held => held.shift
      rw [append_assoc] at held
      exact held

theorem appendRecords_writes (base : Bytes) :
    TripleOr A (SpoolIs inputId base) (appendRecords ext inputId records)
      (fun _ => SpoolIs inputId (base ++ spoolText ext records))
      (WrittenUpTo inputId base (spoolText ext records)) := by
  unfold appendRecords
  split
  · rename_i empty
    rw [empty, spoolText, flatMap_nil, append_nil]
    exact triple_pure fun w held => held
  · refine triple_bind (Q := fun _ => SpoolIs inputId base)
      (tripleOr_effect (fun _ => id) fun w held => held.unwritten _) fun _ => ?_
    refine triple_bind (writeLines_writes records base) fun _ => ?_
    exact tripleOr_effect (fun _ => id) fun w held => ⟨_, prefix_rfl, held⟩

/-! ## Delivering -/

theorem stageAll_covers (maxBytes used : Nat) (records : List TelemetryRecord)
    {record : TelemetryRecord} (mem : record ∈ records) :
    record ∈ (stageAll maxBytes used records).staged ∨
      record ∈ (stageAll maxBytes used records).overflowed := by
  induction records generalizing used with
  | nil => cases mem
  | cons first rest ih =>
    unfold stageAll
    rcases mem_cons.1 mem with rfl | later
    · split
      · exact .inr mem_cons_self
      · exact .inl mem_cons_self
    · split
      · exact (ih used later).imp id (mem_cons_of_mem _)
      · exact (ih _ later).imp (mem_cons_of_mem _) id

/-- Either the batch is acknowledged and the spool as before, or all of it stands behind what the
spool held; when it fails, a part of it does. -/
theorem sendOrSpool_writes (staged : List TelemetryRecord) (base : Bytes) :
    TripleOr A (SpoolIs inputId base) (sendOrSpool ext sink inputId staged)
      (fun _ w => (SpoolIs inputId base w ∧ AllAccepted (· ∈ staged) w) ∨
        SpoolIs inputId (base ++ spoolText ext staged) w)
      (WrittenUpTo inputId base (spoolText ext staged)) := by
  unfold sendOrSpool
  split
  · rename_i empty
    refine triple_pure fun w held => .inl ⟨held, fun record mem => ?_⟩
    rw [empty] at mem
    cases mem
  · refine triple_bind (Q := fun result w => SpoolIs inputId base w ∧
      (result = .ok () → AllAccepted (· ∈ staged) w)) (triple_attempt (triple_weaken
        (writeRecords_accepted staged base) (fun _ => id)
        (fun _ _ held => ⟨held.1, fun _ => held.2⟩)
        (fun _ _ held => ⟨held, fun ok => by cases ok⟩) fun _ held => held.unwritten _)) fun sent => ?_
    cases sent with
    | ok value => exact triple_pure fun w held => .inl ⟨held.1, held.2 rfl⟩
    | error err =>
      refine triple_bind (Q := fun result w => WrittenUpTo inputId base (spoolText ext staged) w ∧
        (result = .ok () → SpoolIs inputId (base ++ spoolText ext staged) w)) (triple_attempt
          (triple_weaken (appendRecords_writes staged base) (fun _ held => held.1)
            (fun _ _ held => ⟨⟨_, prefix_rfl, held⟩, fun _ => held⟩)
            (fun _ _ held => ⟨held, fun ok => by cases ok⟩) fun _ => id)) fun spooled => ?_
      cases spooled with
      | ok value => exact triple_pure fun w held => .inr (held.2 rfl)
      | error spoolErr => exact triple_throw fun _ held => held.1

/-- From the empty spool replay leaves: the overflow is appended, then the staged records are
acknowledged or appended too. -/
theorem deliverRecords_writes (budget : Nat) (records : List TelemetryRecord) :
    let overflow := spoolText ext (stageAll budget 0 records).overflowed
    let staged := (stageAll budget 0 records).staged
    TripleOr A (SpoolIs inputId []) (deliverRecords ext sink inputId budget records)
      (fun _ w => (SpoolIs inputId overflow w ∧ AllAccepted (· ∈ staged) w) ∨
        SpoolIs inputId (overflow ++ spoolText ext staged) w)
      (WrittenUpTo inputId [] (overflow ++ spoolText ext staged)) := by
  intro overflow staged
  refine triple_bind (hasRecords_spec.cut fun _ held => held.unwritten _) fun present => ?_
  cases present with
  | true =>
    refine triple_absurd fun w held => ?_
    have some_ := of_decide_eq_true held.2.symm
    rw [held.1] at some_
    exact absurd some_ (Nat.lt_irrefl 0)
  | false =>
    refine triple_bind (triple_bind (((appendRecords_writes _ []).before fun _ held => held.1).cut
      fun _ held => held.extend _) fun _ => ?_) fun _ => triple_pure fun _ => id
    exact triple_bind ((sendOrSpool_writes _ _).cut fun _ held => held.shift)
      fun _ => triple_pure fun _ => id

/-- **A delivery that succeeds accounts for its batch.** -/
theorem deliverRecords_accounts (codec : ext.SpoolCodec) (budget : Nat)
    (records : List TelemetryRecord) :
    TripleOr A (SpoolIs inputId []) (deliverRecords ext sink inputId budget records)
      (fun _ => AllAccounted ext inputId (· ∈ records)) fun _ => True := by
  refine ((deliverRecords_writes budget records).after fun _ w held record mem => ?_).cut
    fun _ _ => trivial
  have covered := stageAll_covers budget 0 records mem
  rcases held with ⟨spool, sent⟩ | spool
  · rcases covered with staged | overflowed
    · exact .inl (sent record staged)
    · refine .inr ?_
      rw [spool, ← append_nil (spoolText _ _)]
      exact parked_spoolText codec overflowed []
  · refine .inr ?_
    rw [spool, ← spoolText_append, ← append_nil (spoolText _ _)]
    exact parked_spoolText codec (mem_append.2 covered.symm) []

end Delivery

end WistAgentd.Telemetry
