/- # Control.WorkIds -- the ids of the collection tasks

Every log input and every exporter run is known by an id made of the work's family, the unit and a
number; checkpoint, spool and cursor files are named after it. The parts are joined by dashes, and
dashes also stand for every character a file name should not hold.

* `Task.Clash`: what two tasks must have in common to share an id.
* `inputIds_nodup_iff`: the ids are distinct exactly if no two tasks clash. -/
import WistAgentd.Control.PlainContracts

namespace WistAgentd.Control
open List
set_option autoImplicit false

/-- A source of a unit that becomes a task. -/
structure Task where
  family : String
  unitId : String
  exporter : Bool
  /-- How many tasks of its kind the unit has, and which one this is. -/
  count : Nat
  index : Nat

namespace Task

def inputId (task : Task) : String :=
  if task.exporter then
    exporterInputId task.family task.unitId (taskSuffix task.count task.index)
  else logInputId task.family task.unitId (taskSuffix task.count task.index)

/-- What follows the family: unit, kind and number. -/
def tail (task : Task) : String :=
  safeToken task.unitId ++ (if task.exporter then "-exporter" else "") ++
    taskSuffix task.count task.index

/-- The two tasks agree in the family and in the rest, or the family of one goes on where the rest
of the other begins. -/
def Clash (a b : Task) : Prop :=
  (safeToken a.family = safeToken b.family ∧ a.tail = b.tail) ∨
  (∃ more, safeToken b.family = safeToken a.family ++ "-" ++ more ∧ a.tail = more ++ "-" ++ b.tail) ∨
  ∃ more, safeToken a.family = safeToken b.family ++ "-" ++ more ∧ b.tail = more ++ "-" ++ a.tail

theorem inputId_eq (task : Task) :
    task.inputId = "work-" ++ (safeToken task.family ++ "-" ++ task.tail) := by
  unfold inputId tail exporterInputId logInputId
  split <;> simp [String.append_assoc]

end Task

/-- Where a list can be cut at a mark in two ways, one head goes on into the other tail. -/
theorem marked_eq_iff {α : Type} (mark : α) (head tail head' tail' : List α) :
    head ++ mark :: tail = head' ++ mark :: tail' ↔
      (head = head' ∧ tail = tail') ∨
      (∃ more, head' = head ++ mark :: more ∧ tail = more ++ mark :: tail') ∨
      ∃ more, head = head' ++ mark :: more ∧ tail' = more ++ mark :: tail := by
  constructor
  · intro same
    rcases append_eq_append_iff.1 same with ⟨spent, longer, rest⟩ | ⟨spent, longer, rest⟩
    · cases spent with
      | nil => exact .inl ⟨by simpa using longer.symm, by simpa using rest⟩
      | cons first more =>
        obtain ⟨rfl, after⟩ := cons_eq_cons.1 rest
        exact .inr (.inl ⟨more, longer, after⟩)
    · cases spent with
      | nil => exact .inl ⟨by simpa using longer, by simpa using rest.symm⟩
      | cons first more =>
        obtain ⟨rfl, after⟩ := cons_eq_cons.1 rest
        exact .inr (.inr ⟨more, longer, after⟩)
  · rintro (⟨rfl, rfl⟩ | ⟨more, rfl, rfl⟩ | ⟨more, rfl, rfl⟩) <;> simp

theorem dashed_eq_iff (head tail head' tail' : String) :
    head ++ "-" ++ tail = head' ++ "-" ++ tail' ↔
      (head = head' ∧ tail = tail') ∨
      (∃ more, head' = head ++ "-" ++ more ∧ tail = more ++ "-" ++ tail') ∨
      ∃ more, head = head' ++ "-" ++ more ∧ tail' = more ++ "-" ++ tail := by
  have text : ∀ {a b c d : String}, (∃ more : List Char, a.toList = b.toList ++ '-' :: more ∧
      c.toList = more ++ '-' :: d.toList) ↔ ∃ more, a = b ++ "-" ++ more ∧ c = more ++ "-" ++ d := by
    intro a b c d
    constructor
    · rintro ⟨more, first, second⟩
      refine ⟨String.ofList more, ?_, ?_⟩ <;> simp [← String.toList_inj, first, second]
    · rintro ⟨more, rfl, rfl⟩
      exact ⟨more.toList, by simp, by simp⟩
  rw [← String.toList_inj, ← text, ← text]
  simpa [String.toList_inj] using marked_eq_iff '-' head.toList tail.toList head'.toList tail'.toList

theorem Task.inputId_eq_iff (a b : Task) : a.inputId = b.inputId ↔ a.Clash b := by
  rw [inputId_eq, inputId_eq, String.append_right_inj]
  exact dashed_eq_iff ..

namespace AppliedWorkGrant

section Tasks

variable (contracts : Contracts) (self : AppliedWorkGrant)

def logTasks (family : String) (unit : WorkSpecUnit) : List Task :=
  let globs := executableFileSources contracts unit
  globs.zipIdx.map fun entry =>
    { family, unitId := unit.unitId, exporter := false, count := globs.length, index := entry.2 }

def exporterTasks (family : String) (unit : WorkSpecUnit) : List Task :=
  let exporters := knownExporters contracts unit
  exporters.zipIdx.filterMap fun entry =>
    (contracts.parseExporterTarget entry.1.target).map fun _ =>
      { family, unitId := unit.unitId, exporter := true, count := exporters.length
        index := entry.2 }

/-- The units that collect logs, with the family of their work. -/
def logUnits : List (String × WorkSpecUnit) :=
  self.workingSpecs.flatMap fun entry =>
    (entry.2.2.units.filter (·.capability == "collect_logs")).map fun unit => (entry.2.1, unit)

/-- Every source the grant makes a task of, by its place in the grant. -/
def collectionTasks : List Task :=
  self.logUnits.flatMap (fun entry => logTasks contracts entry.1 entry.2) ++
    self.logUnits.flatMap fun entry => exporterTasks contracts entry.1 entry.2

/-- The ids of all log inputs and exporter runs. -/
def inputIds : List String :=
  (self.logInputs contracts).map (·.input.inputId) ++ (self.exporterRuns contracts).map (·.inputId)

end Tasks

theorem inputIds_eq (contracts : Contracts) (self : AppliedWorkGrant) :
    self.inputIds contracts = (self.collectionTasks contracts).map Task.inputId := by
  have logs : ∀ workId family unit, (unitLogInputs contracts workId family unit).map
      (·.input.inputId) = (logTasks contracts family unit).map Task.inputId := by
    intro workId family unit
    simp [unitLogInputs, logTasks, Task.inputId, Function.comp_def]
  have exporters : ∀ workId family unit, (unitExporterRuns contracts workId family unit).map
      (·.inputId) = (exporterTasks contracts family unit).map Task.inputId := by
    intro workId family unit
    simp [unitExporterRuns, exporterTasks, Task.inputId, Function.comp_def, map_filterMap]
  simp only [inputIds, logInputs, exporterRuns, collectionTasks, logUnits, map_append,
    map_flatMap, flatMap_assoc, flatMap_map, logs, exporters]

/-- **The ids are distinct exactly if no two tasks clash.** -/
theorem inputIds_nodup_iff (contracts : Contracts) (self : AppliedWorkGrant) :
    (self.inputIds contracts).Nodup ↔
      (self.collectionTasks contracts).Pairwise fun a b => ¬ a.Clash b := by
  rw [inputIds_eq, List.Nodup, pairwise_map]
  simp only [ne_eq, Task.inputId_eq_iff]

namespace Dotted

def unit (unitId : String) : WorkSpecUnit where
  unitId := unitId
  capability := "collect_logs"
  ruleRef := ""
  requiresPrivilege := ""
  sources := [⟨"FileGlob", "/" ++ unitId, "none", [], ⟨[], [], [], []⟩, []⟩]

/-- Every text stands for two units whose ids differ in one character. -/
def contracts : Contracts :=
  { plainContracts with
    parseSpec := fun _ => .ok { units := [unit "nginx.access", unit "nginx-access"] } }

def grant : WorkGrant where
  standing := [⟨"w", "web", "", 1, "", "active"⟩]
  oneShot := []
  sequence := 1

end Dotted

open Dotted in
/-- Two units of one work share an id, and with it checkpoint and spool. -/
theorem inputIds_shared :
    ((({} : AppliedWorkGrant).apply contracts grant).2).inputIds contracts =
        ["work-web-nginx-access", "work-web-nginx-access"] ∧
      ¬ ((({} : AppliedWorkGrant).apply contracts grant).2.inputIds
        contracts).Nodup := by
  decide +kernel

end AppliedWorkGrant

end WistAgentd.Control
