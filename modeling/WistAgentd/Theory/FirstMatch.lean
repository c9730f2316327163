/- # Theory.FirstMatch -- lists that are searched, updated and thinned by position

A list is cut at the first element that meets a test; each operation is then an equation about the
two sides of the cut.

* `first_match`: the cut.
* `updateFirst_of_first`, `findIdx?_of_first`, `find?_of_first`: the operations at it.
* `pairwise_replace`, `keepAt_append`: one element exchanged; everything thinned but one position. -/
import Mathlib.Data.List.Basic

namespace WistAgentd.Theory.FirstMatch
open List
set_option autoImplicit false

variable {α : Type} {test : α → Bool} {before after : List α} {item : α}

/-- Replace the first element that meets the test. -/
def updateFirst (test : α → Bool) (update : α → α) : List α → List α
  | [] => []
  | item :: rest => if test item then update item :: rest else item :: updateFirst test update rest

/-- Keep one position, and of the others what meets the test. -/
def keepAt (keep : α → Bool) (index : Nat) (items : List α) : List α :=
  (items.zipIdx.filter fun item => decide (item.2 = index) || keep item.1).map Prod.fst

/-- Nothing in `before` meets the test and `item` does. -/
structure First (test : α → Bool) (before : List α) (item : α) : Prop where
  skipped : ∀ other ∈ before, test other = false
  met : test item = true

theorem first_match (test : α → Bool) (items : List α) :
    (∀ item ∈ items, test item = false) ∨
      ∃ before item after, items = before ++ item :: after ∧ First test before item := by
  cases found : items.find? test with
  | none => exact .inl fun item mem => by simpa using List.find?_eq_none.1 found item mem
  | some item =>
    obtain ⟨met, before, after, rfl, skipped⟩ := List.find?_eq_some_iff_append.1 found
    exact .inr ⟨before, item, after, rfl, fun other mem => by simpa using skipped other mem,
      met⟩

theorem find?_of_first (first : First test before item) :
    (before ++ item :: after).find? test = some item := by
  rw [List.find?_eq_some_iff_append]
  exact ⟨first.met, before, after, rfl, fun other mem => by simp [first.skipped other mem]⟩

theorem findIdx?_of_first (after : List α) (first : First test before item) :
    (before ++ item :: after).findIdx? test = some before.length := by
  have none_ : before.findIdx? test = none := List.findIdx?_eq_none_iff.2 first.skipped
  rw [List.findIdx?_append, none_]
  simp [List.findIdx?_cons, first.met]

theorem updateFirst_of_none {items : List α} (update : α → α)
    (skipped : ∀ item ∈ items, test item = false) : updateFirst test update items = items := by
  induction items with
  | nil => rfl
  | cons head rest ih =>
    rw [updateFirst, skipped head mem_cons_self, if_neg (by simp),
      ih fun item mem => skipped item (mem_cons_of_mem _ mem)]

theorem updateFirst_of_first (update : α → α) (first : First test before item) :
    updateFirst test update (before ++ item :: after) = before ++ update item :: after := by
  obtain ⟨skipped, met⟩ := first
  induction before with
  | nil => simp [updateFirst, met]
  | cons head rest ih =>
    rw [cons_append, updateFirst, skipped head mem_cons_self, if_neg (by simp),
      ih fun other mem => skipped other (mem_cons_of_mem _ mem)]
    rfl

theorem length_updateFirst (update : α → α) (items : List α) :
    (updateFirst test update items).length = items.length := by
  induction items with
  | nil => rfl
  | cons head rest ih =>
    rw [updateFirst]
    split <;> simp [ih]

theorem mem_updateFirst {update : α → α} {items : List α}
    (mem : item ∈ updateFirst test update items) :
    item ∈ items ∨ ∃ old ∈ items, test old = true ∧ item = update old := by
  induction items with
  | nil => cases mem
  | cons head rest ih =>
    rw [updateFirst] at mem
    split at mem
    · rename_i met
      rcases mem_cons.1 mem with rfl | later
      · exact .inr ⟨head, mem_cons_self, met, rfl⟩
      · exact .inl (mem_cons_of_mem _ later)
    · rcases mem_cons.1 mem with rfl | later
      · exact .inl mem_cons_self
      · rcases ih later with old | ⟨old, inRest, same⟩
        · exact .inl (mem_cons_of_mem _ old)
        · exact .inr ⟨old, mem_cons_of_mem _ inRest, same⟩

/-- Replacing one element keeps a pairwise relation that holds of the new one and the others. -/
theorem pairwise_replace {R : α → α → Prop} {new : α}
    (held : (before ++ item :: after).Pairwise R) (left : ∀ other ∈ before, R other new)
    (right : ∀ other ∈ after, R new other) : (before ++ new :: after).Pairwise R := by
  obtain ⟨inBefore, inAfter, across⟩ := pairwise_append.1 held
  refine pairwise_append.2 ⟨inBefore, pairwise_cons.2
    ⟨right, (pairwise_cons.1 inAfter).2⟩, fun other mem last inLast => ?_⟩
  rcases mem_cons.1 inLast with rfl | inAfter
  · exact left other mem
  · exact across other mem last (mem_cons_of_mem _ inAfter)

theorem map_fst_filter_zipIdx_of_lt (keep : α → Bool) (items : List α) (start index : Nat)
    (outside : index < start ∨ start + items.length ≤ index) :
    ((items.zipIdx start).filter fun item => decide (item.2 = index) || keep item.1).map Prod.fst =
      items.filter keep := by
  induction items generalizing start with
  | nil => rfl
  | cons head rest ih =>
    have away : start ≠ index := by
      simp only [length_cons] at outside
      omega
    have further := ih (start + 1) (by simp only [length_cons] at outside; omega)
    rw [zipIdx_cons, filter_cons, filter_cons]
    by_cases kept : keep head = true
    · simp [kept, further]
    · simp [kept, away, further]

theorem keepAt_append (keep : α → Bool) :
    keepAt keep before.length (before ++ item :: after) =
      before.filter keep ++ item :: after.filter keep := by
  unfold keepAt
  rw [zipIdx_append, filter_append, map_append,
    map_fst_filter_zipIdx_of_lt keep before 0 before.length (by omega), zipIdx_cons,
    filter_cons_of_pos (by simp), map_cons, Nat.zero_add,
    map_fst_filter_zipIdx_of_lt keep after _ _ (by omega)]

end WistAgentd.Theory.FirstMatch
