/- # Theory.KeyedFold -- what a loop leaves at one key

A loop over a list whose turns each touch one key of a map can be read key by key: at a key, only
the turns of that key count.

* `foldl_keeps`: what no turn changes.
* `foldl_at`: the general rule, for any way to look into the state.
* `foldl_toList_at`: the same over the entries of a tree map. -/
import Mathlib.Data.List.Basic

namespace WistAgentd.Theory.KeyedFold
open List Std
set_option autoImplicit false

variable {σ χ κ V : Type}

/-- What no turn changes, the loop does not. -/
theorem foldl_keeps {α : Type} (part : σ → α) (turn : σ → χ → σ)
    (keeps : ∀ s item, part (turn s item) = part s) (items : List χ) (s : σ) :
    part (items.foldl turn s) = part s := by
  induction items generalizing s with
  | nil => rfl
  | cons item rest ih => rw [foldl_cons, ih, keeps]

theorem nodup_toList_keys {cmp : κ → κ → Ordering} [TransCmp cmp]
    (entries : ExtTreeMap κ V cmp) : (entries.toList.map (·.1)).Nodup := by
  rw [ExtTreeMap.map_fst_toList_eq_keys]
  exact ExtTreeMap.nodup_keys

variable [DecidableEq κ]

section

variable (look : σ → κ → V) (key : χ → κ) (update : χ → V → V) {turn : σ → χ → σ}

/-- Each turn touches its own key only; so at one key, only the turns of that key count. -/
theorem foldl_at (touches : ∀ s item k, look (turn s item) k =
      if key item = k then update item (look s k) else look s k)
    (k : κ) (items : List χ) (s : σ) :
    look (items.foldl turn s) k =
      (items.filter (key · = k)).foldl (fun held item => update item held) (look s k) := by
  induction items generalizing s with
  | nil => rfl
  | cons item rest ih =>
    rw [foldl_cons, ih, touches]
    by_cases same : key item = k <;> simp [same]

/-- Where no two items share a key, at most one turn counts. -/
theorem foldl_at_of_nodup (touches : ∀ s item k, look (turn s item) k =
      if key item = k then update item (look s k) else look s k)
    {items : List χ} (distinct : (items.map key).Nodup) {item : χ} (mem : item ∈ items) (s : σ) :
    look (items.foldl turn s) (key item) = update item (look s (key item)) := by
  have only : items.filter (key · = key item) = [item] := by
    induction items with
    | nil => cases mem
    | cons first rest ih =>
      rw [map_cons, nodup_cons] at distinct
      rcases mem_cons.1 mem with rfl | later
      · have none : rest.filter (key · = key item) = [] := by
          refine filter_eq_nil_iff.2 fun other inRest => ?_
          simp only [decide_eq_true_eq]
          exact fun same => distinct.1 (same ▸ mem_map_of_mem inRest)
        simp [none]
      · have other : key first ≠ key item :=
          fun same => distinct.1 (same ▸ mem_map_of_mem later)
        simp [other, ih distinct.2 later]
  rw [foldl_at look key update touches, only]
  rfl

end

section TreeMap

variable {V W : Type} {cmp : κ → κ → Ordering} [TransCmp cmp] [LawfulEqCmp cmp]

/-- A loop over the entries of a map meets every key once. -/
theorem foldl_toList_at (look : σ → κ → W) (key : κ × V → κ) (update : κ × V → W → W)
    {turn : σ → κ × V → σ}
    (touches : ∀ s entry k, look (turn s entry) k =
      if key entry = k then update entry (look s k) else look s k)
    (entries : ExtTreeMap κ V cmp)
    (keyed : ∀ k value, entries[k]? = some value → key (k, value) = k) (k : κ) (s : σ) :
    look (entries.toList.foldl turn s) k =
      entries[k]?.elim (look s k) fun value => update (k, value) (look s k) := by
  have own : ∀ entry ∈ entries.toList, key entry = entry.1 := fun entry mem =>
    keyed entry.1 entry.2 (ExtTreeMap.mem_toList_iff_getElem?_eq_some.1 mem)
  cases found : entries[k]? with
  | some value =>
    have distinct : (entries.toList.map key).Nodup := by
      rw [map_congr_left own]
      exact nodup_toList_keys entries
    have mem := ExtTreeMap.mem_toList_iff_getElem?_eq_some.2 found
    have at_key := foldl_at_of_nodup look key update touches distinct mem s
    rwa [keyed k value found] at at_key
  | none =>
    have missing : entries.toList.filter (key · = k) = [] := by
      refine filter_eq_nil_iff.2 fun entry mem => ?_
      simp only [decide_eq_true_eq]
      intro same
      rw [own entry mem] at same
      subst same
      rw [ExtTreeMap.mem_toList_iff_getElem?_eq_some.1 mem] at found
      cases found
    rw [foldl_at look key update touches, missing]
    rfl

end TreeMap

end WistAgentd.Theory.KeyedFold
