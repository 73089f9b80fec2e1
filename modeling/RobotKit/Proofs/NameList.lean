import Mathlib.Data.List.Sort
import RobotKit.Link.Order

/-!
# Lists of names

`distinct` keeps the first copy of every name, and `sortNames` puts names in increasing order. That
one name stands before another in a list is written `[a, b].Sublist list`: the list may hold
anything before, between and after the two.
-/

namespace RobotKit.Link

open List

variable {names : List String}

/-! ## Distinct names -/

@[simp] theorem mem_distinct {name : String} :
    name ∈ distinct names ↔ name ∈ names := mem_eraseDups

/-- The list shrinks by all copies of its head, so an induction may pass over them. -/
theorem induct_distinct {P : List String → Prop} (nil : P [])
    (cons : ∀ name rest, P (rest.filter fun b => !b == name) → P (name :: rest))
    (names : List String) : P names := by
  induction h : names.length using Nat.strongRecOn generalizing names with
  | ind n ih =>
    cases names with
    | nil => exact nil
    | cons name rest =>
      have hshort := length_filter_le (fun b => !b == name) rest
      rw [length_cons] at h
      exact cons name rest (ih _ (by omega) _ rfl)

theorem nodup_distinct (names : List String) : (distinct names).Nodup := by
  induction names using induct_distinct with
  | nil => exact nodup_nil
  | cons name rest ih =>
    rw [distinct, eraseDups_cons, nodup_cons]
    exact ⟨by simp, ih⟩

/-- It makes no difference whether names are left out before or after copies are. -/
theorem distinct_filter (keep : String → Bool) (names : List String) :
    distinct (names.filter keep) = (distinct names).filter keep := by
  induction names using induct_distinct with
  | nil => rfl
  | cons name rest hrest =>
    simp only [distinct, filter_filter] at hrest
    by_cases hname : keep name
    · simp only [distinct, filter_cons_of_pos hname, eraseDups_cons,
        filter_filter, ← hrest]
      simp only [Bool.and_comm]
    · rw [filter_cons_of_neg hname, distinct, distinct, eraseDups_cons,
        filter_cons_of_neg hname, ← hrest]
      -- the name itself is left out anyway
      congr 1
      refine filter_congr fun b _ => ?_
      by_cases hb : b = name
      · simp [hb, hname]
      · simp [hb]

/-- What stands in a later part of a list, and not in an earlier one, stays behind the names of
the earlier part. -/
theorem pair_sublist_distinct_append {a b : String} {before after : List String}
    (ha : a ∈ before) (hb : b ∉ before) (hafter : b ∈ after) :
    [a, b].Sublist (distinct (before ++ after)) := by
  rw [distinct, eraseDups_append]
  have hfirst : [a].Sublist before.eraseDups :=
    singleton_sublist.mpr (mem_eraseDups.mpr ha)
  have hsecond : [b].Sublist (after.removeAll before).eraseDups := by
    rw [singleton_sublist, mem_eraseDups, List.removeAll, mem_filter]
    exact ⟨hafter, by simpa using hb⟩
  exact hfirst.append hsecond

/-- In a list without repetitions two members have only one order. -/
theorem not_pair_sublist_of_nodup {α : Type} {a b : α} {members : List α}
    (hnodup : members.Nodup) (hab : [a, b].Sublist members) : ¬ [b, a].Sublist members := by
  induction members with
  | nil => simp at hab
  | cons first rest ih =>
    obtain ⟨hfirst, hrest⟩ := nodup_cons.mp hnodup
    intro hba
    grind

/-! ## Sorted names -/

theorem insertName_eq (name : String) (names : List String) :
    insertName name names = names.orderedInsert (· ≤ ·) name := by
  induction names with
  | nil => rfl
  | cons first rest ih => rw [insertName, ih, List.orderedInsert]

theorem sortNames_eq (names : List String) : sortNames names = names.insertionSort (· ≤ ·) := by
  induction names with
  | nil => rfl
  | cons name rest ih =>
    rw [insertionSort_cons, ← ih, ← insertName_eq]
    rfl

theorem sortNames_perm (names : List String) : (sortNames names).Perm names := by
  rw [sortNames_eq]
  exact perm_insertionSort _ names

@[simp] theorem mem_sortNames {name : String} :
    name ∈ sortNames names ↔ name ∈ names := (sortNames_perm names).mem_iff

theorem nodup_sortNames (h : names.Nodup) : (sortNames names).Nodup :=
  (sortNames_perm names).nodup_iff.mpr h

theorem pairwise_sortNames (names : List String) : (sortNames names).Pairwise (· ≤ ·) := by
  have htotal : Std.Total fun a b : String => a ≤ b := ⟨String.le_total⟩
  have htrans : IsTrans String (· ≤ ·) := ⟨fun _ _ _ => String.le_trans⟩
  rw [sortNames_eq]
  exact pairwise_insertionSort _ names

theorem pairwise_lt_sortNames (h : names.Nodup) : (sortNames names).Pairwise (· < ·) :=
  ((pairwise_sortNames names).and (nodup_sortNames h)).imp fun hab =>
    String.not_le.mp fun hle => hab.2 (String.le_antisymm hab.1 hle)

/-- A smaller name stands before a greater one. -/
theorem pair_sublist_of_pairwise {a b : String} (hsorted : names.Pairwise (· ≤ ·))
    (ha : a ∈ names) (hb : b ∈ names) (hab : a < b) :
    [a, b].Sublist names := by
  induction names with
  | nil => simp at ha
  | cons name rest ih =>
    obtain ⟨hname, hrest⟩ := pairwise_cons.mp hsorted
    rcases mem_cons.mp ha with rfl | ha'
    · rcases mem_cons.mp hb with rfl | hb'
      · exact absurd hab (String.lt_irrefl b)
      · exact (singleton_sublist.mpr hb').cons_cons a
    · rcases mem_cons.mp hb with rfl | hb'
      · exact absurd hab (String.not_lt.mpr (hname a ha'))
      · exact (ih hrest ha' hb').cons name

end RobotKit.Link
