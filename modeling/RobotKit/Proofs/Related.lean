import Mathlib.Data.List.Forall2
import RobotKit.Link.Scan
import RobotKit.Table

/-!
# Related names and tables

A relation between names that respects their order carries over to what is made of lists of them:
copies are removed, names sorted and symbols walked in the same places. Tables are related when
their entries are, one by one; then look-ups and insertions under related names give related
results.
-/

namespace RobotKit

open List
open Relator (BiUnique)

variable {name name' : String} {names names' : List String} {symbol symbol' : String}

section Options

variable {α β γ δ : Type} {R : α → β → Prop} {S : γ → δ → Prop}

theorem rel_getD {a : Option α} {b : Option β} (h : Option.Rel R a b) {x : α} {y : β}
    (hdefault : R x y) : R (a.getD x) (b.getD y) := by
  cases h with
  | some h => exact h
  | none => exact hdefault

theorem rel_optionBind {a : Option α} {b : Option β} (h : Option.Rel R a b) {f : α → Option γ}
    {g : β → Option δ} (hf : ∀ x y, R x y → Option.Rel S (f x) (g y)) :
    Option.Rel S (a.bind f) (b.bind g) := by
  cases h with
  | some h => exact hf _ _ h
  | none => exact .none

theorem rel_isSome {a : Option α} {b : Option β} (h : Option.Rel R a b) :
    a.isSome = b.isSome := by
  cases h with
  | some h => rfl
  | none => rfl

@[simp] theorem rel_eq_iff {a b : Option α} : Option.Rel Eq a b ↔ a = b := by
  constructor
  · intro h
    cases h with
    | some h => exact congrArg some h
    | none => rfl
  · rintro rfl
    cases a with
    | some value => exact .some rfl
    | none => exact .none

theorem rel_findSome? {items : List α} {f : α → Option γ} {g : α → Option δ}
    (h : ∀ item, Option.Rel S (f item) (g item)) :
    Option.Rel S (items.findSome? f) (items.findSome? g) := by
  induction items with
  | nil => exact .none
  | cons item rest ih =>
    rw [findSome?_cons, findSome?_cons]
    have hitem := h item
    generalize f item = a, g item = b at hitem
    cases hitem with
    | some hitem => exact .some hitem
    | none => exact ih

/-- Two loops over the same items stay related if their steps do. -/
theorem rel_foldl_same {items : List γ} {f : α → γ → α} {g : β → γ → β}
    (hstep : ∀ x y item, R x y → R (f x item) (g y item)) {x : α} {y : β} (h : R x y) :
    R (items.foldl f x) (items.foldl g y) := by
  induction items generalizing x y with
  | nil => exact h
  | cons item rest ih => exact ih (hstep x y item h)

theorem biUnique_eq : BiUnique (@Eq α) :=
  ⟨fun _ _ _ h h' => h.trans h'.symm, fun _ _ _ h h' => h.symm.trans h'⟩

end Options

/-! ## Tables -/

namespace Table

variable {α β γ δ : Type} {K : String → String → Prop} {R : α → β → Prop} {S : γ → δ → Prop}

/-- Are the entries of two tables related, one by one? -/
def Related (K : String → String → Prop) (R : α → β → Prop) (t : Table α) (t' : Table β) : Prop :=
  Forall₂ (fun entry entry' => K entry.1 entry'.1 ∧ R entry.2 entry'.2) t.entries t'.entries

namespace Related

theorem empty : Related K R ({} : Table α) ({} : Table β) := .nil

theorem keys {t : Table α} {t' : Table β} (h : Related K R t t') : Forall₂ K t.keys t'.keys :=
  rel_map (fun _ _ hentry => hentry.1) h

theorem get? (hK : BiUnique K) {t : Table α} {t' : Table β} (h : Related K R t t')
    (hname : K name name') :
    Option.Rel R (t.get? name) (t'.get? name') := by
  obtain ⟨entries⟩ := t
  obtain ⟨entries'⟩ := t'
  show Option.Rel R (entries.lookup name) (entries'.lookup name')
  replace h : Forall₂ _ entries entries' := h
  induction h with
  | nil => exact .none
  | cons hentry _ ih =>
    rename_i entry entry' rest rest' _
    obtain ⟨key, value⟩ := entry
    obtain ⟨key', value'⟩ := entry'
    have hsame : name = key ↔ name' = key' := Relator.rel_eq hK hname hentry.1
    by_cases hkey : name = key
    · have hkey' := hsame.mp hkey
      subst hkey
      subst hkey'
      rw [lookup_cons_self, lookup_cons_self]
      exact .some hentry.2
    · have hne : (name == key) = false := beq_eq_false_iff_ne.mpr hkey
      have hne' : (name' == key') = false := beq_eq_false_iff_ne.mpr fun h => hkey (hsame.mpr h)
      simpa only [lookup_cons, hne, hne'] using ih

theorem contains (hK : BiUnique K) {t : Table α} {t' : Table β} (h : Related K R t t')
    (hname : K name name') : t.contains name = t'.contains name' :=
  rel_isSome (h.get? hK hname)

theorem insert (hK : BiUnique K) {t : Table α} {t' : Table β} (h : Related K R t t')
    (hname : K name name') {value : α} {value' : β} (hvalue : R value value') :
    Related K R (t.insert name value) (t'.insert name' value') := by
  obtain ⟨entries⟩ := t
  obtain ⟨entries'⟩ := t'
  show Forall₂ _ (insertEntry name value entries) (insertEntry name' value' entries')
  replace h : Forall₂ _ entries entries' := h
  induction h with
  | nil => exact .cons ⟨hname, hvalue⟩ .nil
  | cons hentry hrest ih =>
    rename_i entry entry' rest rest'
    have hsame : entry.1 = name ↔ entry'.1 = name' := Relator.rel_eq hK hentry.1 hname
    rw [insertEntry, insertEntry]
    by_cases hkey : entry.1 = name
    · rw [if_pos hkey, if_pos (hsame.mp hkey)]
      exact .cons ⟨hname, hvalue⟩ hrest
    · rw [if_neg hkey, if_neg fun h => hkey (hsame.mpr h)]
      exact .cons hentry ih

theorem update (hK : BiUnique K) {t : Table α} {t' : Table β} (h : Related K R t t')
    (hname : K name name') {initial : α} {initial' : β} (hinitial : R initial initial')
    {f : α → α} {f' : β → β} (hf : ∀ x y, R x y → R (f x) (f' y)) :
    Related K R (t.update name initial f) (t'.update name' initial' f') :=
  h.insert hK hname (hf _ _ (rel_getD (h.get? hK hname) hinitial))

theorem ofList (hK : BiUnique K) {entries : List (String × α)} {entries' : List (String × β)}
    (h : Forall₂ (fun entry entry' => K entry.1 entry'.1 ∧ R entry.2 entry'.2) entries entries') :
    Related K R (.ofList entries) (.ofList entries') := by
  unfold Table.ofList
  refine rel_foldl (P := Related K R) ?_ empty h
  intro t t' ht entry entry' hentry
  exact ht.insert hK hentry.1 hentry.2

theorem map {t : Table α} {t' : Table β} (h : Related K R t t') {f : α → γ} {f' : β → δ}
    (hf : ∀ x y, R x y → S (f x) (f' y)) : Related K S (t.map f) (t'.map f') :=
  rel_map (fun _ _ hentry => ⟨hentry.1, hf _ _ hentry.2⟩) h

end Related

end Table

/-! ## Lists of names -/

namespace Link

/-- Does a relation between names respect their order? -/
def KeepsOrder (R : String → String → Prop) : Prop :=
  ∀ ⦃a a'⦄, R a a' → ∀ ⦃b b'⦄, R b b' → (a ≤ b ↔ a' ≤ b')

variable {R : String → String → Prop}

theorem KeepsOrder.biUnique (hR : KeepsOrder R) : BiUnique R := by
  have hreflexive (a : String) : a ≤ a := String.le_refl a
  constructor
  · intro a b c ha hb
    exact String.le_antisymm ((hR ha hb).mpr (hreflexive c)) ((hR hb ha).mpr (hreflexive c))
  · intro a b c hb hc
    exact String.le_antisymm ((hR hb hc).mp (hreflexive a)) ((hR hc hb).mp (hreflexive a))

section

variable (hR : BiUnique R) (h : Forall₂ R names names')

include hR h

theorem contains_eq (hname : R name name') :
    names.contains name = names'.contains name' := by
  have hmem : name ∈ names ↔ name' ∈ names' := rel_mem hR hname h
  rw [Bool.eq_iff_iff, contains_iff_mem, contains_iff_mem]
  exact hmem

theorem rel_addName (hname : R name name') :
    Forall₂ R (addName names name) (addName names' name') := by
  rw [addName, addName, contains_eq hR h hname]
  split
  · exact h
  · exact rel_append h (.cons hname .nil)

theorem rel_distinct :
    Forall₂ R (distinct names) (distinct names') := by
  -- the list shrinks by more than its head, so the induction is on its length
  induction hlength : names.length using Nat.strongRecOn generalizing names names' with
  | ind n ih =>
    cases h with
    | nil => exact .nil
    | cons hname hrest =>
      rename_i name name' rest rest'
      have hkept : Forall₂ R (rest.filter fun b => !b == name)
          (rest'.filter fun b => !b == name') := by
        refine rel_filter (fun b b' hb => ?_) hrest
        have hsame : b = name ↔ b' = name' := Relator.rel_eq hR hb hname
        simpa using not_congr hsame
      have hshort : (rest.filter fun b => !b == name).length < n := by
        have := length_filter_le (fun b => !b == name) rest
        simp only [length_cons] at hlength
        omega
      rw [distinct, distinct, eraseDups_cons, eraseDups_cons]
      exact .cons hname (ih _ hshort hkept rfl)

end

theorem rel_insertName (hR : KeepsOrder R) (hname : R name name') (h : Forall₂ R names names') :
    Forall₂ R (insertName name names) (insertName name' names') := by
  induction h with
  | nil => exact .cons hname .nil
  | cons hfirst hrest ih =>
    rename_i first first' rest rest'
    rw [insertName, insertName]
    by_cases hle : name ≤ first
    · rw [if_pos hle, if_pos ((hR hname hfirst).mp hle)]
      exact .cons hname (.cons hfirst hrest)
    · rw [if_neg hle, if_neg fun h => hle ((hR hname hfirst).mpr h)]
      exact .cons hfirst ih

theorem rel_sortNames (hR : KeepsOrder R) (h : Forall₂ R names names') :
    Forall₂ R (sortNames names) (sortNames names') := by
  unfold sortNames
  refine rel_foldr ?_ .nil h
  intro name name' hname rest rest' hrest
  exact rel_insertName hR hname hrest

theorem rel_dropWhile {α β : Type} {S : α → β → Prop} {drop : α → Bool} {drop' : β → Bool}
    (hdrop : ∀ a b, S a b → drop a = drop' b) {items : List α} {items' : List β}
    (h : Forall₂ S items items') : Forall₂ S (items.dropWhile drop) (items'.dropWhile drop') := by
  induction h with
  | nil => exact .nil
  | cons hitem hrest ih =>
    rename_i a b rest rest'
    rw [dropWhile_cons, dropWhile_cons, hdrop a b hitem]
    split
    · exact ih
    · exact .cons hitem hrest

/-! ## Walks -/

/-- Have two walks gone the same way? -/
structure Walk.Related (R : String → String → Prop) (walk walk' : Walk) : Prop where
  finished : Forall₂ R walk.finished walk'.finished
  listed : Forall₂ R walk.listed walk'.listed

section Walks

variable {deps deps' : Table (List String)} {known known' : List String}
  (hnext : ∀ {symbol symbol' : String}, R symbol symbol' →
    Forall₂ R (nextSymbols deps known symbol) (nextSymbols deps' known' symbol'))

include hnext

theorem rel_visit (hR : BiUnique R) (fuel : Nat) {path path' : List String}
    (hpath : Forall₂ R path path') {walk walk' : Walk} (hwalk : walk.Related R walk')
    (hsymbol : R symbol symbol') :
    (Walk.visit deps known fuel path walk symbol).Related R
      (Walk.visit deps' known' fuel path' walk' symbol') := by
  induction fuel generalizing path path' walk walk' symbol symbol' with
  | zero => exact hwalk
  | succ fuel ih =>
    rw [Walk.visit, Walk.visit, contains_eq hR hwalk.finished hsymbol, contains_eq hR hpath hsymbol]
    split
    · exact hwalk
    · split
      · exact ⟨hwalk.finished, .cons hsymbol hwalk.listed⟩
      · have hdone : Walk.Related R
            ((nextSymbols deps known symbol).foldl (Walk.visit deps known fuel (symbol :: path)) walk)
            ((nextSymbols deps' known' symbol').foldl
              (Walk.visit deps' known' fuel (symbol' :: path')) walk') := by
          refine rel_foldl ?_ hwalk (hnext hsymbol)
          intro walk walk' hwalk next next' hnext
          exact ih (.cons hsymbol hpath) hwalk hnext
        exact ⟨.cons hsymbol hdone.finished, .cons hsymbol hdone.listed⟩

/-- Walks that take corresponding symbols in the same places give corresponding orders. -/
theorem rel_orderSymbols (hR : KeepsOrder R) (hknown : Forall₂ R known known') :
    Forall₂ R (orderSymbols deps known) (orderSymbols deps' known') := by
  have hroots := rel_sortNames hR (rel_distinct hR.biUnique hknown)
  have hstart : Walk.Related R ⟨[], []⟩ ⟨[], []⟩ := ⟨.nil, .nil⟩
  have hwalk : (walkFrom deps known (sortNames (distinct known))).Related R
      (walkFrom deps' known' (sortNames (distinct known'))) := by
    rw [walkFrom, walkFrom, hknown.length_eq]
    refine rel_foldl ?_ hstart hroots
    intro walk walk' hwalk root root' hroot
    exact rel_visit hnext hR.biUnique _ .nil hwalk hroot
  exact rel_reverse hwalk.listed

end Walks

end Link

end RobotKit
