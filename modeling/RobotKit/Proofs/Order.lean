import Mathlib.Logic.Relation
import Mathlib.Data.List.Induction
import Mathlib.Data.List.Perm.Subperm
import RobotKit.Proofs.NameList
import RobotKit.Proofs.Table

/-!
# The order that a depth-first walk gives

`Reaches` says that one symbol depends on another, directly or through further symbols. Three kinds
of statements follow.

* `Kept.visit` reduces a property of walks to what happens when the walk meets a symbol again, enters
  it and leaves it.
* A symbol is listed after all the symbols that it depends on, unless the walk comes back to it on
  its way (`pair_sublist_or_returns`), and a symbol that nothing depends on is listed in its turn
  (`pair_sublist_of_roots`).
* Where the walk from a root can come back to a symbol, some order of walking lists the symbol before
  everything that the roots before do not lead to (`exists_walk_listing_before`).
-/

namespace RobotKit.Link

open List

variable {roots : List String} {x : String} {deps' : Table (List String)}
  {holds : List String → Walk → Prop} {listed : List String} {path : List String}

variable {deps : Table (List String)} {known : List String}

/-- Does the first symbol depend on the second, directly or through other known symbols? -/
def Reaches (deps : Table (List String)) (known : List String) : String → String → Prop :=
  Relation.TransGen fun s d => d ∈ nextSymbols deps known s

theorem mem_nextSymbols {s d : String} :
    d ∈ nextSymbols deps known s ↔ d ∈ (deps.get? s).getD [] ∧ d ∈ known := by
  rw [nextSymbols, mem_filter, contains_iff_mem]

/-! ## Visits -/

/-- A way from the symbol `root` to a symbol: each symbol of the path, latest first, depends on
the one after it, and no symbol stands twice on the path. -/
inductive Trail (deps : Table (List String)) (known : List String) (root : String) :
    List String → String → Prop where
  | start : root ∈ known → Trail deps known root [] root
  | step {path : List String} {x y : String} : Trail deps known root path x → x ∉ path →
      y ∈ nextSymbols deps known x → Trail deps known root (x :: path) y

namespace Trail

variable {root x : String} {path : List String}

section

variable (h : Trail deps known root path x)

include h

theorem mem_known : x ∈ known := by
  cases h with
  | start hroot => exact hroot
  | step _ _ hy => exact (mem_nextSymbols.mp hy).2

theorem root_mem_known : root ∈ known := by
  induction h with
  | start hroot => exact hroot
  | step _ _ _ ih => exact ih

theorem path_subset : path ⊆ known := by
  induction h with
  | start _ => exact nil_subset _
  | step h _ _ ih => exact cons_subset.mpr ⟨h.mem_known, ih⟩

theorem nodup : path.Nodup := by
  induction h with
  | start _ => exact nodup_nil
  | step _ hx _ ih => exact nodup_cons.mpr ⟨hx, ih⟩

/-- A path has no more members than there are known symbols. -/
theorem length_le : path.length ≤ known.length :=
  (h.nodup.subperm h.path_subset).length_le

/-- The symbols of the path lead to its end. -/
theorem reaches_of_mem {y : String} (hy : y ∈ path) :
    Reaches deps known y x := by
  induction h with
  | start _ => simp at hy
  | step _ _ hnext ih =>
    rcases mem_cons.mp hy with rfl | hy'
    · exact .single hnext
    · exact (ih hy').tail hnext

theorem eq_or_reaches :
    x = root ∨ Reaches deps known root x := by
  induction h with
  | start _ => exact .inl rfl
  | step _ _ hnext ih =>
    rcases ih with rfl | ih
    · exact .inr (.single hnext)
    · exact .inr (ih.tail hnext)

end

end Trail

theorem Walk.visit_of_mem_path {fuel : Nat} {walk : Walk} (hfinished : x ∉ walk.finished)
    (hpath : x ∈ path) :
    visit deps known (fuel + 1) path walk x = { walk with listed := x :: walk.listed } := by
  rw [visit, if_neg (by simpa using hfinished), if_pos (by simpa using hpath)]

theorem Walk.listed_visit_of_new {fuel : Nat} {walk : Walk} (hfinished : x ∉ walk.finished)
    (hpath : x ∉ path) :
    (visit deps known (fuel + 1) path walk x).listed = x ::
      ((nextSymbols deps known x).foldl (visit deps known fuel (x :: path)) walk).listed := by
  rw [visit, if_neg (by simpa using hfinished), if_neg (by simpa using hpath)]

/-- What only adds to the finished and to the listed symbols does so when it is repeated. -/
theorem Walk.suffix_foldl {f : Walk → String → Walk}
    (hf : ∀ walk x, walk.finished <:+ (f walk x).finished ∧ walk.listed <:+ (f walk x).listed)
    (symbols : List String) (walk : Walk) :
    walk.finished <:+ (symbols.foldl f walk).finished ∧
      walk.listed <:+ (symbols.foldl f walk).listed := by
  induction symbols generalizing walk with
  | nil => exact ⟨suffix_refl _, suffix_refl _⟩
  | cons y rest ih =>
    have hy := hf walk y
    have hrest := ih (f walk y)
    exact ⟨hy.1.trans hrest.1, hy.2.trans hrest.2⟩

/-- A visit only adds to what is finished and to what is listed. -/
theorem Walk.suffix_visit (fuel : Nat) (path : List String) (walk : Walk) (x : String) :
    walk.finished <:+ (visit deps known fuel path walk x).finished ∧
      walk.listed <:+ (visit deps known fuel path walk x).listed := by
  induction fuel generalizing path walk x with
  | zero => exact ⟨suffix_refl _, suffix_refl _⟩
  | succ fuel ih =>
    rw [visit]
    split
    · exact ⟨suffix_refl _, suffix_refl _⟩
    · split
      · exact ⟨suffix_refl _, suffix_cons _ _⟩
      · have h := suffix_foldl (ih (x :: path)) (nextSymbols deps known x) walk
        exact ⟨h.1.trans (suffix_cons _ _), h.2.trans (suffix_cons _ _)⟩

/-- After a visit the symbol is finished, or it was met again on the way and listed. -/
theorem Walk.mem_finished_visit (fuel : Nat) (path : List String) (walk : Walk) (x : String) :
    x ∈ (visit deps known (fuel + 1) path walk x).finished ∨
      x ∈ path ∧ x ∈ (visit deps known (fuel + 1) path walk x).listed := by
  rw [visit]
  split
  · rename_i h
    exact .inl (contains_iff_mem.mp h)
  · split
    · rename_i h
      exact .inr ⟨contains_iff_mem.mp h, mem_cons_self ..⟩
    · exact .inl (mem_cons_self ..)

theorem Walk.mem_finished_foldl_visit (fuel : Nat) (path symbols : List String) (walk : Walk)
    (hx : x ∈ symbols) :
    x ∈ (symbols.foldl (visit deps known (fuel + 1) path) walk).finished ∨
      x ∈ path ∧ x ∈ (symbols.foldl (visit deps known (fuel + 1) path) walk).listed := by
  obtain ⟨before, after, rfl⟩ := append_of_mem hx
  rw [foldl_append, foldl_cons]
  rcases mem_finished_visit fuel path (before.foldl (visit deps known (fuel + 1) path) walk) x with
    h | ⟨hpath, h⟩
  · exact .inl ((suffix_foldl (suffix_visit _ path) after _).1.subset h)
  · exact .inr ⟨hpath, (suffix_foldl (suffix_visit _ path) after _).2.subset h⟩

/-- A property of the path and the walk that visits from `root` keep: it is kept when the walk
meets a symbol of the path again, when it enters a symbol, and when it leaves a symbol whose
dependencies are all finished, or on the path and listed. -/
structure Kept (deps : Table (List String)) (known : List String) (root : String)
    (holds : List String → Walk → Prop) : Prop where
  again : ∀ {path : List String} {walk : Walk} {x : String}, Trail deps known root path x →
    holds path walk → x ∈ path → holds path { walk with listed := x :: walk.listed }
  enter : ∀ {path : List String} {walk : Walk} {x : String}, Trail deps known root path x →
    holds path walk → x ∉ path → holds (x :: path) walk
  leave : ∀ {path : List String} {walk : Walk} {x : String}, Trail deps known root path x →
    holds (x :: path) walk →
    (∀ y ∈ nextSymbols deps known x, y ∈ walk.finished ∨ y ∈ x :: path ∧ y ∈ walk.listed) →
    holds path { finished := x :: walk.finished, listed := x :: walk.listed }

/-- What is kept by every step of a visit is kept by the visit. -/
theorem Kept.visit {root : String} (hkept : Kept deps known root holds) (fuel : Nat)
    (path : List String) (walk : Walk) (x : String)
    (hfuel : known.length + 2 ≤ fuel + path.length) (htrail : Trail deps known root path x)
    (h : holds path walk) :
    holds path (Walk.visit deps known fuel path walk x) := by
  induction fuel generalizing path walk x with
  | zero =>
    have := htrail.length_le
    omega
  | succ fuel ih =>
    rw [Walk.visit]
    split
    · exact h
    · split
      · rename_i hx
        exact hkept.again htrail h (contains_iff_mem.mp hx)
      · rename_i hx
        have hx : x ∉ path := fun hmem => hx (contains_iff_mem.mpr hmem)
        -- what holds on entering is kept by the visit of each dependency
        have hfold : ∀ (symbols : List String), symbols ⊆ nextSymbols deps known x →
            ∀ walk, holds (x :: path) walk →
              holds (x :: path) (symbols.foldl (Walk.visit deps known fuel (x :: path)) walk) := by
          intro symbols
          induction symbols with
          | nil => exact fun _ walk hwalk => hwalk
          | cons y rest ihrest =>
            intro hsub walk hwalk
            obtain ⟨hy, hrest⟩ := cons_subset.mp hsub
            have hlength : known.length + 2 ≤ fuel + (x :: path).length := by
              simp only [length_cons]
              omega
            exact ihrest hrest _ (ih _ walk y hlength (htrail.step hx hy) hwalk)
        have hdone := hfold _ (List.Subset.refl _) walk (hkept.enter htrail h hx)
        -- the bound on the depth leaves something for the dependencies
        obtain ⟨fuel, rfl⟩ : ∃ n, fuel = n + 1 := by
          have := htrail.length_le
          exact ⟨fuel - 1, by omega⟩
        exact hkept.leave htrail hdone
          fun y hy => Walk.mem_finished_foldl_visit fuel (x :: path) _ walk hy

theorem walkFrom_append (before after : List String) :
    walkFrom deps known (before ++ after)
      = after.foldl (Walk.visit deps known (known.length + 2) []) (walkFrom deps known before) :=
  foldl_append

/-- Every root of a walk is finished at its end. -/
theorem mem_finished_walkFrom (hx : x ∈ roots) :
    x ∈ (walkFrom deps known roots).finished :=
  (Walk.mem_finished_foldl_visit (known.length + 1) [] roots _ hx).resolve_right
    fun h => not_mem_nil h.1

/-! ## Dependencies come first -/

/-- Can a walk from `root` come back to the symbol while it is on its way? -/
def ReturnsFrom (deps : Table (List String)) (known : List String) (root s : String) : Prop :=
  ∃ path, Trail deps known root path s ∧ s ∈ path

theorem ReturnsFrom.reaches {root s : String} (h : ReturnsFrom deps known root s) :
    Reaches deps known s s := by
  obtain ⟨path, htrail, hs⟩ := h
  exact htrail.reaches_of_mem hs

/-- Each symbol in the list, latest first, has the symbols that it depends on before it, unless the
walk from a root came back to it, after all that the roots before this one list. -/
def Grounded (deps : Table (List String)) (known roots listed : List String) : Prop :=
  ∀ s earlier, s :: earlier <:+ listed → (∀ d ∈ nextSymbols deps known s, d ∈ earlier) ∨
    ∃ before root, before ++ [root] <+: roots ∧ ReturnsFrom deps known root s ∧
      (walkFrom deps known before).listed ⊆ earlier

/-- What a walk keeps: finished symbols depend on what is finished or on the path, and they are
listed; what was listed at the start stays so; and the list is grounded. -/
structure Orderly (deps : Table (List String)) (known before roots path : List String)
    (walk : Walk) : Prop where
  closed : ∀ x ∈ walk.finished, ∀ y ∈ nextSymbols deps known x, y ∈ walk.finished ∨ y ∈ path
  listed : walk.finished ⊆ walk.listed
  after : (walkFrom deps known before).listed ⊆ walk.listed
  grounded : Grounded deps known roots walk.listed

theorem Grounded.cons (h : Grounded deps known roots listed)
    (hx : (∀ d ∈ nextSymbols deps known x, d ∈ listed) ∨
      ∃ before root, before ++ [root] <+: roots ∧ ReturnsFrom deps known root x ∧
        (walkFrom deps known before).listed ⊆ listed) :
    Grounded deps known roots (x :: listed) := by
  intro s earlier hsuffix
  rcases suffix_cons_iff.mp hsuffix with heq | hsuffix
  · obtain ⟨rfl, rfl⟩ := List.cons.inj heq
    exact hx
  · exact h s earlier hsuffix

theorem kept_orderly (before : List String) (root : String) :
    Kept deps known root (Orderly deps known before (before ++ [root])) where
  again := by
    intro path walk x htrail h hx
    exact ⟨h.closed, subset_cons_of_subset x h.listed, subset_cons_of_subset x h.after,
      h.grounded.cons (.inr ⟨before, root, prefix_refl _, ⟨path, htrail, hx⟩, h.after⟩)⟩
  enter := fun _ h _ =>
    ⟨fun x hx y hy => (h.closed x hx y hy).imp_right (mem_cons_of_mem _), h.listed, h.after,
      h.grounded⟩
  leave := by
    intro path walk x htrail h hnext
    refine ⟨fun z hz y hy => ?_, cons_subset_cons x h.listed,
      subset_cons_of_subset x h.after, h.grounded.cons (.inl fun d hd => ?_)⟩
    · -- what was on the path is there still, or it is finished now
      have hdone : y ∈ walk.finished ∨ y ∈ x :: path := by
        rcases mem_cons.mp hz with rfl | hz
        · exact (hnext y hy).imp_right And.left
        · exact h.closed z hz y hy
      rcases hdone with hfinished | hpath
      · exact .inl (mem_cons_of_mem x hfinished)
      · exact (mem_cons.mp hpath).imp_left fun heq => mem_cons.mpr (.inl heq)
    · exact (hnext d hd).elim (h.listed ·) And.right

theorem orderly_walkFrom (hroots : roots ⊆ known) :
    Orderly deps known roots roots [] (walkFrom deps known roots) := by
  induction roots using List.reverseRecOn with
  | nil =>
    refine ⟨nofun, List.Subset.refl _, List.Subset.refl _, fun s earlier hsuffix => ?_⟩
    exact absurd (suffix_nil.mp hsuffix) (cons_ne_nil _ _)
  | append_singleton before root ih =>
    obtain ⟨hbefore, hroot⟩ := append_subset.mp hroots
    have h := ih hbefore
    have hstart : Orderly deps known before (before ++ [root]) [] (walkFrom deps known before) := by
      refine ⟨h.closed, h.listed, List.Subset.refl _, fun s earlier hsuffix => ?_⟩
      refine (h.grounded s earlier hsuffix).imp_right ?_
      rintro ⟨first, other, hstart, hrest⟩
      exact ⟨first, other, hstart.trans (prefix_append _ _), hrest⟩
    have hend := (kept_orderly before root).visit (known.length + 2) [] _ root (by simp)
      (.start (hroot (mem_singleton_self root))) hstart
    have hwalk : walkFrom deps known (before ++ [root])
        = Walk.visit deps known (known.length + 2) [] (walkFrom deps known before) root :=
      walkFrom_append before [root]
    rw [← hwalk] at hend
    exact ⟨hend.closed, hend.listed, List.Subset.refl _, hend.grounded⟩

/-- Every root of a walk is listed. -/
theorem mem_listed_walkFrom (hroots : roots ⊆ known) (hx : x ∈ roots) :
    x ∈ (walkFrom deps known roots).listed :=
  (orderly_walkFrom hroots).listed (mem_finished_walkFrom hx)

theorem sortNames_distinct_subset (known : List String) : sortNames (distinct known) ⊆ known :=
  fun _ h => mem_distinct.mp (mem_sortNames.mp h)

/-- Every known symbol has a place in the order. -/
theorem mem_orderSymbols {symbol : String} (h : symbol ∈ known) :
    symbol ∈ orderSymbols deps known := by
  rw [orderSymbols, mem_reverse]
  exact mem_listed_walkFrom (sortNames_distinct_subset known)
    (mem_sortNames.mpr (mem_distinct.mpr h))

/-- The place where a member of a list, latest first, was listed for the first time. -/
theorem exists_first_suffix (hx : x ∈ listed) :
    ∃ earlier, x :: earlier <:+ listed ∧ x ∉ earlier := by
  induction listed with
  | nil => simp at hx
  | cons y rest ih =>
    by_cases hrest : x ∈ rest
    · obtain ⟨earlier, hsuffix, hnot⟩ := ih hrest
      exact ⟨earlier, hsuffix.trans (suffix_cons _ _), hnot⟩
    · obtain rfl : x = y := (mem_cons.mp hx).resolve_right hrest
      exact ⟨rest, suffix_refl _, hrest⟩

/-- What was listed earlier stands first when each symbol is kept at its first place. -/
theorem pair_sublist_of_suffix {a b : String} {earlier listed : List String}
    (hsuffix : earlier <:+ listed) (ha : a ∈ earlier) (hb : b ∉ earlier) (hlisted : b ∈ listed) :
    [a, b].Sublist (distinct listed.reverse) := by
  obtain ⟨later, rfl⟩ := hsuffix
  rw [reverse_append]
  refine pair_sublist_distinct_append (mem_reverse.mpr ha) ?_ ?_
  · exact fun h => hb (mem_reverse.mp h)
  · exact mem_reverse.mpr ((mem_append.mp hlisted).resolve_right hb)

/-! ## Symbols that nothing depends on -/

/-- A visit lists nothing but what its root depends on, and the root itself. -/
theorem kept_reached (root : String) (before : List String) :
    Kept deps known root fun _ walk =>
      ∀ y ∈ walk.listed, y ∈ before ∨ y = root ∨ Reaches deps known root y where
  again := by
    intro path walk x htrail h hx y hy
    rcases mem_cons.mp hy with rfl | hy
    · exact .inr htrail.eq_or_reaches
    · exact h y hy
  enter := fun _ h _ => h
  leave := by
    intro path walk x htrail h hnext y hy
    rcases mem_cons.mp hy with rfl | hy
    · exact .inr htrail.eq_or_reaches
    · exact h y hy

theorem exists_root_of_mem_listed (hroots : roots ⊆ known) (walk : Walk) {y : String}
    (hy : y ∈ (roots.foldl (Walk.visit deps known (known.length + 2) []) walk).listed) :
    y ∈ walk.listed ∨ ∃ root ∈ roots, y = root ∨ Reaches deps known root y := by
  induction roots generalizing walk with
  | nil => exact .inl hy
  | cons root rest ih =>
    obtain ⟨hroot, hrest⟩ := cons_subset.mp hroots
    have hkept : Kept deps known root _ := kept_reached root walk.listed
    have hvisit := hkept.visit (known.length + 2) [] walk root (by simp) (.start hroot)
      fun y hy => .inl hy
    rcases ih hrest _ hy with h | ⟨r, hr, h⟩
    · rcases hvisit y h with hbefore | hreach
      · exact .inl hbefore
      · exact .inr ⟨root, mem_cons_self .., hreach⟩
    · exact .inr ⟨r, mem_cons_of_mem _ hr, h⟩

/-- A symbol that nothing depends on comes after the roots before it. -/
theorem pair_sublist_of_roots (hroots : roots ⊆ known) (hnodup : roots.Nodup) {a b : String}
    (hab : [a, b].Sublist roots) (hb : ∀ x, b ∉ nextSymbols deps known x) :
    [a, b].Sublist (distinct (walkFrom deps known roots).listed.reverse) := by
  -- the walk is cut before the root `b`
  obtain ⟨before, after, rfl, ha, hafter⟩ := append_sublist_iff.mp
    (show ([a] ++ [b]).Sublist roots from hab)
  rw [singleton_sublist] at ha hafter
  have hbefore : b ∉ before := fun h => (nodup_append.mp hnodup).2.2 b h b hafter rfl
  obtain ⟨hroots₁, -⟩ := append_subset.mp hroots
  have hlisted : b ∈ (walkFrom deps known (before ++ after)).listed :=
    mem_listed_walkFrom hroots (mem_append_right before hafter)
  rw [walkFrom_append] at hlisted ⊢
  refine pair_sublist_of_suffix (Walk.suffix_foldl (Walk.suffix_visit _ _) after _).2
    (mem_listed_walkFrom hroots₁ ha) ?_ hlisted
  -- no root before `b` leads to `b`
  intro hmem
  rcases exists_root_of_mem_listed hroots₁ _ hmem with h | ⟨root, hroot, rfl | hreach⟩
  · simp at h
  · exact hbefore hroot
  · obtain ⟨x, -, hx⟩ := Relation.TransGen.tail'_iff.mp hreach
    exact hb x hx

/-! ## Symbols that the walk comes back to -/

/-- A walk lists what its roots depend on, and the roots themselves. -/
theorem mem_listed_walkFrom_iff (hroots : roots ⊆ known) {y : String} :
    y ∈ (walkFrom deps known roots).listed
      ↔ ∃ root ∈ roots, y = root ∨ Reaches deps known root y := by
  refine ⟨fun hy => (exists_root_of_mem_listed hroots _ hy).resolve_left not_mem_nil, ?_⟩
  rintro ⟨root, hroot, rfl | hreach⟩
  · exact mem_listed_walkFrom hroots hroot
  · have h : Orderly deps known roots roots [] _ := orderly_walkFrom hroots
    refine h.listed ?_
    induction hreach with
    | single hnext =>
      exact (h.closed root (mem_finished_walkFrom hroot) _ hnext).resolve_right not_mem_nil
    | tail _ hnext ih => exact (h.closed _ ih _ hnext).resolve_right not_mem_nil

/-- A symbol comes after a symbol that it depends on, unless the walk from some root can come back
to it, and no root before that one leads to either. -/
theorem pair_sublist_or_returns (hroots : roots ⊆ known) {s d : String} (hs : s ∈ roots)
    (hd : d ∈ nextSymbols deps known s) :
    [d, s].Sublist (distinct (walkFrom deps known roots).listed.reverse) ∨
      ∃ before root, before ++ [root] <+: roots ∧ ReturnsFrom deps known root s ∧
        ∀ r ∈ before, ∀ y ∈ [s, d], ¬ (y = r ∨ Reaches deps known r y) := by
  have hlisted : s ∈ (walkFrom deps known roots).listed := mem_listed_walkFrom hroots hs
  obtain ⟨earlier, hsuffix, hnot⟩ := exists_first_suffix hlisted
  by_cases hd' : d ∈ earlier
  · exact .inl (pair_sublist_of_suffix ((suffix_cons s earlier).trans hsuffix) hd' hnot hlisted)
  · rcases (orderly_walkFrom hroots).grounded s earlier hsuffix with hall | hreturns
    · exact absurd (hall d hd) hd'
    · obtain ⟨before, root, hstart, hreturns, hbefore⟩ := hreturns
      refine .inr ⟨before, root, hstart, hreturns, fun r hr y hy hleads => ?_⟩
      have hsub : before ⊆ known :=
        List.Subset.trans ((prefix_append _ _).trans hstart).subset hroots
      have hmem := hbefore ((mem_listed_walkFrom_iff hsub).mpr ⟨r, hr, hleads⟩)
      rcases mem_pair.mp hy with rfl | rfl
      · exact hnot hmem
      · exact hd' hmem

/-- The same dependencies, walked in another order. -/
def SameDependencies (deps' deps : Table (List String)) : Prop :=
  ∀ x, ((deps'.get? x).getD []).Perm ((deps.get? x).getD [])

/-- Any way to arrange the dependencies is that of some table. -/
theorem exists_table_of_perm {arranged : String → List String}
    (h : ∀ x, (arranged x).Perm ((deps.get? x).getD [])) :
    ∃ deps' : Table (List String), ∀ x, (deps'.get? x).getD [] = arranged x := by
  refine ⟨⟨deps.entries.map fun entry => (entry.1, arranged entry.1)⟩, fun x => ?_⟩
  rw [Table.get?_replace]
  cases hget : deps.get? x with
  | none =>
    have hnil := h x
    rw [hget] at hnil
    exact hnil.eq_nil.symm
  | some _ => rfl

theorem SameDependencies.mem_nextSymbols (h : SameDependencies deps' deps) {x y : String} :
    y ∈ nextSymbols deps' known x ↔ y ∈ nextSymbols deps known x := by
  rw [Link.mem_nextSymbols, Link.mem_nextSymbols, (h x).mem_iff]

theorem SameDependencies.reaches_iff (h : SameDependencies deps' deps) {x y : String} :
    Reaches deps' known x y ↔ Reaches deps known x y := by
  have heq : (fun s d => d ∈ nextSymbols deps' known s)
      = fun s d => d ∈ nextSymbols deps known s := by
    funext s d
    exact propext h.mem_nextSymbols
  rw [Reaches, Reaches, heq]

theorem SameDependencies.returnsFrom (h : SameDependencies deps' deps) {root s : String}
    (hreturns : ReturnsFrom deps' known root s) : ReturnsFrom deps known root s := by
  obtain ⟨path, htrail, hs⟩ := hreturns
  refine ⟨path, ?_, hs⟩
  clear hs
  induction htrail with
  | start hroot => exact .start hroot
  | step _ hx hy ih => exact .step ih hx (h.mem_nextSymbols.mp hy)

/-- Any dependency can be walked first. -/
theorem exists_walking_first {x y : String} (hy : y ∈ nextSymbols deps known x) :
    ∃ deps', SameDependencies deps' deps ∧ (∃ rest, nextSymbols deps' known x = y :: rest) ∧
      ∀ z, z ≠ x → nextSymbols deps' known z = nextSymbols deps known z := by
  obtain ⟨hmem, hknown⟩ := Link.mem_nextSymbols.mp hy
  refine ⟨deps.insert x (y :: ((deps.get? x).getD []).erase y), fun z => ?_, ?_, fun z hz => ?_⟩
  · rw [Table.get?_insert]
    split
    · rename_i heq
      rw [heq]
      exact (perm_cons_erase hmem).symm
    · exact .refl _
  · rw [nextSymbols, Table.get?_insert, if_pos rfl, Option.getD_some,
      filter_cons_of_pos (contains_iff_mem.mpr hknown)]
    exact ⟨_, rfl⟩
  · rw [nextSymbols, Table.get?_insert, if_neg hz, nextSymbols]

/-- Does the walk along a path, latest first, take the next symbol of the path first each time? -/
def Straight (deps : Table (List String)) (known : List String) : List String → String → Prop
  | [], _ => True
  | z :: path, x => (∃ rest, nextSymbols deps known z = x :: rest) ∧ Straight deps known path z

theorem Straight.congr (hsame : ∀ z ∈ path, nextSymbols deps' known z = nextSymbols deps known z)
    (h : Straight deps known path x) : Straight deps' known path x := by
  induction path generalizing x with
  | nil => trivial
  | cons z path ih =>
    obtain ⟨hz, hpath⟩ := forall_mem_cons.mp hsame
    exact ⟨hz ▸ h.1, ih hpath h.2⟩

namespace Trail

variable {root : String} (h : Trail deps known root path x)

include h

theorem exists_straight : ∃ deps', SameDependencies deps' deps ∧ Straight deps' known path x := by
  induction h with
  | start _ => exact ⟨deps, fun _ => .refl _, trivial⟩
  | step _ hx hy ih =>
    obtain ⟨deps₁, hsame₁, hstraight⟩ := ih
    obtain ⟨deps₂, hsame₂, hfirst, hother⟩ := exists_walking_first (hsame₁.mem_nextSymbols.mpr hy)
    refine ⟨deps₂, fun z => (hsame₂ z).trans (hsame₁ z), hfirst, hstraight.congr fun z hz => ?_⟩
    exact hother z fun heq => hx (heq ▸ hz)

/-- What is listed first from the end of a straight path is listed first from its start. -/
theorem suffix_visit_of_straight (hstraight : Straight deps' known path x) {walk : Walk}
    (hnew : ∀ z ∈ path, z ∉ walk.finished) {first : List String} {fuel : Nat}
    (hend : first <:+ (Walk.visit deps' known fuel path walk x).listed) :
    first <:+ (Walk.visit deps' known (fuel + path.length) [] walk root).listed := by
  induction h generalizing fuel with
  | start _ => exact hend
  | @step path x y _ hx _ ih =>
    obtain ⟨⟨rest, hrest⟩, hstraight⟩ := hstraight
    obtain ⟨hfinished, hnew⟩ := forall_mem_cons.mp hnew
    have hhere : first <:+ (Walk.visit deps' known (fuel + 1) path walk x).listed := by
      rw [Walk.listed_visit_of_new hfinished hx, hrest, foldl_cons]
      exact (hend.trans (Walk.suffix_foldl (Walk.suffix_visit _ _) rest _).2).trans
        (suffix_cons _ _)
    have hlength : fuel + (x :: path).length = fuel + 1 + path.length := by
      rw [length_cons]
      omega
    rw [hlength]
    exact ih hstraight hnew hhere

end Trail

/-- If the walk from a root can come back to a symbol, and the roots before do not lead to it, some
order of walking lists it before any other symbol that the roots before do not lead to. -/
theorem exists_walk_listing_before (hroots : roots ⊆ known) {before : List String}
    {root s d : String} (hstart : before ++ [root] <+: roots)
    (hreturns : ReturnsFrom deps known root s)
    (hbefore : ∀ r ∈ before, ∀ y ∈ [s, d], ¬ (y = r ∨ Reaches deps known r y)) (hd : d ∈ roots)
    (hne : d ≠ s) :
    ∃ deps', SameDependencies deps' deps ∧
      [s, d].Sublist (distinct (walkFrom deps' known roots).listed.reverse) := by
  obtain ⟨path, htrail, hs⟩ := hreturns
  obtain ⟨deps', hsame, hstraight⟩ := htrail.exists_straight
  have hsub : before ⊆ known :=
    List.Subset.trans ((prefix_append _ _).trans hstart).subset hroots
  have hlisted : ∀ y ∈ [s, d], y ∉ (walkFrom deps' known before).listed := by
    intro y hy hmem
    obtain ⟨r, hr, hleads⟩ := (mem_listed_walkFrom_iff hsub).mp hmem
    exact hbefore r hr y hy (hleads.imp_right hsame.reaches_iff.mp)
  -- what leads to `s` is not listed by the roots before either
  have hnew : ∀ z ∈ path, z ∉ (walkFrom deps' known before).finished := by
    intro z hz hfinished
    obtain ⟨r, hr, hleads⟩ :=
      (mem_listed_walkFrom_iff hsub).mp ((orderly_walkFrom hsub).listed hfinished)
    refine hbefore r hr s (mem_cons_self ..) (.inr ?_)
    rcases hleads with rfl | hreach
    · exact htrail.reaches_of_mem hz
    · exact (hsame.reaches_iff.mp hreach).trans (htrail.reaches_of_mem hz)
  have hlength := htrail.length_le
  obtain ⟨fuel, hfuel⟩ : ∃ fuel, known.length + 2 = fuel + 1 + path.length :=
    ⟨known.length + 1 - path.length, by omega⟩
  have hfirst : s :: (walkFrom deps' known before).listed <:+ (Walk.visit deps' known
      (known.length + 2) [] (walkFrom deps' known before) root).listed := by
    rw [hfuel]
    refine htrail.suffix_visit_of_straight hstraight hnew ?_
    simp only [Walk.visit_of_mem_path (hnew s hs) hs, suffix_refl]
  have hd' : d ∉ s :: (walkFrom deps' known before).listed :=
    not_mem_cons_of_ne_of_not_mem hne
      (hlisted d (mem_cons_of_mem _ (mem_cons_self ..)))
  refine ⟨deps', hsame, pair_sublist_of_suffix ?_ (mem_cons_self ..) hd'
    (mem_listed_walkFrom hroots hd)⟩
  obtain ⟨after, rfl⟩ := hstart
  rw [walkFrom_append, walkFrom_append]
  exact hfirst.trans (Walk.suffix_foldl (Walk.suffix_visit _ _) after _).2

end RobotKit.Link
