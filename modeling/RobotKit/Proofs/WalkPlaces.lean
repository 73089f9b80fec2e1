import RobotKit.Proofs.Order

/-!
# Places in the order of symbols

A walk visits symbols depth first. `Visits` is that recursion without a bound on its depth, and the
bounded walk is the only result that it has (`visits_walkFrom_iff`), whatever the dependencies are:
they may hold cycles, symbols that depend on themselves, copies and unknown symbols.

A symbol is listed for the last time when the walk leaves it. So what a symbol depends on, without
being depended on by it, has its last place before the last place of the symbol, and a symbol that
does not depend on itself has one place only (`orderSymbols_places`).
-/

namespace RobotKit.Link

open List

variable {roots : List String} {order : List String}

variable {deps : Table (List String)} {known path symbols : List String} {walk walk' : Walk}

/-! ## The walk without a bound -/

/-- Symbols are visited one after the other: one that is finished is passed over, one on the path is
listed, and any other is entered, what it depends on is visited, and then it is left. -/
inductive Visits (deps : Table (List String)) (known : List String) :
    List String → List String → Walk → Walk → Prop where
  | done {path : List String} {walk : Walk} : Visits deps known path [] walk walk
  | finished {path symbols : List String} {x : String} {walk walk' : Walk}
      (hfinished : x ∈ walk.finished) (hrest : Visits deps known path symbols walk walk') :
      Visits deps known path (x :: symbols) walk walk'
  | again {path symbols : List String} {x : String} {walk walk' : Walk}
      (hfinished : x ∉ walk.finished) (hpath : x ∈ path)
      (hrest : Visits deps known path symbols { walk with listed := x :: walk.listed } walk') :
      Visits deps known path (x :: symbols) walk walk'
  | new {path symbols : List String} {x : String} {walk inner walk' : Walk}
      (hfinished : x ∉ walk.finished) (hpath : x ∉ path)
      (hnext : Visits deps known (x :: path) (nextSymbols deps known x) walk inner)
      (hrest : Visits deps known path symbols
        { finished := x :: inner.finished, listed := x :: inner.listed } walk') :
      Visits deps known path (x :: symbols) walk walk'

namespace Visits

section

variable (h : Visits deps known path symbols walk walk')

include h

/-- Visits have one result at most. -/
theorem unique {other : Walk}
    (h' : Visits deps known path symbols walk other) : other = walk' := by
  induction h generalizing other with
  | done =>
    cases h'
    rfl
  | finished hfinished _ ih =>
    cases h' with
    | finished _ hrest => exact ih hrest
    | again hnot => exact absurd hfinished hnot
    | new hnot => exact absurd hfinished hnot
  | again hfinished hpath _ ih =>
    cases h' with
    | finished hin => exact absurd hin hfinished
    | again _ _ hrest => exact ih hrest
    | new _ hnot => exact absurd hpath hnot
  | new hfinished hpath _ _ ihnext ihrest =>
    cases h' with
    | finished hin => exact absurd hin hfinished
    | again _ hin => exact absurd hin hpath
    | new _ _ hnext hrest =>
      obtain rfl := ihnext hnext
      exact ihrest hrest

theorem finished_subset :
    walk.finished ⊆ walk'.finished := by
  induction h with
  | done => exact List.Subset.refl _
  | finished _ _ ih => exact ih
  | again _ _ _ ih => exact ih
  | new _ _ _ _ ihnext ihrest =>
    intro y hy
    exact ihrest (mem_cons_of_mem _ (ihnext hy))

/-- A symbol that was visited is finished, or it is still on the path. -/
theorem mem_finished {y : String}
    (hy : y ∈ symbols) : y ∈ walk'.finished ∨ y ∈ path := by
  induction h with
  | done => exact absurd hy not_mem_nil
  | finished hfinished hrest ih =>
    rcases mem_cons.mp hy with rfl | hy
    · exact .inl (hrest.finished_subset hfinished)
    · exact ih hy
  | again _ hpath _ ih =>
    rcases mem_cons.mp hy with rfl | hy
    · exact .inr hpath
    · exact ih hy
  | new _ _ _ hrest _ ih =>
    rcases mem_cons.mp hy with rfl | hy
    · exact .inl (hrest.finished_subset (mem_cons_self ..))
    · exact ih hy

end

end Visits

/-- The bounded walk takes the same steps, if the bound leaves room for every known symbol. -/
theorem visits_foldl (fuel : Nat) (hfuel : known.length + 2 ≤ fuel + path.length)
    (htrails : ∀ x ∈ symbols, ∃ root, Trail deps known root path x) (walk : Walk) :
    Visits deps known path symbols walk
      (symbols.foldl (Walk.visit deps known fuel path) walk) := by
  induction fuel generalizing path symbols walk with
  | zero =>
    cases symbols with
    | nil => exact .done
    | cons x rest =>
      -- no path is longer than the list of known symbols
      obtain ⟨root, htrail⟩ := htrails x (mem_cons_self ..)
      have hlength := htrail.length_le
      omega
  | succ fuel ih =>
    induction symbols generalizing walk with
    | nil => exact .done
    | cons x rest ihrest =>
      have hrest := ihrest fun y hy => htrails y (mem_cons_of_mem x hy)
      obtain ⟨root, htrail⟩ := htrails x (mem_cons_self ..)
      rw [foldl_cons]
      by_cases hfinished : x ∈ walk.finished
      · have hvisit : Walk.visit deps known (fuel + 1) path walk x = walk := by
          rw [Walk.visit, if_pos (contains_iff_mem.mpr hfinished)]
        rw [hvisit]
        exact .finished hfinished (hrest walk)
      · by_cases hpath : x ∈ path
        · rw [Walk.visit_of_mem_path hfinished hpath]
          exact .again hfinished hpath (hrest _)
        · rw [Walk.visit, if_neg (by simpa using hfinished), if_neg (by simpa using hpath)]
          refine .new hfinished hpath (ih ?_ ?_ walk) (hrest _)
          · show known.length + 2 ≤ fuel + (path.length + 1)
            omega
          · intro y hy
            exact ⟨root, htrail.step hpath hy⟩

theorem trails_of_subset (hroots : roots ⊆ known) :
    ∀ x ∈ roots, ∃ root, Trail deps known root [] x := by
  intro x hx
  exact ⟨x, .start (hroots hx)⟩

/-- A walk without a bound comes to an end, and it ends with the bounded walk. -/
theorem visits_walkFrom_iff (hroots : roots ⊆ known) :
    Visits deps known [] roots { finished := [], listed := [] } walk
      ↔ walk = walkFrom deps known roots := by
  have hvisits : Visits deps known [] roots { finished := [], listed := [] }
      (walkFrom deps known roots) :=
    visits_foldl _ (by simp) (trails_of_subset hroots) _
  constructor
  · intro h
    exact hvisits.unique h
  · intro h
    rw [h]
    exact hvisits

/-! ## Last places -/

/-- Is the last place of the first symbol before the last place of the second? -/
def LastBefore (a b : String) (order : List String) : Prop :=
  ∃ before between after, order = before ++ a :: (between ++ b :: after) ∧
    a ∉ between ++ b :: after ∧ b ∉ after

theorem lastBefore_concat {a b : String} (ha : a ∈ order) (hne : a ≠ b) :
    LastBefore a b (order ++ [b]) := by
  obtain ⟨between, ⟨before, rfl⟩, hlast⟩ := exists_first_suffix ha
  refine ⟨before, between, [], by simp, ?_, not_mem_nil⟩
  simp [hlast, hne]

/-- Another symbol at the end does not change last places. -/
theorem LastBefore.concat {a b x : String} (h : LastBefore a b order) (hxa : x ≠ a) (hxb : x ≠ b) :
    LastBefore a b (order ++ [x]) := by
  obtain ⟨before, between, after, rfl, ha, hb⟩ := h
  refine ⟨before, between, after ++ [x], by simp, ?_, ?_⟩
  · have hmem : between ++ b :: (after ++ [x]) = (between ++ b :: after) ++ [x] := by simp
    rw [hmem, mem_append, mem_singleton]
    exact not_or.mpr ⟨ha, hxa.symm⟩
  · rw [mem_append, mem_singleton]
    exact not_or.mpr ⟨hb, hxb.symm⟩

/-! ## What visits keep -/

/-- Symbols of the path are not finished and finished ones are listed; a finished symbol has its last
place after those that it depends on without being depended on by them; and a symbol that does not
depend on itself is listed once when it is finished, and not before. -/
structure Settled (deps : Table (List String)) (known path : List String) (walk : Walk) : Prop where
  unfinished : ∀ x ∈ path, x ∉ walk.finished
  listed : walk.finished ⊆ walk.listed
  last : ∀ s ∈ walk.finished, ∀ d ∈ nextSymbols deps known s, ¬ Reaches deps known d s →
    d ∈ walk.finished ∧ LastBefore d s walk.listed.reverse
  once : ∀ s, ¬ Reaches deps known s s →
    walk.listed.count s = if s ∈ walk.finished then 1 else 0

theorem settled_start :
    Settled deps known [] { finished := [], listed := [] } where
  unfinished := nofun
  listed := List.Subset.refl _
  last := nofun
  once _ _ := rfl

namespace Settled

variable {root x : String}

/-- Listing a symbol of the path again leaves the places of finished symbols alone. -/
theorem again (h : Settled deps known path walk) (htrail : Trail deps known root path x)
    (hx : x ∈ path) : Settled deps known path { walk with listed := x :: walk.listed } where
  unfinished := h.unfinished
  listed := subset_cons_of_subset x h.listed
  last := by
    intro s hs d hd hback
    have hx' := h.unfinished x hx
    obtain ⟨hfinished, hplaces⟩ := h.last s hs d hd hback
    refine ⟨hfinished, ?_⟩
    show LastBefore d s (x :: walk.listed).reverse
    rw [reverse_cons]
    apply hplaces.concat
    · rintro rfl
      exact hx' hfinished
    · rintro rfl
      exact hx' hs
  once := by
    intro s hself
    -- the symbol that is met again depends on itself
    have hne : x ≠ s := by
      rintro rfl
      exact hself (htrail.reaches_of_mem hx)
    show (x :: walk.listed).count s = _
    rw [count_cons_of_ne hne]
    exact h.once s hself

theorem enter (h : Settled deps known path walk) (hx : x ∉ walk.finished) :
    Settled deps known (x :: path) walk where
  unfinished := forall_mem_cons.mpr ⟨hx, h.unfinished⟩
  listed := h.listed
  last := h.last
  once := h.once

/-- Leaving a symbol puts it at the end, after all that it depends on. -/
theorem leave (h : Settled deps known (x :: path) walk) (htrail : Trail deps known root path x)
    (hx : x ∉ path) (hnext : ∀ y ∈ nextSymbols deps known x, y ∈ walk.finished ∨ y ∈ x :: path) :
    Settled deps known path { finished := x :: walk.finished, listed := x :: walk.listed } where
  unfinished := by
    intro y hy hmem
    rcases mem_cons.mp hmem with rfl | hmem
    · exact hx hy
    · exact h.unfinished y (mem_cons_of_mem x hy) hmem
  listed := cons_subset_cons x h.listed
  last := by
    intro s hs d hd hback
    have hnew : x ∉ walk.finished := h.unfinished x (mem_cons_self ..)
    show d ∈ x :: walk.finished ∧ LastBefore d s (x :: walk.listed).reverse
    rw [reverse_cons]
    rcases mem_cons.mp hs with rfl | hs
    · -- on the path a dependency would lead back to the symbol
      have hfinished : d ∈ walk.finished := by
        rcases hnext d hd with hfinished | hpath
        · exact hfinished
        · rcases mem_cons.mp hpath with rfl | hpath
          · exact absurd (.single hd) hback
          · exact absurd (htrail.reaches_of_mem hpath) hback
      refine ⟨mem_cons_of_mem s hfinished, lastBefore_concat ?_ ?_⟩
      · exact mem_reverse.mpr (h.listed hfinished)
      · rintro rfl
        exact hnew hfinished
    · obtain ⟨hfinished, hplaces⟩ := h.last s hs d hd hback
      refine ⟨mem_cons_of_mem x hfinished, hplaces.concat ?_ ?_⟩
      · rintro rfl
        exact hnew hfinished
      · rintro rfl
        exact hnew hs
  once := by
    intro s hself
    have hnew : x ∉ walk.finished := h.unfinished x (mem_cons_self ..)
    have hcount := h.once s hself
    show (x :: walk.listed).count s = if s ∈ x :: walk.finished then 1 else 0
    by_cases hs : x = s
    · subst hs
      rw [if_neg hnew] at hcount
      rw [count_cons_self, hcount, if_pos (mem_cons_self ..)]
    · rw [count_cons_of_ne hs, hcount]
      simp [Ne.symm hs]

end Settled

/-- Visits keep places settled. -/
theorem Visits.settled (h : Visits deps known path symbols walk walk')
    (htrails : ∀ x ∈ symbols, ∃ root, Trail deps known root path x)
    (hsettled : Settled deps known path walk) : Settled deps known path walk' := by
  induction h with
  | done => exact hsettled
  | @finished path symbols x _ _ _ _ ih =>
    exact ih (fun y hy => htrails y (mem_cons_of_mem x hy)) hsettled
  | @again path symbols x _ _ _ hpath _ ih =>
    obtain ⟨root, htrail⟩ := htrails x (mem_cons_self ..)
    apply ih fun y hy => htrails y (mem_cons_of_mem x hy)
    exact hsettled.again htrail hpath
  | @new path symbols x _ _ _ hfinished hpath hnext _ ihnext ihrest =>
    obtain ⟨root, htrail⟩ := htrails x (mem_cons_self ..)
    have hinner := ihnext (fun y hy => ⟨root, htrail.step hpath hy⟩) (hsettled.enter hfinished)
    apply ihrest fun y hy => htrails y (mem_cons_of_mem x hy)
    exact hinner.leave htrail hpath fun y hy => hnext.mem_finished hy

theorem settled_walkFrom (hroots : roots ⊆ known) :
    Settled deps known [] (walkFrom deps known roots) :=
  ((visits_walkFrom_iff hroots).mpr rfl).settled (trails_of_subset hroots) settled_start

/-! ## The order of all symbols -/

/-- Nothing but known symbols has a place in the order. -/
theorem mem_orderSymbols_iff {symbol : String} :
    symbol ∈ orderSymbols deps known ↔ symbol ∈ known := by
  refine ⟨fun h => ?_, mem_orderSymbols⟩
  unfold orderSymbols at h
  rw [mem_reverse] at h
  have hroots := sortNames_distinct_subset known
  rcases exists_root_of_mem_listed hroots _ h with hnone | ⟨root, hroot, rfl | hreach⟩
  · exact absurd hnone not_mem_nil
  · exact hroots hroot
  · obtain ⟨y, -, hy⟩ := Relation.TransGen.tail'_iff.mp hreach
    exact (mem_nextSymbols.mp hy).2

/-- A symbol that does not depend on itself has one place, after all that it depends on. -/
theorem exists_only_place {s : String} (hs : s ∈ known) (hself : ¬ Reaches deps known s s) :
    ∃ before after, orderSymbols deps known = before ++ s :: after ∧ s ∉ before ∧ s ∉ after ∧
      ∀ d ∈ nextSymbols deps known s, d ∈ before := by
  have hroots := sortNames_distinct_subset known
  have hroot : s ∈ sortNames (distinct known) := mem_sortNames.mpr (mem_distinct.mpr hs)
  have hsettled : Settled deps known [] (walkFrom deps known _) := settled_walkFrom hroots
  have hcount := hsettled.once s hself
  rw [if_pos (mem_finished_walkFrom hroot)] at hcount
  obtain ⟨later, earlier, hlisted⟩ := append_of_mem
    (hsettled.listed (mem_finished_walkFrom hroot))
  have hgrounded : ∀ d ∈ nextSymbols deps known s, d ∈ earlier := by
    rcases (orderly_walkFrom hroots).grounded s earlier ⟨later, hlisted.symm⟩ with
      hall | ⟨before, root, -, hreturns, -⟩
    · exact hall
    · exact absurd hreturns.reaches hself
  rw [hlisted, count_append, count_cons_self] at hcount
  refine ⟨earlier.reverse, later.reverse, ?_, ?_, ?_, ?_⟩
  · unfold orderSymbols
    rw [hlisted]
    simp
  · rw [mem_reverse]
    exact count_eq_zero.mp (by omega)
  · rw [mem_reverse]
    exact count_eq_zero.mp (by omega)
  · intro d hd
    exact mem_reverse.mpr (hgrounded d hd)

/-- Whatever the dependencies are, the walk from all known symbols in the order of their names comes
to its end and gives the order. The order holds the known symbols and no others. If a symbol depends
on another that does not depend on it, the last place of the other comes first. A symbol that does
not depend on itself has one place, after the places of all that it depends on. -/
theorem orderSymbols_places (deps : Table (List String)) (known : List String) :
    (∃ walk, (∀ other, Visits deps known [] (sortNames (distinct known))
          { finished := [], listed := [] } other ↔ other = walk) ∧
        orderSymbols deps known = walk.listed.reverse) ∧
      (∀ s, s ∈ orderSymbols deps known ↔ s ∈ known) ∧
      (∀ s ∈ known, ∀ d ∈ nextSymbols deps known s, ¬ Reaches deps known d s →
        LastBefore d s (orderSymbols deps known)) ∧
      ∀ s ∈ known, ¬ Reaches deps known s s →
        ∃ before after, orderSymbols deps known = before ++ s :: after ∧
          s ∉ before ∧ s ∉ after ∧ ∀ d ∈ nextSymbols deps known s, d ∈ before := by
  have hroots := sortNames_distinct_subset known
  refine ⟨⟨walkFrom deps known (sortNames (distinct known)), ?_, rfl⟩, ?_, ?_, ?_⟩
  · intro other
    exact visits_walkFrom_iff hroots
  · intro s
    exact mem_orderSymbols_iff
  · intro s hs d hd hback
    have hfinished : s ∈ (walkFrom deps known (sortNames (distinct known))).finished :=
      mem_finished_walkFrom (mem_sortNames.mpr (mem_distinct.mpr hs))
    exact ((settled_walkFrom hroots).last s hfinished d hd hback).2
  · intro s hs hself
    exact exists_only_place hs hself

/-- A symbol does not depend on what lies outside a list of symbols that holds all it depends on. -/
theorem not_reaches_of_closed {inside : List String} {x y : String}
    (hstart : nextSymbols deps known x ⊆ inside)
    (hclosed : ∀ z ∈ inside, nextSymbols deps known z ⊆ inside) (hy : y ∉ inside) :
    ¬ Reaches deps known x y := by
  intro hreach
  apply hy
  clear hy
  induction hreach with
  | single h => exact hstart h
  | tail _ h ih => exact hclosed _ ih h

/-- Two symbols that depend on each other, one that depends on itself, and one that depends on a
symbol twice and on a name that is not known. -/
def turning : Table (List String) :=
  .ofList [("arm", ["claw", "print", "claw"]), ("claw", ["wrist"]), ("wrist", ["claw"]),
    ("drive", ["drive", "arm"])]

theorem orderSymbols_turning :
    orderSymbols turning ["drive", "arm", "wrist", "claw"]
      = ["claw", "wrist", "claw", "arm", "drive", "drive"] ∧
    LastBefore "claw" "arm" (orderSymbols turning ["drive", "arm", "wrist", "claw"]) ∧
    ∃ before after,
      orderSymbols turning ["drive", "arm", "wrist", "claw"] = before ++ "arm" :: after ∧
        "arm" ∉ before ∧ "arm" ∉ after ∧
        ∀ d ∈ nextSymbols turning ["drive", "arm", "wrist", "claw"] "arm", d ∈ before := by
  obtain ⟨-, -, hlast, honce⟩ := orderSymbols_places turning ["drive", "arm", "wrist", "claw"]
  have hclosed : ∀ z ∈ ["claw", "wrist"],
      nextSymbols turning ["drive", "arm", "wrist", "claw"] z ⊆ ["claw", "wrist"] := by
    decide
  refine ⟨by decide, ?_, ?_⟩
  · apply hlast "arm" (by decide) "claw" (by decide)
    exact not_reaches_of_closed (hclosed "claw" (by decide)) hclosed (by decide)
  · apply honce "arm" (by decide)
    exact not_reaches_of_closed (by decide) hclosed (by decide)

end RobotKit.Link
