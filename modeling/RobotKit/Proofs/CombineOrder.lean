import RobotKit.Proofs.Combine
import RobotKit.Proofs.Decimal

/-!
# The order of the statements in a combined script

Two questions about `Project.written`. Does a symbol come after the symbols that it depends on? It
does, in whatever order a run takes the dependencies, unless the walk can come back to it first; then
it depends on itself (`combine_binds_before_use_iff`). Do the expression statements of the entry file
keep their order? Their symbols are sorted as texts, so two of them keep it exactly if the smaller
index is at most the leading digits of the larger one (`combine_expression_order_iff`).
-/

namespace RobotKit.Link

open List RobotKit.Script
open Link.Project (single)

variable {project : Project} {p q : Piece} {order : List String}

/-! ## Dependencies -/

/-- The symbols that a symbol depends on. -/
def Project.dependenciesOf (project : Project) (symbol : String) : List String :=
  (project.analysis.dependencies.get? symbol).getD []

/-- Does a symbol depend on another, directly or through other symbols of the project? -/
def Project.DependsOn (project : Project) : String → String → Prop :=
  Relation.TransGen fun s d =>
    d ∈ project.dependenciesOf s ∧ d ∈ project.analysis.scan.symbols.keys

/-- An order that a run can give: the walk starts from the symbols in the order of their names, and
takes the dependencies of each symbol in any order. -/
def Project.IsWalkOrder (project : Project) (order : List String) : Prop :=
  ∃ deps, SameDependencies deps project.analysis.dependencies ∧
    order = orderSymbols deps project.analysis.scan.symbols.keys

/-- Can a run list a symbol before another one that it depends on? From some symbol the walk can
come back to it on its way, and no symbol with a smaller name leads to either of the two. -/
def Project.MayPrecede (project : Project) (s d : String) : Prop :=
  ∃ root, ReturnsFrom project.analysis.dependencies project.analysis.scan.symbols.keys root s ∧
    ∀ r ∈ project.analysis.scan.symbols.keys, r < root →
      ∀ y ∈ [s, d], ¬ (y = r ∨ project.DependsOn r y)

theorem Project.dependsOn_eq_reaches (project : Project) :
    project.DependsOn
      = Reaches project.analysis.dependencies project.analysis.scan.symbols.keys := by
  rw [DependsOn, Reaches]
  congr 1
  funext s d
  exact propext mem_nextSymbols.symm

theorem Project.MayPrecede.dependsOn_self {s d : String} (h : project.MayPrecede s d) :
    project.DependsOn s s := by
  obtain ⟨root, hreturns, -⟩ := h
  rw [dependsOn_eq_reaches]
  exact hreturns.reaches

/-- A run that takes the dependencies of each symbol as they are rearranged. -/
theorem Project.isWalkOrder_map (project : Project) {arrange : List String → List String}
    (h : ∀ names, (arrange names).Perm names) :
    project.IsWalkOrder (orderSymbols (project.analysis.dependencies.map arrange)
      project.analysis.scan.symbols.keys) := by
  refine ⟨_, fun symbol => ?_, rfl⟩
  rw [Table.get?_map]
  cases project.analysis.dependencies.get? symbol with
  | none => exact .refl _
  | some names => exact h names

/-- The order that is used takes the dependencies in the order of their names. -/
theorem Project.isWalkOrder_order (project : Project) :
    project.IsWalkOrder project.analysis.order :=
  project.isWalkOrder_map sortNames_perm

/-- The roots before one of the sorted roots are the symbols with smaller names. -/
theorem mem_before_iff {known before : List String} {root : String}
    (h : before ++ [root] <+: sortNames (distinct known)) {r : String} :
    r ∈ before ↔ r ∈ known ∧ r < root := by
  obtain ⟨after, happend⟩ := h
  have hsorted := pairwise_lt_sortNames (nodup_distinct known)
  have hmem : r ∈ known ↔ r ∈ before ++ [root] ++ after := by
    rw [happend, mem_sortNames, mem_distinct]
  rw [← happend, append_assoc, pairwise_append] at hsorted
  obtain ⟨-, hafter, hbefore⟩ := hsorted
  rw [hmem, append_assoc, mem_append]
  constructor
  · exact fun hr => ⟨.inl hr, hbefore r hr root (mem_cons_self ..)⟩
  · rintro ⟨hr, hlt⟩
    refine hr.resolve_right fun hr => ?_
    rcases mem_cons.mp hr with rfl | hr
    · exact String.lt_irrefl r hlt
    · exact String.lt_asymm hlt ((pairwise_cons.mp hafter).1 r hr)

section

variable (hp : p ∈ project.written) (hq : q ∈ project.written)

include hp hq

/-- Pieces are written in the order in which their symbols are listed. -/
theorem Project.pair_sublist_writtenIn (h : [p.symbol, q.symbol].Sublist (distinct order)) :
    [p, q].Sublist (project.writtenIn order) := by
  have hpair : [p.symbol, q.symbol].filterMap project.lastPiece? = [p, q] := by
    simp [mem_written.mp hp, mem_written.mp hq]
  rw [← hpair]
  exact h.filterMap _

/-- A symbol comes after its dependencies in every order, unless it may precede them. -/
theorem Project.sublist_of_not_mayPrecede (hdep : q.symbol ∈ project.dependenciesOf p.symbol)
    (hnot : ¬ project.MayPrecede p.symbol q.symbol) (horder : project.IsWalkOrder order) :
    [q, p].Sublist (project.writtenIn order) := by
  obtain ⟨deps, hsame, rfl⟩ := horder
  refine pair_sublist_writtenIn hq hp ((pair_sublist_or_returns (sortNames_distinct_subset _)
    ?_ ?_).resolve_right ?_)
  · exact mem_sortNames.mpr (mem_distinct.mpr (symbol_mem_keys (mem_pieces_of_mem_written hp)))
  · exact hsame.mem_nextSymbols.mpr (mem_nextSymbols.mpr
      ⟨hdep, symbol_mem_keys (mem_pieces_of_mem_written hq)⟩)
  · rintro ⟨before, root, hstart, hreturns, hbefore⟩
    refine hnot ⟨root, hsame.returnsFrom hreturns, fun r hr hlt y hy hleads => ?_⟩
    rw [dependsOn_eq_reaches, ← hsame.reaches_iff] at hleads
    exact hbefore r ((mem_before_iff hstart).mpr ⟨hr, hlt⟩) y hy hleads

/-- A symbol that may precede another one does so in some order. -/
theorem Project.exists_order_of_mayPrecede (hne : p.symbol ≠ q.symbol)
    (h : project.MayPrecede p.symbol q.symbol) :
    ∃ order, project.IsWalkOrder order ∧ [p, q].Sublist (project.writtenIn order) := by
  obtain ⟨root, hreturns, hsmaller⟩ := h
  have hroot : root ∈ sortNames (distinct project.analysis.scan.symbols.keys) := by
    obtain ⟨path, htrail, -⟩ := hreturns
    exact mem_sortNames.mpr (mem_distinct.mpr htrail.root_mem_known)
  obtain ⟨before, after, happend⟩ := append_of_mem hroot
  have hstart : before ++ [root] <+: sortNames (distinct project.analysis.scan.symbols.keys) :=
    ⟨after, by rw [happend, append_assoc, singleton_append]⟩
  obtain ⟨deps, hsame, hfirst⟩ := exists_walk_listing_before (sortNames_distinct_subset _) hstart
    hreturns
    (fun r hr y hy hleads => by
      obtain ⟨hknown, hlt⟩ := (mem_before_iff hstart).mp hr
      rw [← dependsOn_eq_reaches] at hleads
      exact hsmaller r hknown hlt y hy hleads)
    (mem_sortNames.mpr (mem_distinct.mpr (symbol_mem_keys (mem_pieces_of_mem_written hq)))) hne.symm
  exact ⟨_, ⟨deps, hsame, rfl⟩, pair_sublist_writtenIn hp hq hfirst⟩

end

/-- A symbol is written after a symbol that it depends on, in whatever order a run takes the
dependencies, exactly if it may not precede it; so it is if it does not depend on itself. In
particular it is so in the combined script. -/
theorem combine_binds_before_use_iff {project : Project} {result : Combined}
    (h : project.combine = .ok result) {p q : Piece} (hp : p ∈ project.written)
    (hq : q ∈ project.written) (hne : p.symbol ≠ q.symbol)
    (hdep : q.symbol ∈ project.dependenciesOf p.symbol) :
    result.Consists project.analysis.scan.external
        (project.written.map project.analysis.linked) ∧
      ((∀ order, project.IsWalkOrder order → [q, p].Sublist (project.writtenIn order))
        ↔ ¬ project.MayPrecede p.symbol q.symbol) ∧
      (project.MayPrecede p.symbol q.symbol → project.DependsOn p.symbol p.symbol) ∧
      (¬ project.DependsOn p.symbol p.symbol → [q, p].Sublist project.written) := by
  refine ⟨project.consists_combine h, ⟨fun hall hmay => ?_, fun hnot order horder => ?_⟩,
    fun hmay => hmay.dependsOn_self, fun hself => ?_⟩
  · obtain ⟨order, horder, hpq⟩ := Project.exists_order_of_mayPrecede hp hq hne hmay
    exact not_pair_sublist_of_nodup (project.nodup_writtenIn order) hpq (hall order horder)
  · exact Project.sublist_of_not_mayPrecede hp hq hdep hnot horder
  · exact Project.sublist_of_not_mayPrecede hp hq hdep (fun hmay => hself hmay.dependsOn_self)
      project.isWalkOrder_order

theorem Project.not_dependsOn_of_eq_nil {s d : String} (h : project.dependenciesOf s = []) :
    ¬ project.DependsOn s d := by
  intro hdep
  obtain ⟨x, ⟨hx, -⟩, -⟩ := Relation.TransGen.head'_iff.mp hdep
  rw [h] at hx
  exact absurd hx not_mem_nil

/-- A number and its half: by their names the half would come first. -/
def halving : List Stmt :=
  [.assign [.name "top"] (.literal (.int 8)),
    .assign [.name "half"] (.binary (.name "top") .floorDiv (.literal (.int 2)))]

/-- The script of the half, the places of its statements and their dependencies. -/
theorem combine_halving :
    (single halving).combine.toOption.map Combined.text
        = some (scriptText [] ["top = 8", "half = top // 2"]) ∧
      (single halving).analysis.scan.scanned = ["/work/main.py"] ∧
      (single halving).places = [("/work/main.py::top", "/work/main.py", 0),
        ("/work/main.py::half", "/work/main.py", 1)] ∧
      (single halving).dependenciesOf "/work/main.py::half" = ["/work/main.py::top"] ∧
      (single halving).dependenciesOf "/work/main.py::top" = [] := by
  decide +kernel

/-- The half does not depend on itself, so the number is written before it. -/
theorem combine_binds_top_before_half :
    ∃ result, (single halving).combine = .ok result ∧
      ¬ (single halving).DependsOn "/work/main.py::half" "/work/main.py::half" ∧
      [mainPiece "top" 0 halving[0], mainPiece "half" 1 halving[1]].Sublist
        (single halving).written := by
  obtain ⟨htext, hscanned, hplaces, hhalf, htop⟩ := combine_halving
  obtain ⟨result, hok, -⟩ := Project.exists_combine_of_text htext
  have hfile : "/work/main.py" ∈ (single halving).analysis.scan.scanned := by
    simp [hscanned]
  have hp : mainPiece "half" 1 halving[1] ∈ (single halving).written :=
    Project.mem_written_of_mem_places ⟨hfile, halving, rfl, rfl⟩ (by rw [hplaces]; decide)
  have hq : mainPiece "top" 0 halving[0] ∈ (single halving).written :=
    Project.mem_written_of_mem_places ⟨hfile, halving, rfl, rfl⟩ (by rw [hplaces]; decide)
  have hself : ¬ (single halving).DependsOn "/work/main.py::half"
      "/work/main.py::half" := by
    intro hself
    obtain ⟨x, ⟨hx, -⟩, hback⟩ := Relation.TransGen.head'_iff.mp hself
    rw [hhalf] at hx
    obtain rfl := mem_singleton.mp hx
    rcases Relation.reflTransGen_iff_eq_or_transGen.mp hback with heq | hdep
    · exact absurd heq (by decide)
    · exact Project.not_dependsOn_of_eq_nil htop hdep
  have hdep : (mainPiece "top" 0 halving[0]).symbol
      ∈ (single halving).dependenciesOf (mainPiece "half" 1 halving[1]).symbol := by
    show "/work/main.py::top" ∈ (single halving).dependenciesOf "/work/main.py::half"
    rw [hhalf]
    exact mem_singleton.mpr rfl
  obtain ⟨-, -, -, hbefore⟩ := combine_binds_before_use_iff hok hp hq (by decide) hdep
  exact ⟨result, hok, hself, hbefore hself⟩

/-- A class that reads a number in its body and names itself in a method. -/
def copying : List Stmt :=
  [.assign [.name "rate"] (.literal (.int 2)),
    .classDef "Arm" [] [] [.assign [.name "speed"] (.name "rate"),
      .function false "copy" ⟨[], [⟨"self", none, none⟩], none, [], none⟩
        [.returns (some (.call (.name "Arm") [] []))] [] none] []]

/-- The statements of its combined script. -/
def copyingTexts : List String :=
  ["class Arm:\n    speed = rate\n\n    def copy(self):\n        return Arm()", "rate = 2"]

/-- The script of the class, the places of its statements and their dependencies. -/
theorem combine_copying :
    (single copying).combine.toOption.map Combined.text
        = some (scriptText [] copyingTexts) ∧
      (single copying).analysis.scan.scanned = ["/work/main.py"] ∧
      (single copying).places = [("/work/main.py::Arm", "/work/main.py", 1),
        ("/work/main.py::rate", "/work/main.py", 0)] ∧
      "/work/main.py::rate" ∈ (single copying).dependenciesOf "/work/main.py::Arm" ∧
      (single copying).dependenciesOf "/work/main.py::rate" = [] := by
  decide +kernel

/-- The class is written before the number that it depends on, though the number does not depend on
the class. -/
theorem combine_copying_uses_before_binding :
    ∃ result, (single copying).combine = .ok result ∧
      result.text = scriptText [] copyingTexts ∧
      mainPiece "rate" 0 copying[0] ∈ (single copying).written ∧
      mainPiece "Arm" 1 copying[1] ∈ (single copying).written ∧
      "/work/main.py::rate" ∈ (single copying).dependenciesOf "/work/main.py::Arm" ∧
      ¬ (single copying).DependsOn "/work/main.py::rate" "/work/main.py::Arm" ∧
      ¬ [mainPiece "rate" 0 copying[0], mainPiece "Arm" 1 copying[1]].Sublist
        (single copying).written := by
  obtain ⟨htext, hscanned, hplaces, harm, hrate⟩ := combine_copying
  obtain ⟨result, hok, htext⟩ := Project.exists_combine_of_text htext
  have hfile : "/work/main.py" ∈ (single copying).analysis.scan.scanned := by
    simp [hscanned]
  refine ⟨result, hok, htext, ?_, ?_, harm, Project.not_dependsOn_of_eq_nil hrate,
    fun hsub => ?_⟩
  · exact Project.mem_written_of_mem_places ⟨hfile, copying, rfl, rfl⟩ (by rw [hplaces]; decide)
  · exact Project.mem_written_of_mem_places ⟨hfile, copying, rfl, rfl⟩ (by rw [hplaces]; decide)
  · have hpair := hsub.map fun p => (p.symbol, p.file, p.index)
    rw [← Project.places, hplaces] at hpair
    revert hpair
    decide

/-! ## Expression statements -/

/-- Is the statement an expression? -/
def isExpression : Stmt → Bool
  | .expression _ => true
  | _ => false

/-- Is the piece an expression statement of the entry file? -/
def Project.IsEffect (project : Project) (p : Piece) : Prop :=
  p.file = project.entry ∧ isExpression p.statement = true

/-- The symbol of an expression statement is made from its index. -/
theorem Project.symbol_of_isEffect {p : Piece} (hp : p ∈ project.pieces)
    (heffect : project.IsEffect p) :
    p.symbol = symbolKey project.entry (expressionName p.index) := by
  obtain ⟨-, hkey⟩ := mem_pieces.mp hp
  obtain ⟨hfile, hexpression⟩ := heffect
  rw [hfile] at hkey
  cases hs : p.statement with
  | expression value =>
    rw [hs] at hkey
    simp only [chunkKey?, declarations, decide_true, if_true, head?_cons, Option.map_some,
      Option.some.injEq] at hkey
    exact hkey.symm
  | _ => simp [hs, isExpression] at hexpression

/-- Symbols of expression statements are ordered like the decimal texts of their indices. -/
theorem symbolKey_expressionName_lt {entry : String} {i j : Nat} (h : toString i < toString j) :
    symbolKey entry (expressionName i) < symbolKey entry (expressionName j) := by
  rw [String.lt_iff] at h ⊢
  simp only [symbolKey, expressionName, String.toList_append, append_assoc]
  exact append_left_lt (append_left_lt (append_left_lt h))

/-- A symbol that nothing depends on is written after every symbol with a smaller name. -/
theorem Project.sublist_written_of_lt (hp : p ∈ project.written) (hq : q ∈ project.written)
    (hlt : p.symbol < q.symbol) (hfree : ∀ s, q.symbol ∉ project.dependenciesOf s) :
    [p, q].Sublist project.written := by
  have hmem : ∀ r ∈ project.written,
      r.symbol ∈ sortNames (distinct project.analysis.scan.symbols.keys) := fun r hr =>
    mem_sortNames.mpr (mem_distinct.mpr
      (symbol_mem_keys (mem_pieces_of_mem_written hr)))
  refine pair_sublist_writtenIn hp hq (pair_sublist_of_roots (sortNames_distinct_subset _)
    (nodup_sortNames (nodup_distinct _)) ?_ ?_)
  · exact pair_sublist_of_pairwise (pairwise_sortNames _) (hmem p hp) (hmem q hq) hlt
  · intro s hs
    obtain ⟨hdep, -⟩ := mem_nextSymbols.mp hs
    rw [Table.get?_map] at hdep
    have hin := hfree s
    rw [dependenciesOf] at hin
    cases hget : project.analysis.dependencies.get? s with
    | none => simp [hget] at hdep
    | some names =>
      simp only [hget, Option.map_some, Option.getD_some, mem_sortNames] at hdep hin
      exact hin hdep

/-- Two expression statements of the entry file that no symbol depends on keep their order in the
combined script exactly if the first index is at most the number that the leading digits of the
second one make. -/
theorem combine_expression_order_iff {project : Project} {result : Combined}
    (h : project.combine = .ok result) {p q : Piece} (hp : p ∈ project.written)
    (hq : q ∈ project.written) (hpe : project.IsEffect p) (hqe : project.IsEffect q)
    (hpfree : ∀ s, p.symbol ∉ project.dependenciesOf s)
    (hqfree : ∀ s, q.symbol ∉ project.dependenciesOf s) (hlt : p.index < q.index) :
    result.Consists project.analysis.scan.external
        (project.written.map project.analysis.linked) ∧
      ([p, q].Sublist project.written ↔ p.index ≤ leadingDigits p.index q.index) := by
  have hpsymbol := Project.symbol_of_isEffect (Project.mem_pieces_of_mem_written hp) hpe
  have hqsymbol := Project.symbol_of_isEffect (Project.mem_pieces_of_mem_written hq) hqe
  rw [← toString_lt_toString_iff hlt]
  refine ⟨project.consists_combine h, fun hpq => ?_, fun htext => ?_⟩
  · -- were the texts the other way round, the second statement would be written first
    refine Decidable.byContradiction fun hnot => ?_
    have hgt : toString q.index < toString p.index := String.not_le.mp fun hle =>
      Nat.ne_of_lt hlt (toString_injective (String.le_antisymm hle (String.not_lt.mp hnot)))
    have hqp : [q, p].Sublist project.written :=
      Project.sublist_written_of_lt hq hp
        (by rw [hpsymbol, hqsymbol]; exact symbolKey_expressionName_lt hgt) hpfree
    exact not_pair_sublist_of_nodup (project.nodup_writtenIn _) hpq hqp
  · exact Project.sublist_written_of_lt hp hq
      (by rw [hpsymbol, hqsymbol]; exact symbolKey_expressionName_lt htext) hqfree

theorem Project.not_mem_dependenciesOf {symbol : String}
    (h : ∀ names ∈ project.analysis.dependencies.values, symbol ∉ names) (s : String) :
    symbol ∉ project.dependenciesOf s := by
  rw [dependenciesOf]
  cases hget : project.analysis.dependencies.get? s with
  | none => exact not_mem_nil
  | some names => exact h names (Table.mem_values_of_get? hget)

/-- A statement that prints a number. -/
def printNumber (n : Nat) : Stmt := .expression (.call (.name "print") [.literal (.int n)] [])

/-- A script that prints the first eleven numbers. -/
def printing : List Stmt := (List.range 11).map printNumber

/-- The piece that prints a number. -/
def printPiece (n : Nat) : Piece := mainPiece (expressionName n) n (printNumber n)

/-- The script that is written, the places of its statements and their dependencies. -/
theorem combine_printing :
    (single printing).combine.toOption.map Combined.text
        = some (scriptText [] ["print(0)", "print(1)", "print(10)", "print(2)", "print(3)",
          "print(4)", "print(5)", "print(6)", "print(7)", "print(8)", "print(9)"]) ∧
      (single printing).analysis.scan.scanned = ["/work/main.py"] ∧
      (single printing).places = [0, 1, 10, 2, 3, 4, 5, 6, 7, 8, 9].map (fun n =>
        (symbolKey "/work/main.py" (expressionName n), "/work/main.py", n)) ∧
      (single printing).analysis.dependencies.values.flatten = [] := by
  decide +kernel

theorem printPiece_mem_written {n : Nat} (hn : n < 11) :
    printPiece n ∈ (single printing).written := by
  obtain ⟨-, hscanned, hplaces, -⟩ := combine_printing
  have hs : printing[n]? = some (printNumber n) := by simp [printing, hn]
  refine Project.mem_written_of_mem_places ⟨?_, printing, rfl, hs⟩ ?_
  · show "/work/main.py" ∈ _
    simp [hscanned]
  · rw [hplaces]
    have hmem : n ∈ [0, 1, 10, 2, 3, 4, 5, 6, 7, 8, 9] := by
      simp only [mem_cons, not_mem_nil, or_false]
      omega
    exact mem_map_of_mem hmem

theorem printPiece_not_mem_dependenciesOf (n : Nat) (s : String) :
    (printPiece n).symbol ∉ (single printing).dependenciesOf s := by
  obtain ⟨-, -, -, hnone⟩ := combine_printing
  refine Project.not_mem_dependenciesOf (fun names hnames hmem => ?_) s
  have hflat := mem_flatten_of_mem hnames hmem
  rw [hnone] at hflat
  exact absurd hflat not_mem_nil

/-- The numbers `1` and `10` are printed in order, for `1` is the first digit of `10`. -/
theorem combine_prints_one_before_ten :
    ∃ result, (single printing).combine = .ok result ∧
      [printPiece 1, printPiece 10].Sublist (single printing).written := by
  obtain ⟨htext, -⟩ := combine_printing
  obtain ⟨result, hok, -⟩ := Project.exists_combine_of_text htext
  have hone : printPiece 1 ∈ (single printing).written := printPiece_mem_written (by decide)
  have hten : printPiece 10 ∈ (single printing).written :=
    printPiece_mem_written (by decide)
  obtain ⟨-, hiff⟩ := combine_expression_order_iff hok hone hten ⟨rfl, rfl⟩ ⟨rfl, rfl⟩
    (printPiece_not_mem_dependenciesOf 1) (printPiece_not_mem_dependenciesOf 10) (by decide)
  have hdigits : leadingDigits 1 10 = 1 := by decide
  exact ⟨result, hok, hiff.mpr (Nat.le_of_eq hdigits.symm)⟩

/-- The number `10` is printed before the number `2`. -/
theorem combine_prints_ten_before_two :
    ∃ result, (single printing).combine = .ok result ∧
      result.text = scriptText [] ["print(0)", "print(1)", "print(10)", "print(2)", "print(3)",
        "print(4)", "print(5)", "print(6)", "print(7)", "print(8)", "print(9)"] ∧
      printPiece 2 ∈ (single printing).written ∧
      printPiece 10 ∈ (single printing).written ∧
      ¬ [printPiece 2, printPiece 10].Sublist (single printing).written := by
  obtain ⟨htext, -, hplaces, -⟩ := combine_printing
  obtain ⟨result, hok, htext⟩ := Project.exists_combine_of_text htext
  refine ⟨result, hok, htext, printPiece_mem_written (by decide),
    printPiece_mem_written (by decide), fun hsub => ?_⟩
  have hpair := hsub.map fun p => (p.symbol, p.file, p.index)
  rw [← Project.places, hplaces] at hpair
  have hindices := hpair.map fun place => place.2.2
  revert hindices
  decide

end RobotKit.Link
