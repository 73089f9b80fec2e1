import Mathlib.Data.List.Forall2
import Mathlib.Data.Option.Defs
import RobotKit.Link.Rename

/-!
# Renaming changes identifiers only

What may change when a statement is renamed is said by relations that do not mention the renaming:
`Renamed` for expressions, `RenamedPattern` for patterns and `RenamedBlock` for blocks, which lose
their imports at every depth. Node kinds, order, constants, operators, and the names of attributes,
parameters, keywords and captures are the same on both sides (`renaming_changes_identifiers_only`).
-/

namespace RobotKit.Script

open List (Forall₂)

section Parts

variable (R : Expr → Expr → Prop)

/-- The same parameter, with a related hint and a related default. -/
inductive ParamRel : Param Expr → Param Expr → Prop
  | mk (h : Option.Rel R a b) (h' : Option.Rel R c d) : ParamRel ⟨name, a, c⟩ ⟨name, b, d⟩

inductive ParamsRel : Params Expr → Params Expr → Prop
  | mk (hpositional : Forall₂ (ParamRel R) a b) (hregular : Forall₂ (ParamRel R) c d)
      (hrest : Option.Rel (ParamRel R) e f) (hkeywordOnly : Forall₂ (ParamRel R) g h)
      (hkeywordRest : Option.Rel (ParamRel R) i j) : ParamsRel ⟨a, c, e, g, i⟩ ⟨b, d, f, h, j⟩

inductive GeneratorRel : Generator Expr → Generator Expr → Prop
  | mk (htarget : R a b) (hsource : R c d) (hconditions : Forall₂ R e f) :
      GeneratorRel ⟨isAsync, a, c, e⟩ ⟨isAsync, b, d, f⟩

inductive EntryRel : Entry Expr → Entry Expr → Prop
  | mk (hkey : Option.Rel R a b) (hvalue : R c d) : EntryRel ⟨a, c⟩ ⟨b, d⟩

inductive KeywordRel : Keyword Expr → Keyword Expr → Prop
  | mk (h : R a b) : KeywordRel ⟨name, a⟩ ⟨name, b⟩

inductive ItemRel : WithItem → WithItem → Prop
  | mk (h : R a b) (h' : Option.Rel R c d) : ItemRel ⟨a, c⟩ ⟨b, d⟩

end Parts

inductive PairRel {α β : Type} (R : α → α → Prop) (S : β → β → Prop) : α × β → α × β → Prop
  | mk (h : R a b) (h' : S c d) : PairRel R S (a, c) (b, d)

mutual

/-- Do two expressions differ in nothing but the identifiers of names? The relation is closed under
composition, since some hints are renamed twice. -/
inductive Renamed : Expr → Expr → Prop
  | name (id id' : String) : Renamed (.name id) (.name id')
  | formatted (h : Forall₂ RenamedPart a b) : Renamed (.formatted a) (.formatted b)
  | tuple (h : Forall₂ Renamed a b) : Renamed (.tuple a) (.tuple b)
  | list (h : Forall₂ Renamed a b) : Renamed (.list a) (.list b)
  | set (h : Forall₂ Renamed a b) : Renamed (.set a) (.set b)
  | dict (h : Forall₂ (EntryRel Renamed) a b) : Renamed (.dict a) (.dict b)
  | unary (h : Renamed a b) : Renamed (.unary op a) (.unary op b)
  | binary (h : Renamed a b) (h' : Renamed c d) : Renamed (.binary a op c) (.binary b op d)
  | boolean (h : Forall₂ Renamed a b) : Renamed (.boolean op a) (.boolean op b)
  | compare (h : Renamed a b) (h' : Forall₂ (PairRel Eq Renamed) c d) :
      Renamed (.compare a c) (.compare b d)
  | call (h : Renamed a b) (h' : Forall₂ Renamed c d) (h'' : Forall₂ (KeywordRel Renamed) e f) :
      Renamed (.call a c e) (.call b d f)
  | attribute (h : Renamed a b) : Renamed (.attribute a field) (.attribute b field)
  | subscript (h : Renamed a b) (h' : Renamed c d) : Renamed (.subscript a c) (.subscript b d)
  | slice (h : Option.Rel Renamed a b) (h' : Option.Rel Renamed c d)
      (h'' : Option.Rel Renamed e f) : Renamed (.slice a c e) (.slice b d f)
  | starred (h : Renamed a b) : Renamed (.starred a) (.starred b)
  | conditional (h : Renamed a b) (h' : Renamed c d) (h'' : Renamed e f) :
      Renamed (.conditional a c e) (.conditional b d f)
  | lambda (h : ParamsRel Renamed a b) (h' : Renamed c d) : Renamed (.lambda a c) (.lambda b d)
  | comprehension (h : Renamed a b) (h' : Forall₂ (GeneratorRel Renamed) c d) :
      Renamed (.comprehension kind a c) (.comprehension kind b d)
  | dictComprehension (h : Renamed a b) (h' : Renamed c d)
      (h'' : Forall₂ (GeneratorRel Renamed) e f) :
      Renamed (.dictComprehension a c e) (.dictComprehension b d f)
  | named (h : Renamed a b) (h' : Renamed c d) : Renamed (.named a c) (.named b d)
  | await (h : Renamed a b) : Renamed (.await a) (.await b)
  | yield (h : Option.Rel Renamed a b) : Renamed (.yield a) (.yield b)
  | yieldFrom (h : Renamed a b) : Renamed (.yieldFrom a) (.yieldFrom b)
  | refl (e : Expr) : Renamed e e
  | trans (h : Renamed a b) (h' : Renamed b c) : Renamed a c

inductive RenamedPart : FormatPart → FormatPart → Prop
  | text (value) : RenamedPart (.text value) (.text value)
  | field (h : Renamed a b) (h' : Option.Rel (Forall₂ RenamedPart) c d) :
      RenamedPart (.field a conversion c) (.field b conversion d)

end

/-- Do two patterns differ in nothing but the identifiers of names that they read? -/
inductive RenamedPattern : Pattern → Pattern → Prop
  | value (h : Renamed a b) : RenamedPattern (.value a) (.value b)
  | sequence (h : Forall₂ RenamedPattern a b) : RenamedPattern (.sequence a) (.sequence b)
  | mapping (h : Forall₂ (PairRel Renamed RenamedPattern) a b) :
      RenamedPattern (.mapping a rest) (.mapping b rest)
  | object (h : Renamed a b) (h' : Forall₂ RenamedPattern c d)
      (h'' : Forall₂ (PairRel Eq RenamedPattern) e f) :
      RenamedPattern (.object a c e) (.object b d f)
  | binding (h : RenamedPattern a b) : RenamedPattern (.binding a name) (.binding b name)
  | alternatives (h : Forall₂ RenamedPattern a b) :
      RenamedPattern (.alternatives a) (.alternatives b)
  | refl (p : Pattern) : RenamedPattern p p

mutual

/-- Does a statement come from another by removing the imports from every block, and then giving
new identifiers to names, to function and class definitions and in `global` statements? -/
inductive RenamedStmt : Stmt → Stmt → Prop
  | expression (h : Renamed a b) : RenamedStmt (.expression a) (.expression b)
  | assign (h : Forall₂ Renamed a b) (h' : Renamed c d) : RenamedStmt (.assign a c) (.assign b d)
  | augmented (h : Renamed a b) (h' : Renamed c d) :
      RenamedStmt (.augmented a op c) (.augmented b op d)
  | annotated (h : Renamed a b) (h' : Renamed c d) (h'' : Option.Rel Renamed e f) :
      RenamedStmt (.annotated a c e plain) (.annotated b d f plain)
  | returns (h : Option.Rel Renamed a b) : RenamedStmt (.returns a) (.returns b)
  | delete (h : Forall₂ Renamed a b) : RenamedStmt (.delete a) (.delete b)
  | pass : RenamedStmt .pass .pass
  | breaks : RenamedStmt .breaks .breaks
  | continues : RenamedStmt .continues .continues
  | raises (h : Option.Rel (PairRel Renamed (Option.Rel Renamed)) a b) :
      RenamedStmt (.raises a) (.raises b)
  | asserts (h : Renamed a b) (h' : Option.Rel Renamed c d) :
      RenamedStmt (.asserts a c) (.asserts b d)
  | globals (h : a.length = b.length) : RenamedStmt (.globals a) (.globals b)
  | nonlocals (names : List String) : RenamedStmt (.nonlocals names) (.nonlocals names)
  | function (name name' : String) (hparams : ParamsRel Renamed a b) (hbody : RenamedBlock c d)
      (hdecorators : Forall₂ Renamed e f) (hresult : Option.Rel Renamed g h) :
      RenamedStmt (.function isAsync name a c e g) (.function isAsync name' b d f h)
  | classDef (name name' : String) (hbases : Forall₂ Renamed a b)
      (hkeywords : Forall₂ (KeywordRel Renamed) c d) (hbody : RenamedBlock e f)
      (hdecorators : Forall₂ Renamed g h) :
      RenamedStmt (.classDef name a c e g) (.classDef name' b d f h)
  | branch (h : Renamed a b) (hbody : RenamedBlock c d) (horElse : RenamedBlock e f) :
      RenamedStmt (.branch a c e) (.branch b d f)
  | whileLoop (h : Renamed a b) (hbody : RenamedBlock c d) (horElse : RenamedBlock e f) :
      RenamedStmt (.whileLoop a c e) (.whileLoop b d f)
  | forLoop (h : Renamed a b) (h' : Renamed c d) (hbody : RenamedBlock e f)
      (horElse : RenamedBlock g i) :
      RenamedStmt (.forLoop isAsync a c e g) (.forLoop isAsync b d f i)
  | withBlock (h : Forall₂ (ItemRel Renamed) a b) (hbody : RenamedBlock c d) :
      RenamedStmt (.withBlock isAsync a c) (.withBlock isAsync b d)
  | tryBlock (hbody : RenamedBlock a b) (h : Forall₂ RenamedHandler c d)
      (horElse : RenamedBlock e f) (hfinal : RenamedBlock g i) :
      RenamedStmt (.tryBlock grouped a c e g) (.tryBlock grouped b d f i)
  | choose (h : Renamed a b) (h' : Forall₂ RenamedCase c d) :
      RenamedStmt (.choose a c) (.choose b d)

/-- What becomes of a block: its imports are gone, and the other statements are in their order. -/
inductive RenamedBlock : List Stmt → List Stmt → Prop
  | nil : RenamedBlock [] []
  | dropped (himport : Link.isImport s) (h : RenamedBlock a b) : RenamedBlock (s :: a) b
  | cons (himport : ¬ Link.isImport s) (hs : RenamedStmt s s') (h : RenamedBlock a b) :
      RenamedBlock (s :: a) (s' :: b)

inductive RenamedHandler : Handler → Handler → Prop
  | mk (h : Option.Rel Renamed a b) (hbody : RenamedBlock c d) :
      RenamedHandler (.mk a name c) (.mk b name d)

inductive RenamedCase : Case → Case → Prop
  | mk (h : RenamedPattern a b) (h' : Option.Rel Renamed c d) (hbody : RenamedBlock e f) :
      RenamedCase (.mk a c e) (.mk b d f)

end

/-- Renaming the names of an expression, by induction on the expression and all that holds
expressions inside it. -/
theorem renamed_mapNames_all (f : String → String) :
    (∀ e : Expr, Renamed e (e.mapNames f))
    ∧ (∀ gs, Forall₂ (GeneratorRel Renamed) gs (mapGeneratorNames f gs))
    ∧ (∀ items, Forall₂ Renamed items (mapEachNames f items))
    ∧ (∀ params, ParamsRel Renamed params (mapParamsNames f params))
    ∧ (∀ param, Option.Rel (ParamRel Renamed) param (mapParamOptionNames f param))
    ∧ (∀ e, Option.Rel Renamed e (mapOptionNames f e))
    ∧ (∀ params, Forall₂ (ParamRel Renamed) params (mapParamNames f params))
    ∧ (∀ keywords, Forall₂ (KeywordRel Renamed) keywords (mapKeywordNames f keywords))
    ∧ (∀ rest, Forall₂ (PairRel Eq Renamed) rest (mapComparisonNames f rest))
    ∧ (∀ entries, Forall₂ (EntryRel Renamed) entries (mapEntryNames f entries))
    ∧ ∀ parts, Forall₂ RenamedPart parts (mapPartNames f parts) := by
  apply Expr.mapNames.mutual_induct
  case case1 => exact fun id => .name id (f id)
  case case2 => exact fun value => .refl (.literal value)
  case case26 =>
    intro value rest hrest
    exact .cons (.text value) hrest
  case case27 =>
    intro value conversion rest hvalue hrest
    exact .cons (.field hvalue .none) hrest
  case case28 =>
    intro value conversion format rest hvalue hformat hrest
    exact .cons (.field hvalue (.some hformat)) hrest
  case case32 =>
    intro key value rest hkey hvalue hrest
    exact .cons (.mk hkey hvalue) hrest
  case case34 =>
    intro op e rest he hrest
    exact .cons (.mk rfl he) hrest
  case case36 =>
    intro name value rest hvalue hrest
    exact .cons (.mk hvalue) hrest
  case case41 =>
    intro isAsync target source conditions rest htarget hsource hconditions hrest
    exact .cons (.mk htarget hsource hconditions) hrest
  case case43 =>
    intro name type default rest htype hdefault hrest
    exact .cons (.mk htype hdefault) hrest
  case case45 =>
    intro name type default htype hdefault
    exact .some (.mk htype hdefault)
  -- the rule of the node applies to what the induction gives for its parts
  all_goals
    intros
    constructor <;> assumption

end RobotKit.Script

namespace RobotKit.Link

open RobotKit.Script
open List (Forall₂)

theorem renamed_mapPatternNames_all (f : String → String) :
    (∀ p, RenamedPattern p (mapPatternNames f p))
    ∧ (∀ fields, Forall₂ (PairRel Eq RenamedPattern) fields (mapPatternFieldNames f fields))
    ∧ (∀ entries, Forall₂ (PairRel Renamed RenamedPattern) entries (mapPatternEntryNames f entries))
    ∧ ∀ items, Forall₂ RenamedPattern items (mapPatternListNames f items) := by
  have hexpr := (renamed_mapNames_all f).1
  apply mapPatternNames.mutual_induct <;> intros <;> constructor <;> solve_by_elim

section

variable {α : Type} {R : α → α → Prop} {g : α → α} (h : ∀ a, R a (g a))

include h

theorem rel_map_option (a : Option α) : Option.Rel R a (a.map g) := by
  cases a with
  | none => exact .none
  | some a => exact .some (h a)

theorem forall₂_map_self (items : List α) : Forall₂ R items (items.map g) :=
  List.forall₂_map_right_iff.mpr (List.forall₂_same.mpr fun a _ => h a)

end

variable (scope : Scope)

theorem renamed_renameHint (type : Expr) : Renamed type (renameHint scope type) :=
  .trans ((renamed_mapNames_all scope.hint).1 type) ((renamed_mapNames_all scope.reference).1 _)

/-- Renaming the hints of ordinary parameters twice makes no difference here. -/
theorem paramsRel_renameParams (params : Params Expr) :
    ParamsRel Renamed params (renameParams scope params) := by
  have hhint := (renamed_mapNames_all scope.hint).1
  have hdefault := rel_map_option (renamed_mapNames_all scope.reference).1
  have honce (p : Param Expr) : ParamRel Renamed p { p with
      type := p.type.map (Expr.mapNames scope.hint)
      default := p.default.map (Expr.mapNames scope.reference) } :=
    .mk (rel_map_option hhint p.type) (hdefault p.default)
  have htwice (p : Param Expr) : ParamRel Renamed p { p with
      type := (p.type.map (Expr.mapNames scope.hint)).map (Expr.mapNames scope.hint)
      default := p.default.map (Expr.mapNames scope.reference) } := by
    rw [Option.map_map]
    exact .mk (rel_map_option (fun e => (hhint e).trans (hhint _)) p.type) (hdefault p.default)
  exact ⟨forall₂_map_self honce _, forall₂_map_self htwice _, rel_map_option honce _,
    forall₂_map_self honce _, rel_map_option honce _⟩

theorem renamed_renameStmt_all :
    (∀ s, ¬ isImport s → RenamedStmt s (renameStmt scope s))
    ∧ (∀ cases, Forall₂ RenamedCase cases (renameCases scope cases))
    ∧ (∀ body, RenamedBlock body (renameBlock scope body))
    ∧ ∀ handlers, Forall₂ RenamedHandler handlers (renameHandlers scope handlers) := by
  obtain ⟨hexpr, -, heach, -, -, hoption, -, hkeywords, -⟩ := renamed_mapNames_all scope.reference
  have hpattern := (renamed_mapPatternNames_all scope.reference).1
  have hhint := renamed_renameHint scope
  have hresult := rel_map_option hhint
  have hparams := paramsRel_renameParams scope
  have hnames (names : List String) : names.length = (names.map scope.definition).length :=
    (List.length_map _).symm
  have herror := rel_map_option fun error : Expr × Option Expr =>
    PairRel.mk (hexpr error.1) (hoption error.2)
  have hitems := forall₂_map_self fun item : WithItem =>
    ItemRel.mk (hexpr item.context) (hoption item.target)
  apply renameStmt.mutual_induct
  case case14 | case15 =>
    intros
    exact absurd rfl ‹_›
  case case25 =>
    intro s rest himport ih
    rw [renameBlock, if_pos himport]
    exact .dropped himport ih
  case case26 =>
    intro s rest himport hs ih
    rw [renameBlock, if_neg himport]
    exact .cons himport (hs himport) ih
  case case28 | case30 =>
    intros
    constructor
    · constructor <;> solve_by_elim
    · assumption
  all_goals
    intros
    constructor <;> solve_by_elim

/-- Renaming is pure: a renamed block differs from the block without its imports, at any depth, at
most in the identifiers of names, of function and class definitions and of `global` statements, and
so does a statement that is no import; a renamed expression differs in the identifiers of names
only. -/
theorem renaming_changes_identifiers_only :
    (∀ body, RenamedBlock body (renameBlock scope body))
    ∧ (∀ s, isImport s ∨ RenamedStmt s (renameStmt scope s))
    ∧ ∀ e : Expr, Renamed e (e.mapNames scope.reference) := by
  obtain ⟨hstmt, -, hblock, -⟩ := renamed_renameStmt_all scope
  exact ⟨hblock, fun s => (em (isImport s)).imp_right (hstmt s),
    (renamed_mapNames_all scope.reference).1⟩

end RobotKit.Link
