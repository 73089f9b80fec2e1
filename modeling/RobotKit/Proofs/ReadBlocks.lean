import RobotKit.Script.Reading.Statement
import RobotKit.Proofs.Blocks
import RobotKit.Proofs.ReadWords

/-!
# Scripts as they are read

A statement that is read from a text is complete, and the names that it declares or imports are
words, those of modules with dots between them (`wellRead_of_parse`). Every rule of the grammar
keeps this, given that the rule for blocks does.
-/

namespace RobotKit.Script

open List Reader

variable {s : Stmt} {body : List Stmt}

/-- Does the text consist of words with dots between them? -/
def IsDotted (text : String) : Prop := ∀ c ∈ text.toList, isWordChar c = true ∨ c = '.'

/-- Are the names that the statement itself declares or imports words? -/
def Stmt.DeclaresWords : Stmt → Prop
  | .function _ name _ _ _ _ => IsWord name
  | .classDef name _ _ _ _ => IsWord name
  | .assign targets _ => ∀ target ∈ targets, target.NamesWord
  | .annotated target _ _ _ => target.NamesWord
  | .augmented target _ _ => target.NamesWord
  | .imports names => ∀ a ∈ names, IsDotted a.name ∧ ∀ bound ∈ a.boundAs, IsWord bound
  | .importFrom source names _ =>
    (∀ name ∈ source, IsDotted name) ∧
      ∀ a ∈ names, (a.name = "*" ∨ IsWord a.name) ∧ ∀ bound ∈ a.boundAs, IsWord bound
  | _ => True

/-- Is the statement complete, and are the names words that it and the statements inside it declare
or import? -/
inductive Stmt.WellRead : Stmt → Prop
  | intro {s : Stmt} (required : ∀ block ∈ s.required, block ≠ [])
      (inner : ∀ block ∈ s.blocks, ∀ t ∈ block, t.WellRead) (words : s.DeclaresWords) : s.WellRead

theorem Stmt.WellRead.words (h : s.WellRead) : s.DeclaresWords := by
  cases h with
  | intro required inner words => exact words

theorem Stmt.WellRead.inner (h : s.WellRead) :
    ∀ block ∈ s.blocks, ∀ t ∈ block, t.WellRead := by
  cases h with
  | intro required inner words => exact inner

theorem Stmt.WellRead.complete (h : s.WellRead) : s.Complete := by
  induction h with
  | intro required inner words ih => exact .intro required ih

/-- Is the block a block of such statements, and not an empty one? -/
structure BlockRead (block : List Stmt) : Prop where
  nonempty : block ≠ []
  inner : ∀ s ∈ block, s.WellRead

/-- A statement without blocks is complete. -/
theorem Stmt.wellRead_of_simple (hblocks : s.blocks = []) (hwords : s.DeclaresWords) :
    s.WellRead := by
  refine .intro (fun block hblock => ?_) (by simp [hblocks]) hwords
  have := s.required_subset_blocks hblock
  exact absurd this (by simp [hblocks])

/-- A compound statement is complete if its blocks are, and if none that it needs is empty. -/
theorem Stmt.wellRead_of_blocks (hrequired : ∀ block ∈ s.required, BlockRead block)
    (hblocks : ∀ block ∈ s.blocks, ∀ t ∈ block, t.WellRead) (hwords : s.DeclaresWords) :
    s.WellRead :=
  .intro (fun block hblock => (hrequired block hblock).nonempty) hblocks hwords

variable {self : Rules} {block : Block} {depth : Nat}

/-- A step that is made in one case only. -/
theorem gives_when {β : Type} {c : Prop} [Decidable c] {step : Reader Unit}
    {next : Unit → Reader β} {Q : β → Prop} (h : ∀ u, (next u).Gives Q) :
    (if c then step >>= next else next ()).Gives Q := by
  split
  · exact gives_bind h
  · exact h ()

/-- Two ways to a value of which nothing needs to be known. -/
theorem gives_either {α β : Type} {c : Prop} [Decidable c] {first second : Reader α}
    {next : α → Reader β} {Q : β → Prop} (h : ∀ a, (next a).Gives Q) :
    (if c then first >>= next else second >>= next).Gives Q := by
  split
  · exact gives_bind h
  · exact gives_bind h

/-! ## Simple statements -/

theorem gives_assignment (h : self.GiveWords) (fuel : Nat) {targets : List Expr}
    (htargets : ∀ target ∈ targets, target.NamesWord) :
    (assignment self fuel targets).Gives Stmt.WellRead := by
  induction fuel generalizing targets with
  | zero => exact gives_failure
  | succ fuel ih =>
    refine (gives_assignedValue h).bind fun value hvalue => gives_bind fun more => ?_
    split
    · split
      · refine ih (forall_mem_append.mpr ⟨htargets, ?_⟩)
        exact forall_mem_singleton.mpr hvalue
      · exact gives_failure
    · exact gives_pure (Stmt.wellRead_of_simple rfl htargets)

theorem gives_annotatedTarget {target : Expr} (htarget : target.NamesWord) (plain : Bool) :
    (annotatedTarget self target plain).Gives Stmt.WellRead :=
  gives_when fun _ => gives_bind fun _ => gives_bind fun _ => gives_either fun _ =>
    gives_pure (Stmt.wellRead_of_simple rfl htarget)

theorem gives_expressionStatement (h : self.GiveWords) :
    (expressionStatement self).Gives Stmt.WellRead := by
  refine gives_if (gives_bind fun _ => gives_pure (Stmt.wellRead_of_simple rfl trivial)) ?_
  refine gives_bind fun parenthesis => (gives_starExpressions h).bind fun value hvalue =>
    gives_if (gives_annotatedTarget hvalue _) (gives_if ?_ (gives_bind fun op => ?_))
  · split
    · exact gives_bind fun size =>
        gives_assignment h (size + 1) (forall_mem_singleton.mpr hvalue)
    · exact gives_failure
  · split
    · exact gives_when fun _ => gives_bind fun _ =>
        gives_pure (Stmt.wellRead_of_simple rfl hvalue)
    · exact gives_pure (Stmt.wellRead_of_simple rfl trivial)

theorem isDotted_intercalate {parts : List String} (h : ∀ part ∈ parts, IsWord part) :
    IsDotted (".".intercalate parts) := by
  induction parts with
  | nil => simp [IsDotted]
  | cons part rest ih =>
    obtain ⟨hpart, hrest⟩ := forall_mem_cons.mp h
    intro c hc
    cases rest with
    | nil => exact .inl (hpart c (by simpa using hc))
    | cons next rest =>
      rw [String.intercalate_cons_cons, String.toList_append, String.toList_append] at hc
      rcases mem_append.mp hc with hc | hc
      · rcases mem_append.mp hc with hc | hc
        · exact .inl (hpart c hc)
        · exact .inr (by simpa using hc)
      · exact ih hrest c hc

theorem gives_dottedName : dottedName.Gives IsDotted := by
  have hrest : Reader.Gives (do expectOp "."; name) IsWord := gives_bind fun _ => gives_name
  refine gives_name.bind fun first hfirst => hrest.many.bind fun rest hrest => gives_pure ?_
  exact isDotted_intercalate (forall_mem_cons.mpr ⟨hfirst, hrest⟩)

theorem gives_aliasOf {reader : Reader String} {P : String → Prop} (h : reader.Gives P) :
    (aliasOf reader).Gives fun a => P a.name ∧ ∀ bound ∈ a.boundAs, IsWord bound := by
  have hbound : (some <$> name : Reader (Option String)).Gives fun b => ∀ bound ∈ b, IsWord bound :=
    .map (gives_name.mono fun word hword => by simpa using hword)
  refine h.bind fun id hid => gives_bind fun renamed => ?_
  split
  · exact hbound.bind fun _ hwords => gives_pure ⟨hid, hwords⟩
  · exact (gives_pure rfl : Reader.Gives (pure none) (· = none)).bind fun _ hnone =>
      gives_pure ⟨hid, by simp [hnone]⟩

theorem gives_importedNames :
    importedNames.Gives fun names =>
      ∀ a ∈ names, (a.name = "*" ∨ IsWord a.name) ∧ ∀ bound ∈ a.boundAs, IsWord bound := by
  have halias := gives_aliasOf (gives_name.mono fun id hid => (.inr hid : id = "*" ∨ IsWord id))
  refine gives_if (gives_pure (forall_mem_singleton.mpr ⟨.inl rfl, by simp⟩)) (gives_if ?_ ?_)
  · exact halias.commaSeparated.bind fun names hnames => gives_bind fun _ => gives_bind fun _ =>
      gives_pure hnames
  · exact halias.commaSeparated.bind fun names hnames => gives_if gives_failure (gives_pure hnames)

theorem gives_simpleStatement (h : self.GiveWords) :
    (simpleStatement self).Gives Stmt.WellRead := by
  have hsimple {s : Stmt} (hblocks : s.blocks = []) (hwords : s.DeclaresWords) :
      (pure s : Reader Stmt).Gives Stmt.WellRead :=
    gives_pure (Stmt.wellRead_of_simple hblocks hwords)
  refine gives_bind fun next => ?_
  split
  case h_12 => exact gives_expressionStatement h
  · exact gives_bind fun _ => hsimple rfl trivial
  · exact gives_bind fun _ => hsimple rfl trivial
  · exact gives_bind fun _ => hsimple rfl trivial
  · exact gives_bind fun _ => gives_bind fun _ => hsimple rfl trivial
  · refine gives_bind fun _ => gives_bind fun error => ?_
    split
    · exact hsimple rfl trivial
    · exact gives_bind fun _ => gives_either fun _ => hsimple rfl trivial
  · exact gives_bind fun _ => gives_bind fun _ => hsimple rfl trivial
  · exact gives_bind fun _ => gives_bind fun _ => hsimple rfl trivial
  · refine gives_bind fun _ => gives_bind fun _ => gives_bind fun _ => ?_
    split
    · exact hsimple rfl trivial
    · exact gives_failure
  · exact gives_bind fun _ => gives_bind fun _ => gives_bind fun _ => gives_either fun _ =>
      hsimple rfl trivial
  · exact gives_bind fun _ => (gives_aliasOf gives_dottedName).commaSeparated.bind fun _ hnames =>
      hsimple rfl hnames
  · exact gives_bind fun _ => gives_bind fun _ => gives_dottedName.attempt.bind fun _ hsource =>
      gives_when fun _ => gives_bind fun _ => gives_importedNames.bind fun _ hnames =>
        hsimple rfl ⟨hsource, hnames⟩

theorem gives_simpleStatements (h : self.GiveWords) :
    (simpleStatements self).Gives BlockRead := by
  have hstatement := gives_simpleStatement h
  have hrest : Reader.Gives (do expectOp ";"; simpleStatement self) Stmt.WellRead :=
    gives_bind fun _ => hstatement
  refine hstatement.bind fun first hfirst => hrest.many.bind fun rest hrest =>
    gives_bind fun _ => gives_bind fun _ => gives_pure ⟨by simp, ?_⟩
  exact forall_mem_cons.mpr ⟨hfirst, hrest⟩

/-! ## Compound statements -/

theorem gives_suite (h : block.Gives BlockRead) : (suite block).Gives BlockRead :=
  gives_bind fun _ => h

theorem gives_keywordSuite (h : block.Gives BlockRead) (word : String) :
    (keywordSuite word block).Gives fun body => ∀ s ∈ body, s.WellRead :=
  gives_if ((gives_suite h).mono fun _ hbody => hbody.inner) (gives_pure nofun)

/-- Statements with one block that they need and one that they may do without. -/
theorem Stmt.wellRead_of_two {body orElse : List Stmt} (hbody : BlockRead body)
    (horElse : ∀ t ∈ orElse, t.WellRead) (hrequired : s.required = [body])
    (hblocks : s.blocks = [body, orElse]) (hwords : s.DeclaresWords) : s.WellRead := by
  refine wellRead_of_blocks ?_ ?_ hwords
  · rw [hrequired]
    exact forall_mem_singleton.mpr hbody
  · rw [hblocks]
    exact forall_mem_cons.mpr ⟨hbody.inner, forall_mem_singleton.mpr horElse⟩

/-- Statements with one block. -/
theorem Stmt.wellRead_of_one (hbody : BlockRead body) (hrequired : s.required = [body])
    (hblocks : s.blocks = [body]) (hwords : s.DeclaresWords) :
    s.WellRead := by
  refine wellRead_of_blocks ?_ ?_ hwords
  · rw [hrequired]
    exact forall_mem_singleton.mpr hbody
  · rw [hblocks]
    exact forall_mem_singleton.mpr hbody.inner

section

variable (h : block.Gives BlockRead)

include h

/-- The alternatives of a conditional statement are nested in each other. -/
theorem gives_branchStatement :
    (branchStatement self block).Gives Stmt.WellRead := by
  have hother : Reader.Gives (do
      expectKeyword "elif"
      let test ← namedExpression self
      return (test, ← suite block)) fun other => BlockRead other.2 :=
    gives_bind fun _ => gives_bind fun _ => (gives_suite h).bind fun _ hbody => gives_pure hbody
  refine gives_bind fun test => (gives_suite h).bind fun body hbody =>
    hother.many.bind fun others hothers => (gives_keywordSuite h "else").bind fun last hlast =>
    gives_pure (Stmt.wellRead_of_two hbody ?_ rfl rfl trivial)
  induction others with
  | nil => exact hlast
  | cons other rest ih =>
    obtain ⟨hfirst, hrest⟩ := forall_mem_cons.mp hothers
    exact forall_mem_singleton.mpr
      (Stmt.wellRead_of_two hfirst (ih hrest) rfl rfl trivial)

theorem gives_whileStatement :
    (whileStatement self block).Gives Stmt.WellRead :=
  gives_bind fun _ => (gives_suite h).bind fun _ hbody =>
    (gives_keywordSuite h "else").bind fun _ horElse =>
    gives_pure (Stmt.wellRead_of_two hbody horElse rfl rfl trivial)

theorem gives_forStatement (isAsync : Bool) :
    (forStatement self block isAsync).Gives Stmt.WellRead :=
  gives_bind fun _ => gives_bind fun _ => gives_bind fun _ =>
    (gives_suite h).bind fun _ hbody => (gives_keywordSuite h "else").bind fun _ horElse =>
    gives_pure (Stmt.wellRead_of_two hbody horElse rfl rfl trivial)

theorem gives_withStatement (isAsync : Bool) :
    (withStatement self block isAsync).Gives Stmt.WellRead :=
  gives_bind fun _ => (gives_suite h).bind fun _ hbody =>
    gives_pure (Stmt.wellRead_of_one hbody rfl rfl trivial)

theorem gives_handler (grouped : Bool) :
    (handler self block grouped).Gives fun clause => BlockRead clause.body := by
  refine gives_bind fun _ => gives_when fun _ => gives_either fun type => ?_
  dsimp only
  split
  · exact (gives_suite h).bind fun _ hbody => gives_pure hbody
  · exact gives_bind fun _ => gives_either fun _ =>
      (gives_suite h).bind fun _ hbody => gives_pure hbody

theorem gives_tryStatement :
    (tryStatement self block).Gives Stmt.WellRead := by
  refine (gives_suite h).bind fun body hbody => gives_bind fun next => ?_
  refine (gives_handler h _).many.bind fun handlers hhandlers => ?_
  split
  · refine gives_bind fun _ => (gives_suite h).bind fun final hfinal => gives_pure ?_
    refine Stmt.wellRead_of_blocks ?_ ?_ trivial
    · exact forall_mem_cons.mpr ⟨hbody, forall_mem_singleton.mpr hfinal⟩
    · refine forall_mem_cons.mpr ⟨hbody.inner, forall_mem_cons.mpr ⟨nofun, ?_⟩⟩
      exact forall_mem_singleton.mpr hfinal.inner
  · rename_i hsome
    refine (gives_keywordSuite h "else").bind fun orElse horElse =>
      (gives_keywordSuite h "finally").bind fun final hfinal => gives_pure ?_
    have hclauses : ∀ block ∈ handlers.map Handler.body, BlockRead block :=
      forall_mem_map.mpr hhandlers
    refine Stmt.wellRead_of_blocks ?_ ?_ trivial
    · cases handlers with
      | nil => exact absurd rfl hsome
      | cons first rest => exact forall_mem_cons.mpr ⟨hbody, hclauses⟩
    · refine forall_mem_append.mpr ⟨forall_mem_cons.mpr ⟨hbody.inner, ?_⟩, ?_⟩
      · exact fun block hblock => (hclauses block hblock).inner
      · exact forall_mem_cons.mpr ⟨horElse, forall_mem_singleton.mpr hfinal⟩

theorem gives_functionStatement (isAsync : Bool)
    (decorators : List Expr) :
    (functionStatement self block isAsync decorators).Gives Stmt.WellRead :=
  gives_name.bind fun _ hname => gives_bind fun _ => gives_bind fun _ => gives_bind fun _ =>
    gives_either fun _ => (gives_suite h).bind fun _ hbody =>
    gives_pure (Stmt.wellRead_of_one hbody rfl rfl hname)

theorem gives_classStatement (decorators : List Expr) :
    (classStatement self block decorators).Gives Stmt.WellRead :=
  gives_name.bind fun _ hname => gives_bind fun _ => gives_either fun _ =>
    (gives_suite h).bind fun _ hbody => gives_pure (Stmt.wellRead_of_one hbody rfl rfl hname)

theorem gives_caseClause :
    (caseClause self depth block).Gives fun clause => BlockRead clause.body :=
  gives_bind fun _ => gives_bind fun _ => gives_bind fun _ => gives_either fun _ =>
    (gives_suite h).bind fun _ hbody => gives_pure hbody

theorem gives_chooseStatement (subject : Expr) :
    (chooseStatement self depth block subject).Gives Stmt.WellRead := by
  refine (gives_caseClause h).many1.bind fun cases hcases => gives_bind fun _ => gives_pure ?_
  have hclauses : ∀ block ∈ cases.map Case.body, BlockRead block :=
    forall_mem_map.mpr hcases
  exact Stmt.wellRead_of_blocks hclauses (fun block hblock => (hclauses block hblock).inner) trivial

theorem gives_definition (decorators : List Expr) :
    (definition self block decorators).Gives Stmt.WellRead := by
  refine gives_bind fun token => ?_
  split
  · exact gives_functionStatement h false decorators
  · exact gives_classStatement h decorators
  · exact gives_bind fun _ => gives_functionStatement h true decorators
  · exact gives_failure

end

theorem gives_statement (hself : self.GiveWords) (h : block.Gives BlockRead) :
    (statement self depth block).Gives BlockRead := by
  have hsingle {reader : Reader Stmt} (hreader : reader.Gives Stmt.WellRead) :
      Reader.Gives (do return [← reader]) BlockRead :=
    hreader.bind fun _ hs => gives_pure ⟨by simp, forall_mem_singleton.mpr hs⟩
  refine gives_bind fun first => gives_bind fun second => ?_
  split
  · exact gives_bind fun _ => hsingle (gives_branchStatement h)
  · exact gives_bind fun _ => hsingle (gives_whileStatement h)
  · exact gives_bind fun _ => hsingle (gives_forStatement h false)
  · exact gives_bind fun _ => hsingle (gives_withStatement h false)
  · exact gives_bind fun _ => hsingle (gives_tryStatement h)
  · exact hsingle (gives_definition h [])
  · exact hsingle (gives_definition h [])
  · exact gives_bind fun decorators => hsingle (gives_definition h decorators)
  · exact gives_bind fun _ => gives_bind fun _ => hsingle (gives_forStatement h true)
  · exact gives_bind fun _ => gives_bind fun _ => hsingle (gives_withStatement h true)
  · exact hsingle (gives_definition h [])
  · refine gives_bind fun subject => ?_
    split
    · exact hsingle (gives_chooseStatement h _)
    · exact gives_simpleStatements hself
  · exact gives_simpleStatements hself

theorem gives_statements (hself : self.GiveWords) (h : block.Gives BlockRead) (fuel : Nat) :
    (statements self depth block fuel).Gives fun body => ∀ s ∈ body, s.WellRead := by
  induction fuel with
  | zero => exact gives_failure
  | succ fuel ih =>
    refine gives_bind fun next => ?_
    split
    · exact gives_pure nofun
    · exact gives_pure nofun
    · exact (gives_statement hself h).bind fun first hfirst => ih.bind fun rest hrest =>
        gives_pure (forall_mem_append.mpr ⟨hfirst.inner, hrest⟩)

theorem gives_blockOf (hself : self.GiveWords) (fuel : Nat) :
    (blockOf self depth fuel).Gives BlockRead := by
  induction fuel with
  | zero => exact gives_failure
  | succ fuel ih =>
    refine gives_bind fun newline => ?_
    split
    · refine gives_bind fun _ => gives_bind fun size =>
        (gives_statements hself ih (size + 1)).bind fun body hbody => ?_
      dsimp only
      split
      · exact (gives_failure : (failure : Reader Unit).Gives fun _ => False).bind nofun
      · rename_i hsome
        exact gives_bind fun _ => gives_pure ⟨by simpa using hsome, hbody⟩
    · exact gives_simpleStatements hself

/-- What is read from a text is complete, and its names are words. -/
theorem wellRead_of_parse {text : String} (h : parse text = .ok body) :
    ∀ s ∈ body, s.WellRead := by
  unfold parse at h
  dsimp only at h
  split at h
  · exact nomatch h
  · split at h
    · rename_i read hread
      obtain rfl := Except.ok.inj h
      obtain ⟨tokens, htokens, hread⟩ := Option.bind_eq_some_iff.mp hread
      obtain ⟨⟨found, rest⟩, hfound, hread⟩ := Option.bind_eq_some_iff.mp hread
      have hself := giveWords_rules (text.toList.length + 10)
      have hgives := gives_statements hself (gives_blockOf hself _) _ _ _ _
        (namesWord_of_tokenize htokens) hfound
      dsimp only at hread
      split at hread
      · obtain rfl := Option.some.inj hread
        exact hgives
      · exact nomatch hread
    · exact nomatch h

end RobotKit.Script
