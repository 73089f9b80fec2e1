import RobotKit.Script.Reading.Expression

/-!
# Names are words

A name that is read from a text consists of word characters. The tokens of a text have this
property (`namesWord_of_tokenize`), and a reader can only take tokens away, so what it gives can be
told rule by rule: `Reader.Gives` is the calculus for that. An expression that is a bare name is
one of the names among the tokens (`giveWords_rules`).
-/

namespace RobotKit.Script

open List

/-! ## Tokens -/

/-- Does the text consist of word characters? -/
def IsWord (text : String) : Prop := ∀ c ∈ text.toList, isWordChar c = true

/-- If the token is a name, is it a word? -/
def Token.NamesWord : Token → Prop
  | .name text => IsWord text
  | _ => True

theorem namesWord_of_wordToken {word : List Char} {token : Token}
    (hword : ∀ c ∈ word, isWordChar c = true) (h : wordToken word = some token) :
    token.NamesWord := by
  rw [wordToken] at h
  split at h
  · obtain rfl := Option.some.inj h
    split
    · trivial
    · simpa [Token.NamesWord, IsWord] using hword
  · dsimp only at h
    split at h
    · rename_i hnormal
      obtain rfl := Option.some.inj h
      rw [Bool.and_eq_true, all_eq_true] at hnormal
      simpa [Token.NamesWord, IsWord] using hnormal.2
    · exact absurd h (by simp)

theorem namesWord_of_scanItem {brackets after : List String} {cs rest : List Char} {token : Token}
    (h : scanItem brackets cs = some (token, after, rest)) : token.NamesWord := by
  unfold scanItem at h
  cases cs with
  | nil => exact nomatch h
  | cons c tail =>
    have hword : ∀ d ∈ (c :: tail).takeWhile isWordChar, isWordChar d = true :=
      all_eq_true.mp all_takeWhile
    have hmap {α : Type} {o : Option α} {f : α → Token × List String × List Char}
        (h : o.map f = some (token, after, rest)) (hf : ∀ a, o = some a → (f a).1.NamesWord) :
        token.NamesWord := by
      obtain ⟨a, ha, heq⟩ := Option.map_eq_some_iff.mp h
      simpa [heq] using hf a ha
    dsimp only at h
    split at h
    · exact hmap h fun _ _ => trivial
    · split at h
      · split at h
        · split at h
          · exact hmap h fun _ _ => trivial
          · exact hmap h fun _ htoken => namesWord_of_wordToken hword htoken
        · exact hmap h fun _ htoken => namesWord_of_wordToken hword htoken
      · split at h
        · exact hmap h fun _ _ => trivial
        · obtain ⟨_, -, hrest⟩ := Option.bind_eq_some_iff.mp h
          obtain ⟨_, -, heq⟩ := Option.bind_eq_some_iff.mp hrest
          obtain ⟨rfl, -⟩ := Prod.mk.inj (Option.some.inj heq)
          trivial

theorem namesWord_of_leaveIndents (column : Nat) (levels : List (Nat × Nat)) :
    ∀ token ∈ (leaveIndents column levels).1, token.NamesWord := by
  induction levels with
  | nil => simp [leaveIndents]
  | cons level outer ih =>
    rw [leaveIndents]
    split
    · intro token htoken
      rcases mem_cons.mp htoken with rfl | htoken
      · trivial
      · exact ih token htoken
    · simp

theorem namesWord_of_adjustIndent {levels after : List (Nat × Nat)} {column narrow : Nat}
    {layout : List Token} (h : adjustIndent levels column narrow = some (layout, after)) :
    ∀ token ∈ layout, token.NamesWord := by
  have hleave := namesWord_of_leaveIndents column levels
  unfold adjustIndent at h
  dsimp only at h
  split at h
  · split at h
    · obtain ⟨rfl, -⟩ := Prod.mk.inj (Option.some.inj h)
      exact nofun
    · exact nomatch h
  · split at h
    · split at h
      · exact nomatch h
      · obtain ⟨rfl, -⟩ := Prod.mk.inj (Option.some.inj h)
        intro token htoken
        rw [mem_singleton.mp htoken]
        trivial
    · split at h
      · obtain ⟨rfl, -⟩ := Prod.mk.inj (Option.some.inj h)
        exact hleave
      · exact nomatch h

theorem namesWord_of_scanTokens {fuel : Nat} {fresh : Bool} {levels : List (Nat × Nat)}
    {brackets : List String} {cs : List Char} {tokens : List Token}
    (h : scanTokens fuel fresh levels brackets cs = some tokens) :
    ∀ token ∈ tokens, token.NamesWord := by
  induction fuel generalizing fresh levels brackets cs tokens with
  | zero => exact nomatch h
  | succ fuel ih =>
    cases fresh with
    | true =>
      unfold scanTokens at h
      obtain ⟨⟨column, narrow, rest⟩, -, h⟩ := Option.bind_eq_some_iff.mp h
      dsimp only at h
      split at h
      · exact ih h
      · exact ih h
      · split at h
        · obtain ⟨⟨layout, levels'⟩, hadjust, h⟩ := Option.bind_eq_some_iff.mp h
          obtain ⟨later, hlater, rfl⟩ := Option.map_eq_some_iff.mp h
          exact forall_mem_append.mpr ⟨namesWord_of_adjustIndent hadjust, ih hlater⟩
        · exact ih h
    | false =>
      unfold scanTokens at h
      split at h
      · split at h
        · obtain rfl := Option.some.inj h
          exact nofun
        · exact nomatch h
      · exact ih h
      · split at h
        · obtain ⟨later, hlater, rfl⟩ := Option.map_eq_some_iff.mp h
          exact forall_mem_cons.mpr ⟨trivial, ih hlater⟩
        · exact ih h
      · split at h
        · exact nomatch h
        · exact ih h
      · obtain ⟨⟨token, brackets', after⟩, hitem, h⟩ := Option.bind_eq_some_iff.mp h
        obtain ⟨later, hlater, rfl⟩ := Option.map_eq_some_iff.mp h
        exact forall_mem_cons.mpr ⟨namesWord_of_scanItem hitem, ih hlater⟩

theorem namesWord_of_tokenize {text : List Char} {tokens : List Token}
    (h : tokenize text = some tokens) : ∀ token ∈ tokens, token.NamesWord :=
  namesWord_of_scanTokens h

/-! ## What a reader gives -/

namespace Reader

variable {α β : Type} {reader : Reader α} {next : α → Reader β} {P P' : α → Prop} {Q : β → Prop}

/-- Do all results of the reader have the property, whenever the names among the tokens are
words? -/
def Gives (reader : Reader α) (P : α → Prop) : Prop :=
  ∀ (tokens rest : List Token) (a : α), (∀ token ∈ tokens, token.NamesWord) →
    reader.run tokens = some (a, rest) → P a

theorem gives_any (reader : Reader α) : reader.Gives fun _ => True := fun _ _ _ _ _ => trivial

theorem Gives.mono (h : reader.Gives P) (hP : ∀ a, P a → P' a) : reader.Gives P' :=
  fun _ _ _ htokens hrun => hP _ (h _ _ _ htokens hrun)

theorem gives_failure : (failure : Reader α).Gives P := fun _ _ _ _ hrun => nomatch hrun

theorem gives_look {f : List Token → α}
    (h : ∀ tokens, (∀ token ∈ tokens, token.NamesWord) → P (f tokens)) : (look f).Gives P := by
  intro tokens rest a htokens hrun
  obtain ⟨rfl, -⟩ := Prod.mk.inj (Option.some.inj hrun)
  exact h tokens htokens

theorem gives_pure {a : α} (h : P a) : (pure a : Reader α).Gives P := gives_look fun _ _ => h

/-- The second reader sees only tokens that the first one has left. -/
theorem Gives.bind (h : reader.Gives P) (hnext : ∀ a, P a → (next a).Gives Q) :
    (reader >>= next).Gives Q := by
  intro tokens rest b htokens hrun
  obtain ⟨⟨a, middle⟩, hreader, hrest⟩ := Option.bind_eq_some_iff.mp hrun
  have hmiddle : ∀ token ∈ middle, token.NamesWord :=
    fun token htoken => htokens token ((reader.suffix hreader).subset htoken)
  exact hnext a (h _ _ _ htokens hreader) _ _ _ hmiddle hrest

/-- A first result of which nothing needs to be known. -/
theorem gives_bind (hnext : ∀ a, (next a).Gives Q) : (reader >>= next).Gives Q :=
  (gives_any reader).bind fun a _ => hnext a

/-- Two ways to go on after a first result. -/
theorem gives_if {c : α → Prop} {_ : DecidablePred c} {first second : Reader β}
    (hfirst : first.Gives Q) (hsecond : second.Gives Q) :
    (reader >>= fun a => if c a then first else second).Gives Q := by
  refine gives_bind fun a => ?_
  split
  · exact hfirst
  · exact hsecond

theorem Gives.map {f : α → β} (h : reader.Gives fun a => Q (f a)) : (f <$> reader).Gives Q :=
  h.bind fun _ ha => gives_pure ha

section

variable (h : reader.Gives P)

include h

theorem Gives.orElse {other : Reader α} (hother : other.Gives P) :
    (reader <|> other).Gives P := by
  intro tokens rest a htokens hrun
  cases hreader : reader.run tokens with
  | some result =>
    have hresult : (reader <|> other).run tokens = some result := by
      show (reader.run tokens <|> other.run tokens) = some result
      rw [hreader]
      rfl
    exact h _ _ _ htokens (hreader.trans (hresult.symm.trans hrun))
  | none =>
    have hsecond : (reader <|> other).run tokens = other.run tokens := by
      show (reader.run tokens <|> other.run tokens) = other.run tokens
      rw [hreader]
      rfl
    exact hother _ _ _ htokens (hsecond.symm.trans hrun)

theorem Gives.attempt : (attempt reader).Gives fun o => ∀ a ∈ o, P a := by
  refine .orElse (.map (h.mono fun a ha b hb => ?_)) (gives_pure nofun)
  obtain rfl := Option.some.inj hb
  exact ha

theorem Gives.manyUpTo (limit : Nat) :
    (manyUpTo reader limit).Gives fun items => ∀ a ∈ items, P a := by
  induction limit with
  | zero => exact gives_pure nofun
  | succ limit ih =>
    refine h.attempt.bind fun found hfound => ?_
    cases found with
    | none => exact gives_pure nofun
    | some a =>
      exact ih.bind fun items hitems => gives_pure (forall_mem_cons.mpr ⟨hfound a rfl, hitems⟩)

theorem Gives.many : (many reader).Gives fun items => ∀ a ∈ items, P a := by
  refine h.attempt.bind fun found hfound => ?_
  cases found with
  | none => exact gives_pure nofun
  | some a =>
    refine gives_bind fun limit => (h.manyUpTo limit).bind fun items hitems => gives_pure ?_
    exact forall_mem_cons.mpr ⟨hfound a rfl, hitems⟩

theorem Gives.many1 :
    (many1 reader).Gives fun items => ∀ a ∈ items, P a :=
  h.bind fun _ ha => h.many.bind fun _ hitems => gives_pure (forall_mem_cons.mpr ⟨ha, hitems⟩)

theorem Gives.commaSeparated :
    (commaSeparated reader).Gives fun items => ∀ a ∈ items, P a := by
  have hrest : Reader.Gives (do expectOp ","; reader) P := gives_bind fun _ => h
  exact h.bind fun _ ha => hrest.many.bind fun _ hitems =>
    gives_pure (forall_mem_cons.mpr ⟨ha, hitems⟩)

end

theorem gives_take : take.Gives Token.NamesWord := by
  intro tokens rest token htokens hrun
  cases tokens with
  | nil => exact nomatch hrun
  | cons first others =>
    obtain ⟨rfl, -⟩ := Prod.mk.inj (Option.some.inj hrun)
    exact htokens _ mem_cons_self

theorem gives_name : name.Gives IsWord := by
  refine gives_take.bind fun token htoken => ?_
  cases token with
  | name text => exact gives_pure htoken
  | _ => exact gives_failure

end Reader

/-! ## Expressions -/

open Reader

/-- If the expression is a bare name, is it a word? -/
def Expr.NamesWord : Expr → Prop
  | .name id => IsWord id
  | _ => True

/-- Are the bare names that the reader gives words? -/
abbrev Reader.GivesWord (reader : Reader Expr) : Prop := reader.Gives Expr.NamesWord

/-- Do all rules give expressions that, as bare names, are words? -/
def Rules.GiveWords (self : Rules) : Prop := ∀ level, (self level).GivesWord

variable {self : Rules}

theorem gives_tupleOf {item : Reader Expr} (h : item.GivesWord) :
    (tupleOf item).GivesWord := by
  refine h.commaSeparated.bind fun items hitems => gives_bind fun comma => ?_
  split
  · rename_i single
    refine gives_pure ?_
    split
    · trivial
    · exact hitems single mem_cons_self
  · exact gives_pure trivial

theorem gives_namedExpression (h : self.GiveWords) :
    (namedExpression self).GivesWord := by
  refine gives_if ?_ ?_
  · exact gives_bind fun target => gives_bind fun _ => gives_bind fun _ => gives_pure trivial
  · exact (h .expression).bind fun value hvalue => gives_if gives_failure (gives_pure hvalue)

theorem gives_starred {next : Reader Expr} (h : next.GivesWord) :
    GivesWord (do if ← acceptOp "*" then return .starred (← self .bitOr) else next) :=
  gives_if (gives_bind fun _ => gives_pure trivial) h

theorem gives_starNamed (h : self.GiveWords) : (starNamed self).GivesWord :=
  gives_starred (gives_namedExpression h)

theorem gives_starExpressions (h : self.GiveWords) :
    (starExpressions self).GivesWord :=
  gives_tupleOf (gives_starred (h .expression))

theorem gives_yieldExpression (self : Rules) : (yieldExpression self).GivesWord :=
  gives_bind fun _ => gives_if (gives_bind fun _ => gives_pure trivial)
    (gives_bind fun _ => gives_pure trivial)

theorem gives_assignedValue (h : self.GiveWords) : (assignedValue self).GivesWord :=
  gives_if (gives_yieldExpression self) (gives_starExpressions h)

/-- A collection is no bare name if what it builds is none. -/
theorem gives_collection {kind : Collection} {build : List Expr → Expr} {close : String}
    {first : Expr} (hbuild : ∀ items, (build items).NamesWord) :
    (collection self kind build close first).GivesWord := by
  refine gives_if ?_ (gives_if ?_ ?_)
  · split
    · exact gives_bind fun _ => gives_bind fun _ => gives_bind fun _ => gives_pure trivial
    · exact gives_bind fun _ => gives_bind fun _ => gives_pure trivial
  · exact gives_bind fun _ => gives_pure (hbuild _)
  · exact gives_bind fun _ => gives_pure (hbuild _)

theorem gives_parenthesized (h : self.GiveWords) :
    (parenthesized self).GivesWord := by
  refine gives_if (gives_pure trivial) (gives_if ?_ ?_)
  · exact (gives_yieldExpression self).bind fun value hvalue =>
      gives_bind fun _ => gives_pure hvalue
  · refine (gives_starNamed h).bind fun first hfirst =>
      gives_if ?_ (gives_collection fun _ => trivial)
    split
    · exact gives_failure
    · exact gives_pure hfirst

theorem gives_bracketed (self : Rules) : (bracketed self).GivesWord :=
  gives_if (gives_pure trivial) (gives_bind fun _ => gives_collection fun _ => trivial)

theorem gives_dictRest (self : Rules) (first : Entry Expr) :
    (dictRest self first).GivesWord :=
  gives_if (gives_bind fun _ => gives_pure trivial) (gives_bind fun _ => gives_pure trivial)

theorem gives_braced (self : Rules) : (braced self).GivesWord := by
  have hset {first : Expr} : (collection self .set .set "\x7d" first).GivesWord :=
    gives_collection fun _ => trivial
  refine gives_if (gives_pure trivial) (gives_if ?_ ?_)
  · exact gives_bind fun first => gives_dictRest self first
  · refine gives_bind fun walrus => gives_bind fun first => ?_
    split
    · exact hset
    · refine gives_if (gives_bind fun value => gives_if ?_ (gives_dictRest self _)) hset
      exact gives_bind fun _ => gives_bind fun _ => gives_pure trivial

theorem namesWord_of_joinStrings {tokens : List (List Char × List Char)} {value : Expr}
    (h : joinStrings self tokens = some value) : value.NamesWord := by
  unfold joinStrings at h
  split at h
  · obtain ⟨_, -, h⟩ := Option.bind_eq_some_iff.mp h
    obtain rfl := Option.some.inj h
    trivial
  · split at h
    · exact nomatch h
    · obtain ⟨_, -, h⟩ := Option.bind_eq_some_iff.mp h
      obtain ⟨_, -, h⟩ := Option.bind_eq_some_iff.mp h
      split at h
      · obtain rfl := Option.some.inj h
        trivial
      · obtain rfl := Option.some.inj h
        trivial

theorem gives_strings (self : Rules) : (strings self).GivesWord := by
  refine gives_bind fun tokens => ?_
  split
  · rename_i value hvalue
    exact gives_pure (namesWord_of_joinStrings hvalue)
  · exact gives_failure

/-- Here the names come in. -/
theorem gives_atom (h : self.GiveWords) : (atom self).GivesWord := by
  refine gives_bind fun next => ?_
  split
  · exact gives_strings self
  · refine gives_take.bind fun token htoken => ?_
    split
    · exact gives_pure htoken
    · exact gives_pure trivial
    · exact gives_pure trivial
    · exact gives_pure trivial
    · exact gives_pure trivial
    · exact gives_pure trivial
    · exact gives_parenthesized h
    · exact gives_bracketed self
    · exact gives_braced self
    · exact gives_failure

theorem gives_trailers (self : Rules) (fuel : Nat) {value : Expr} (hvalue : value.NamesWord) :
    (trailers self fuel value).GivesWord := by
  induction fuel generalizing value with
  | zero => exact gives_pure hvalue
  | succ fuel ih =>
    refine gives_if ?_ (gives_if ?_ (gives_if ?_ (gives_pure hvalue)))
    · exact gives_bind fun _ => ih trivial
    · exact gives_bind fun _ => ih trivial
    · exact gives_bind fun _ => ih trivial

theorem gives_primary (h : self.GiveWords) : (primary self).GivesWord := by
  refine (gives_atom h).bind fun value hvalue => gives_bind fun next => ?_
  split
  · exact gives_bind fun fuel => gives_trailers self fuel hvalue
  · exact gives_bind fun fuel => gives_trailers self fuel hvalue
  · exact gives_bind fun fuel => gives_trailers self fuel hvalue
  · exact gives_pure hvalue

theorem gives_factor (h : self.GiveWords) : (factor self).GivesWord := by
  have hpower : (power self).GivesWord := by
    refine gives_bind fun awaited => (gives_primary h).bind fun base hbase =>
      gives_if (gives_bind fun _ => gives_pure trivial) (gives_pure ?_)
    split
    · trivial
    · exact hbase
  have hsigned {op : UnaryOp} : GivesWord (do return .unary op (← self .factor)) :=
    gives_bind fun _ => gives_pure trivial
  exact gives_if hsigned (gives_if hsigned (gives_if hsigned hpower))

theorem gives_leftGrouped {table : List (String × BinaryOp)} {operand : Reader Expr}
    (h : operand.GivesWord) : (leftGrouped table operand).GivesWord := by
  refine h.bind fun first hfirst => gives_bind fun rest => gives_pure ?_
  induction rest generalizing first with
  | nil => exact hfirst
  | cons next rest ih => exact ih _ trivial

theorem gives_bitOr (h : self.GiveWords) : (bitOr self).GivesWord := by
  have hshift : (shift self).GivesWord :=
    gives_leftGrouped (gives_leftGrouped (gives_leftGrouped (gives_factor h)))
  exact gives_leftGrouped (gives_leftGrouped (gives_leftGrouped hshift))

theorem gives_inversion (h : self.GiveWords) : (inversion self).GivesWord := by
  refine gives_if (gives_bind fun _ => gives_pure trivial) ?_
  refine (gives_bitOr h).bind fun left hleft => gives_bind fun rest => gives_pure ?_
  split
  · exact hleft
  · trivial

theorem gives_joined {op : BoolOp} {word : String} {operand : Reader Expr}
    (h : operand.GivesWord) : (joined op word operand).GivesWord := by
  refine h.bind fun first hfirst => gives_bind fun rest => gives_pure ?_
  split
  · exact hfirst
  · trivial

theorem gives_disjunction (h : self.GiveWords) : (disjunction self).GivesWord :=
  gives_joined (gives_joined (gives_inversion h))

theorem gives_expression (h : self.GiveWords) : (expression self).GivesWord := by
  refine gives_if ?_ ((gives_disjunction h).bind fun body hbody => gives_if ?_ (gives_pure hbody))
  · exact gives_bind fun _ => gives_bind fun _ => gives_pure trivial
  · exact gives_bind fun _ => gives_bind fun _ => gives_bind fun _ => gives_pure trivial

/-- The rules of every depth give words. -/
theorem giveWords_rules (depth : Nat) : (rules depth).GiveWords := by
  induction depth with
  | zero => exact fun level => gives_failure
  | succ depth ih =>
    intro level
    cases level with
    | expression => exact gives_expression ih
    | disjunction => exact gives_disjunction ih
    | inversion => exact gives_inversion ih
    | bitOr => exact gives_bitOr ih
    | factor => exact gives_factor ih
    | primary => exact gives_primary ih

end RobotKit.Script
