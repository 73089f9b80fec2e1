import RobotKit.Proofs.Bindings

/-!
# Frames

The body of a function, of a class, of a `lambda` or of a comprehension has a frame of its own,
which holds the names that are bound inside. Everything else is evaluated in the frame in which it
stands: the defaults, hints and decorators of a function, the bases of a class, and the source of
the first clause of a comprehension.

`Stmt.places` lists the places of a statement with the frames around them, the innermost one first,
and `isModuleLevel` follows the frames outwards to tell whether a name there is a name of the
module.
-/

namespace RobotKit.Script

open List

/-! ## Parts are smaller -/

theorem sizeOf_lt_of_mem_exprsOfParts {parts : List FormatPart} {e : Expr}
    (h : e ∈ exprsOfParts parts) : sizeOf e < sizeOf parts := by
  fun_induction exprsOfParts parts <;> grind

theorem sizeOf_lt_of_mem_exprsOfParams {params : Params Expr} {e : Expr}
    (h : e ∈ exprsOfParams params) : sizeOf e < sizeOf params := by
  obtain ⟨p, hp, he⟩ := mem_flatMap.mp h
  have hparam : sizeOf e < sizeOf p := by grind [cases Param, exprsOfParam]
  have hparams : sizeOf p < sizeOf params := by grind [cases Params, → sizeOf_lt_of_mem]
  exact Nat.lt_trans hparam hparams

theorem sizeOf_lt_of_mem_exprsOfGenerator {generators : List (Generator Expr)}
    {g : Generator Expr} {e : Expr} (hg : g ∈ generators) (he : e ∈ exprsOfGenerator g) :
    sizeOf e < sizeOf generators := by
  grind [cases Generator, exprsOfGenerator, → sizeOf_lt_of_mem]

/-- What is evaluated where an expression stands is smaller than the expression. -/
theorem Expr.sizeOf_lt_of_mem_parts {e part : Expr} (h : part ∈ e.parts) :
    sizeOf part < sizeOf e := by
  cases e <;> grind [parts, cases Entry, cases Keyword, → sizeOf_lt_of_mem,
    → sizeOf_lt_of_mem_exprsOfParts, → sizeOf_lt_of_mem_exprsOfParams,
    → sizeOf_lt_of_mem_exprsOfGenerator]

/-- The patterns inside a pattern. -/
def Pattern.parts : Pattern → List Pattern
  | .sequence items | .alternatives items => items
  | .mapping entries _ => entries.map Prod.snd
  | .object _ positions fields => positions ++ fields.map Prod.snd
  | .binding pattern _ => [pattern]
  | _ => []

theorem Pattern.sizeOf_lt_of_mem_parts {p part : Pattern} (h : part ∈ p.parts) :
    sizeOf part < sizeOf p := by
  cases p <;> grind [parts, cases Prod, → sizeOf_lt_of_mem]

/-- The statements inside a statement are smaller. -/
theorem Stmt.sizeOf_lt_of_mem_blocks {s t : Stmt} {block : List Stmt} (hblock : block ∈ s.blocks)
    (ht : t ∈ block) : sizeOf t < sizeOf s := by
  cases s <;> grind [blocks, cases Handler, cases Case, Handler.body, Case.body,
    → sizeOf_lt_of_mem]

/-! ## What is bound -/

mutual

/-- The names that assigning to an expression sets. -/
def Expr.setNames : Expr → List String
  | .name id => [id]
  | .tuple items | .list items => eachSetNames items
  | .starred value => value.setNames
  | _ => []

/-- The names that assigning to several expressions sets. -/
def eachSetNames : List Expr → List String
  | [] => []
  | e :: rest => e.setNames ++ eachSetNames rest

end

/-- The names that `:=` sets when an expression is evaluated. Those of a `lambda` are set when it is
called. -/
def Expr.assigned (e : Expr) : List String :=
  (match e with
    | .named target _ => target.setNames
    | _ => []) ++ e.parts.attach.flatMap fun part => part.val.assigned
termination_by sizeOf e
decreasing_by exact Expr.sizeOf_lt_of_mem_parts part.property

/-- All parameters of a list. -/
def Params.all (params : Params Expr) : List (Param Expr) :=
  params.positional ++ params.regular ++ params.rest.toList ++ params.keywordOnly ++
    params.keywordRest.toList

/-- A pattern and all patterns inside it. -/
def Pattern.nested (p : Pattern) : List Pattern :=
  p :: p.parts.attach.flatMap fun part => part.val.nested
termination_by sizeOf p
decreasing_by exact Pattern.sizeOf_lt_of_mem_parts part.property

/-- The name that a pattern binds itself. -/
def Pattern.boundName? : Pattern → Option String
  | .mapping _ rest => rest
  | .star name => name
  | .capture name => some name
  | .binding _ name => some name
  | _ => none

/-- The expressions that a pattern holds itself. -/
def Pattern.ownExprs : Pattern → List Expr
  | .value e => [e]
  | .mapping entries _ => entries.map Prod.fst
  | .object type _ _ => [type]
  | _ => []

/-- The name that an import binds: the first part of a dotted name stands for its package. -/
def Alias.boundName (a : Alias) : String :=
  a.boundAs.getD (String.ofList (a.name.toList.takeWhile (· ≠ '.')))

/-- What an expression of a statement is there for. Hints are told apart by what they belong to:
ordinary parameters, other parameters, and variables or results. -/
inductive Role where
  | value | hint | paramHint | ordinaryHint | definition
deriving DecidableEq

/-- The hint and the default of a parameter with their roles. -/
def exprsInParam (role : Role) (p : Param Expr) : List (Role × Expr) :=
  p.type.toList.map (role, ·) ++ p.default.toList.map (.value, ·)

/-- The hints and defaults of a parameter list with their roles. -/
def exprsInParams (params : Params Expr) : List (Role × Expr) :=
  params.positional.flatMap (exprsInParam .paramHint) ++
    params.regular.flatMap (exprsInParam .ordinaryHint) ++
    params.rest.toList.flatMap (exprsInParam .paramHint) ++
    params.keywordOnly.flatMap (exprsInParam .paramHint) ++
    params.keywordRest.toList.flatMap (exprsInParam .paramHint)

/-- The expressions of an `except` clause outside its block. -/
def Handler.exprs : Handler → List Expr
  | .mk type _ _ => type.toList

/-- The expressions of a `case` clause outside its block. -/
def Case.exprs : Case → List Expr
  | .mk pattern guard _ => pattern.nested.flatMap Pattern.ownExprs ++ guard.toList

/-- The expressions that a statement holds itself, outside its blocks and without parameters. -/
def Stmt.values : Stmt → List Expr
  | .expression value => [value]
  | .assign targets value => targets ++ [value]
  | .augmented target _ value => [target, value]
  | .annotated target _ value _ => target :: value.toList
  | .returns value => value.toList
  | .delete targets => targets
  | .raises error => error.toList.flatMap fun (e, cause) => e :: cause.toList
  | .asserts test message => test :: message.toList
  | .function _ _ _ _ decorators _ => decorators
  | .classDef _ bases keywords _ decorators =>
    bases ++ keywords.map Keyword.value ++ decorators
  | .branch test _ _ => [test]
  | .whileLoop test _ _ => [test]
  | .forLoop _ target source _ _ => [target, source]
  | .withBlock _ items _ => items.flatMap fun item => item.context :: item.target.toList
  | .tryBlock _ _ handlers _ _ => handlers.flatMap Handler.exprs
  | .choose subject cases => subject :: cases.flatMap Case.exprs
  | .pass | .breaks | .continues | .globals _ | .nonlocals _ | .imports _
  | .importFrom _ _ _ => []

/-- The expressions in the parameters and hints of a statement. -/
def Stmt.signature : Stmt → List (Role × Expr)
  | .annotated _ type _ _ => [(.hint, type)]
  | .function _ _ params _ _ result => exprsInParams params ++ result.toList.map (.hint, ·)
  | _ => []

/-- All expressions of a statement outside its blocks. -/
def Stmt.exprs (s : Stmt) : List (Role × Expr) := s.signature ++ s.values.map (.value, ·)

/-- The names that a function, a class or a `global` statement gives. -/
def Stmt.given : Stmt → List String
  | .function _ name _ _ _ _ => [name]
  | .classDef name _ _ _ _ => [name]
  | .globals names => names
  | _ => []

/-- The names that a statement binds, apart from those set by `:=`. A hint without a value binds a
name that stands without parentheses. -/
def Stmt.boundNames : Stmt → List String
  | .assign targets _ => eachSetNames targets
  | .augmented target _ _ => target.setNames
  | .annotated target _ value plain => if plain || value.isSome then target.setNames else []
  | .delete targets => eachSetNames targets
  | .imports names => names.map Alias.boundName
  | .importFrom _ names _ => names.map Alias.boundName
  | .function _ name _ _ _ _ => [name]
  | .classDef name _ _ _ _ => [name]
  | .forLoop _ target _ _ _ => target.setNames
  | .withBlock _ items _ => eachSetNames (items.filterMap WithItem.target)
  | .tryBlock _ _ handlers _ _ => handlers.filterMap fun | .mk _ name _ => name
  | .choose _ cases =>
    cases.flatMap fun | .mk pattern _ _ => pattern.nested.filterMap Pattern.boundName?
  | _ => []

/-! ## Frames -/

/-- A frame: the names that are bound in it, and those that are handed to the module or to a frame
outside. The frame of a class has the name of the class. -/
structure Frame where
  className : Option String
  bound : List String
  globals : List String
  nonlocals : List String

/-- Does the body of the statement have a frame of its own? -/
def Stmt.opensFrame : Stmt → Bool
  | .function _ _ _ _ _ _ | .classDef _ _ _ _ _ => true
  | _ => false

/-- A statement and all statements inside it that share its frame. -/
def Stmt.inFrame (s : Stmt) : List Stmt :=
  s :: if s.opensFrame then [] else
    s.blocks.attach.flatMap fun block => block.val.attach.flatMap fun t => t.val.inFrame
termination_by sizeOf s
decreasing_by exact Stmt.sizeOf_lt_of_mem_blocks block.property t.property

/-- The frame of a body with some parameters. -/
def bodyFrame (className : Option String) (params : List String) (body : List Stmt) : Frame :=
  let inside := body.flatMap Stmt.inFrame
  { className
    bound := params ++ inside.flatMap fun s => s.boundNames ++ s.exprs.flatMap (·.2.assigned)
    globals := inside.flatMap fun | .globals names => names | _ => []
    nonlocals := inside.flatMap fun | .nonlocals names => names | _ => [] }

/-- The frame of the body of a statement. -/
def Stmt.frame? : Stmt → Option Frame
  | .function _ _ params body _ _ => some (bodyFrame none (params.all.map Param.name) body)
  | .classDef name _ _ body _ => some (bodyFrame (some name) [] body)
  | _ => none

/-- The frame inside an expression. -/
def Expr.frame? : Expr → Option Frame
  | .lambda params body => some ⟨none, params.all.map Param.name ++ body.assigned, [], []⟩
  | .comprehension _ _ generators | .dictComprehension _ _ generators =>
    some ⟨none, generators.flatMap (·.target.setNames), [], []⟩
  | _ => none

/-- What is evaluated in the frame of a comprehension: all of its clauses but the first source. -/
def innerOfGenerators : List (Generator Expr) → List Expr
  | [] => []
  | g :: rest => g.target :: (g.conditions ++ rest.flatMap exprsOfGenerator)

/-- The parts of an expression that are evaluated in its own frame. -/
def Expr.inner : Expr → List Expr
  | .lambda _ body => [body]
  | .comprehension _ element generators => element :: innerOfGenerators generators
  | .dictComprehension key value generators => key :: value :: innerOfGenerators generators
  | _ => []

/-- The parts of an expression that are evaluated in the frame in which it stands. -/
def Expr.outer : Expr → List Expr
  | .comprehension _ _ generators | .dictComprehension _ _ generators =>
    generators.head?.toList.map Generator.source
  | e => e.parts

theorem Expr.sizeOf_lt_of_mem_outer {e part : Expr} (h : part ∈ e.outer) :
    sizeOf part < sizeOf e := by
  refine e.sizeOf_lt_of_mem_parts ?_
  cases e with
  | comprehension _ _ generators | dictComprehension _ _ generators =>
    cases generators <;> grind [outer, parts, exprsOfGenerator]
  | _ => exact h

theorem innerOfGenerators_subset (generators : List (Generator Expr)) :
    innerOfGenerators generators ⊆ generators.flatMap exprsOfGenerator := by
  cases generators <;> grind [innerOfGenerators, exprsOfGenerator]

theorem Expr.sizeOf_lt_of_mem_inner {e part : Expr} (h : part ∈ e.inner) :
    sizeOf part < sizeOf e := by
  have hparts (h : part ∈ e.parts) := e.sizeOf_lt_of_mem_parts h
  cases e with
  | comprehension _ _ generators | dictComprehension _ _ generators =>
    have hsubset := innerOfGenerators_subset generators
    simp only [inner, parts, mem_cons] at h hparts
    grind
  | _ => grind [inner]

/-! ## Places -/

/-- A place of a statement: an expression at any depth or a name that is given, what it is there
for, and the frames around it, the innermost one first. -/
structure Place where
  role : Role
  node : Expr
  frames : List Frame

/-- The places of an expression. -/
def Expr.places (role : Role) (frames : List Frame) (e : Expr) : List Place :=
  ⟨role, e, frames⟩ ::
    ((e.outer.attach.flatMap fun part => part.val.places role frames) ++
      e.inner.attach.flatMap fun part => part.val.places role (e.frame?.toList ++ frames))
termination_by sizeOf e
decreasing_by
  · exact Expr.sizeOf_lt_of_mem_outer part.property
  · exact Expr.sizeOf_lt_of_mem_inner part.property

/-- The places of a statement outside its blocks. -/
def Stmt.ownPlaces (s : Stmt) (frames : List Frame) : List Place :=
  s.given.map (⟨.definition, .name ·, frames⟩) ++
    s.exprs.flatMap fun (role, e) => e.places role frames

/-- The places of a statement, at any depth. -/
def Stmt.places (s : Stmt) (frames : List Frame) : List Place :=
  s.ownPlaces frames ++ s.blocks.attach.flatMap fun block =>
    block.val.attach.flatMap fun t => t.val.places (s.frame?.toList ++ frames)
termination_by sizeOf s
decreasing_by exact Stmt.sizeOf_lt_of_mem_blocks block.property t.property

/-- Does the name, looked up in these frames from the first one on, lead to the module? -/
def leadsOut (name : String) : List Frame → Bool
  | [] => true
  | frame :: rest =>
    frame.globals.contains name ||
      (!frame.bound.contains name || frame.nonlocals.contains name) && leadsOut name rest

/-- Is the name private to the class in which it stands? Such a name is spelled with the name of the
class. -/
def isPrivate (frames : List Frame) (name : String) : Bool :=
  "__".toList.isPrefixOf name.toList && !"__".toList.isSuffixOf name.toList &&
    match frames.findSome? Frame.className with
    | some className => className.toList.any (· ≠ '_')
    | none => false

/-- Is the name, where it stands in these frames, a name of the module? From inside, the frame of a
class shows nothing but `__class__`. -/
def isModuleLevel (frames : List Frame) (name : String) : Bool :=
  let outside := frames.drop 1
  leadsOut name (frames.take 1 ++ outside.filter (·.className.isNone)) &&
    !(name = "__class__" && outside.any (·.className.isSome)) && !isPrivate frames name

end RobotKit.Script
