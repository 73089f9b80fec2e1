import RobotKit.Proofs.Frames

/-!
# Places of renamed statements

Renaming keeps the places of a statement in their order: the place with some number in the renamed
statement holds what was at that number before, renamed as its role asks
(`content_places_renameStmt`). Only imports vanish, and they have no places.
-/

namespace RobotKit.Script

open List

/-! ## Expressions -/

/-- What stands at a place, without the frames around it. -/
def Place.content (place : Place) : Role × Expr := (place.role, place.node)

section

variable (role : Role) (frames : List Frame)

include role frames

theorem Expr.places_eq (e : Expr) :
    e.places role frames = ⟨role, e, frames⟩ :: (e.outer.flatMap (Expr.places role frames) ++
      e.inner.flatMap (Expr.places role (e.frame?.toList ++ frames))) := by
  rw [Expr.places, flatMap_subtype, flatMap_subtype, unattach_attach,
    unattach_attach] <;> exact fun _ _ => rfl

@[simp] theorem Expr.places_name (id : String) :
    (Expr.name id).places role frames = [⟨role, .name id, frames⟩] := by
  rw [places_eq]
  rfl

@[simp] theorem Expr.places_attribute (value : Expr)
    (field : String) :
    (Expr.attribute value field).places role frames
      = ⟨role, .attribute value field, frames⟩ :: value.places role frames := by
  rw [places_eq]
  simp [outer, inner, parts]

@[simp] theorem Expr.places_call (function : Expr)
    (arguments : List Expr) :
    (Expr.call function arguments []).places role frames
      = ⟨role, .call function arguments [], frames⟩ ::
        (function.places role frames ++ arguments.flatMap (Expr.places role frames)) := by
  rw [places_eq]
  simp [outer, inner, parts]

end

theorem Stmt.places_eq (s : Stmt) (frames : List Frame) :
    s.places frames = s.ownPlaces frames ++ s.blocks.flatMap fun block =>
      block.flatMap fun t => t.places (s.frame?.toList ++ frames) := by
  rw [Stmt.places, flatMap_subtype, unattach_attach]
  intro block _
  rw [flatMap_subtype, unattach_attach]
  exact fun _ _ => rfl

theorem Pattern.nested_eq (p : Pattern) : p.nested = p :: p.parts.flatMap Pattern.nested := by
  rw [Pattern.nested, flatMap_subtype, unattach_attach]
  exact fun _ _ => rfl

section

variable (f : String → String)

theorem inner_mapGeneratorNames (generators : List (Generator Expr)) :
    innerOfGenerators (mapGeneratorNames f generators)
      = (innerOfGenerators generators).map (Expr.mapNames f) := by
  cases generators with
  | nil => rfl
  | cons g rest =>
    simp only [mapGeneratorNames, innerOfGenerators, exprs_mapGeneratorNames, mapEachNames_eq_map,
      map_cons, map_append]

theorem sources_mapGeneratorNames (generators : List (Generator Expr)) :
    (mapGeneratorNames f generators).head?.toList.map Generator.source
      = (generators.head?.toList.map Generator.source).map (Expr.mapNames f) := by
  cases generators <;> rfl

theorem Expr.outer_mapNames (e : Expr) : (e.mapNames f).outer = e.outer.map (Expr.mapNames f) := by
  have hparts := e.parts_mapNames f
  cases e with
  | comprehension kind element generators => exact sources_mapGeneratorNames f generators
  | dictComprehension key value generators => exact sources_mapGeneratorNames f generators
  | _ => exact hparts

theorem Expr.inner_mapNames (e : Expr) : (e.mapNames f).inner = e.inner.map (Expr.mapNames f) := by
  cases e with
  | comprehension kind element generators =>
    simp only [Expr.mapNames, Expr.inner, inner_mapGeneratorNames, map_cons]
  | dictComprehension key value generators =>
    simp only [Expr.mapNames, Expr.inner, inner_mapGeneratorNames, map_cons]
  | _ => rfl

/-- The places of several renamed expressions, if it is known for each of them. -/
theorem content_flatMap_map {α : Type} {g : α → α} {content : Role × Expr → Role × Expr}
    {places places' : α → List Place} {items : List α}
    (h : ∀ a ∈ items, (places' (g a)).map Place.content
      = ((places a).map Place.content).map content) :
    ((items.map g).flatMap places').map Place.content
      = ((items.flatMap places).map Place.content).map content := by
  simp only [flatMap_map, map_flatMap]
  exact flatMap_congr h

/-- Renaming an expression renames what stands at each of its places. -/
theorem Expr.content_places_mapNames (e : Expr) (role : Role) (frames frames' : List Frame) :
    ((e.mapNames f).places role frames').map Place.content
      = ((e.places role frames).map Place.content).map fun c => (c.1, c.2.mapNames f) := by
  have houter : ∀ part ∈ e.outer, ((part.mapNames f).places role frames').map Place.content
      = ((part.places role frames).map Place.content).map fun c => (c.1, c.2.mapNames f) :=
    fun part hpart => part.content_places_mapNames role frames frames'
  have hinner : ∀ part ∈ e.inner,
      ((part.mapNames f).places role ((e.mapNames f).frame?.toList ++ frames')).map Place.content
        = ((part.places role (e.frame?.toList ++ frames)).map Place.content).map
          fun c => (c.1, c.2.mapNames f) :=
    fun part hpart => part.content_places_mapNames role _ _
  rw [Expr.places_eq, Expr.places_eq, Expr.outer_mapNames, Expr.inner_mapNames]
  simp only [map_cons, map_append]
  rw [content_flatMap_map houter, content_flatMap_map hinner]
  rfl
termination_by sizeOf e
decreasing_by
  · exact Expr.sizeOf_lt_of_mem_outer hpart
  · exact Expr.sizeOf_lt_of_mem_inner hpart

end

theorem Expr.role_of_mem_places (e : Expr) {role : Role} {frames : List Frame} {place : Place}
    (h : place ∈ e.places role frames) : place.role = role := by
  rw [Expr.places_eq, mem_cons, mem_append, mem_flatMap, mem_flatMap] at h
  rcases h with rfl | ⟨part, hpart, h⟩ | ⟨part, hpart, h⟩
  · rfl
  · exact part.role_of_mem_places h
  · exact part.role_of_mem_places h
termination_by sizeOf e
decreasing_by
  · exact Expr.sizeOf_lt_of_mem_outer hpart
  · exact Expr.sizeOf_lt_of_mem_inner hpart

end RobotKit.Script

namespace RobotKit.Link

open List RobotKit.Script

/-! ## Statements -/

/-- Renames an expression in its role. -/
def Scope.renameAs (scope : Scope) : Role → Expr → Expr
  | .value, e => e.mapNames scope.reference
  | .hint, e => renameHint scope e
  | .paramHint, e => e.mapNames scope.hint
  | .ordinaryHint, e => (e.mapNames scope.hint).mapNames scope.hint
  | .definition, e => e.mapNames scope.definition

/-- Renames what stands at a place. -/
def Scope.renameContent (scope : Scope) (c : Role × Expr) : Role × Expr :=
  (c.1, scope.renameAs c.1 c.2)

theorem Scope.content_places_renameAs (scope : Scope) (role : Role) (e : Expr)
    (frames frames' : List Frame) :
    ((scope.renameAs role e).places role frames').map Place.content
      = ((e.places role frames).map Place.content).map scope.renameContent := by
  have hrole : ((scope.renameAs role e).places role frames').map Place.content
      = ((e.places role frames).map Place.content).map
        fun c => (c.1, scope.renameAs role c.2) := by
    cases role with
    | hint =>
      exact ((e.mapNames scope.hint).content_places_mapNames scope.reference _ frames frames').trans
        (by rw [e.content_places_mapNames scope.hint _ frames, map_map]; rfl)
    | ordinaryHint =>
      exact ((e.mapNames scope.hint).content_places_mapNames scope.hint _ frames frames').trans
        (by rw [e.content_places_mapNames scope.hint _ frames, map_map]; rfl)
    | value => exact e.content_places_mapNames scope.reference _ frames frames'
    | paramHint => exact e.content_places_mapNames scope.hint _ frames frames'
    | definition => exact e.content_places_mapNames scope.definition _ frames frames'
  rw [hrole]
  refine map_congr_left fun c hc => ?_
  obtain ⟨place, hplace, rfl⟩ := mem_map.mp hc
  rw [Scope.renameContent, Place.content, e.role_of_mem_places hplace]

theorem parts_mapPatternNames (f : String → String) (p : Pattern) :
    (mapPatternNames f p).parts = p.parts.map (mapPatternNames f) := by
  have hitems : ∀ items, mapPatternListNames f items = items.map (mapPatternNames f) := by
    intro items
    induction items with
    | nil => rfl
    | cons p rest ih => rw [mapPatternListNames, ih, map_cons]
  have hentries : ∀ entries : List (Expr × Pattern), (mapPatternEntryNames f entries).map Prod.snd
      = (entries.map Prod.snd).map (mapPatternNames f) := by
    intro entries
    induction entries with
    | nil => rfl
    | cons entry rest ih => simp only [mapPatternEntryNames, map_cons, ih]
  have hfields : ∀ fields : List (String × Pattern), (mapPatternFieldNames f fields).map Prod.snd
      = (fields.map Prod.snd).map (mapPatternNames f) := by
    intro fields
    induction fields with
    | nil => rfl
    | cons field rest ih => simp only [mapPatternFieldNames, map_cons, ih]
  cases p with
  | sequence items => exact hitems items
  | alternatives items => exact hitems items
  | mapping entries rest => exact hentries entries
  | object type positions fields =>
    simp only [mapPatternNames, Pattern.parts, hitems, hfields, map_append]
  | _ => rfl

theorem nested_mapPatternNames (f : String → String) (p : Pattern) :
    (mapPatternNames f p).nested = p.nested.map (mapPatternNames f) := by
  have hparts : ∀ part ∈ p.parts,
      (mapPatternNames f part).nested = part.nested.map (mapPatternNames f) :=
    fun part hpart => nested_mapPatternNames f part
  rw [Pattern.nested_eq, p.nested_eq, parts_mapPatternNames, map_cons, flatMap_map,
    map_flatMap]
  exact congrArg _ (flatMap_congr hparts)
termination_by sizeOf p
decreasing_by exact Pattern.sizeOf_lt_of_mem_parts hpart

theorem ownExprs_mapPatternNames (f : String → String) (p : Pattern) :
    (mapPatternNames f p).ownExprs = p.ownExprs.map (Expr.mapNames f) := by
  cases p with
  | mapping entries rest =>
    show (mapPatternEntryNames f entries).map Prod.fst = (entries.map Prod.fst).map _
    induction entries with
    | nil => rfl
    | cons entry others ih => simp only [mapPatternEntryNames, map_cons, ih]
  | _ => rfl

section

variable (scope : Scope)

include scope

theorem exprs_renameHandlers (handlers : List Handler) :
    (renameHandlers scope handlers).flatMap Handler.exprs
      = (handlers.flatMap Handler.exprs).map (Expr.mapNames scope.reference) := by
  induction handlers with
  | nil => rfl
  | cons handler rest ih =>
    cases handler with
    | mk type name body =>
      simp only [renameHandlers, flatMap_cons, ih, Handler.exprs, toList_mapOptionNames,
        map_append]

theorem exprs_renameCases (cases : List Case) :
    (renameCases scope cases).flatMap Case.exprs
      = (cases.flatMap Case.exprs).map (Expr.mapNames scope.reference) := by
  have hpattern : ∀ p : Pattern,
      (mapPatternNames scope.reference p).nested.flatMap Pattern.ownExprs
        = (p.nested.flatMap Pattern.ownExprs).map (Expr.mapNames scope.reference) := by
    intro p
    simp only [nested_mapPatternNames, flatMap_map, map_flatMap,
      ownExprs_mapPatternNames]
  induction cases with
  | nil => rfl
  | cons case rest ih =>
    cases case with
    | mk pattern guard body =>
      simp only [renameCases, flatMap_cons, ih, Case.exprs, hpattern, toList_mapOptionNames,
        map_append]

/-- Renaming a statement renames the values that it holds. -/
theorem values_renameStmt (s : Stmt) :
    (renameStmt scope s).values = s.values.map (Expr.mapNames scope.reference) := by
  cases s with
  | assign targets value =>
    simp only [renameStmt, Stmt.values, mapEachNames_eq_map, map_append, map_cons,
      map_nil]
  | annotated target type value plain =>
    simp only [renameStmt, Stmt.values, toList_mapOptionNames, map_cons]
  | returns value => exact toList_mapOptionNames scope.reference value
  | delete targets => exact mapEachNames_eq_map scope.reference targets
  | raises error =>
    cases error with
    | none => rfl
    | some error => simp [renameStmt, Stmt.values, toList_mapOptionNames]
  | asserts test message =>
    simp only [renameStmt, Stmt.values, toList_mapOptionNames, map_cons]
  | function isAsync name params body decorators result =>
    exact mapEachNames_eq_map scope.reference decorators
  | classDef name bases keywords body decorators =>
    simp only [renameStmt, Stmt.values, mapEachNames_eq_map, exprs_mapKeywordNames,
      map_append]
  | withBlock isAsync items body =>
    simp only [renameStmt, Stmt.values, flatMap_map, map_flatMap, toList_mapOptionNames,
      map_cons]
  | tryBlock grouped body handlers orElse final => exact exprs_renameHandlers scope handlers
  | choose subject cases =>
    simp only [renameStmt, Stmt.values, exprs_renameCases, map_cons]
  | _ => rfl

/-- Renaming a parameter list renames its hints and defaults in their roles. -/
theorem exprsInParams_renameParams (params : Params Expr) :
    exprsInParams (renameParams scope params)
      = (exprsInParams params).map scope.renameContent := by
  simp [exprsInParams, renameParams, exprsInParam, Scope.renameContent, Scope.renameAs,
    flatMap_map, map_flatMap, Option.toList_map, Function.comp_def]

theorem signature_renameStmt (s : Stmt) :
    (renameStmt scope s).signature = s.signature.map scope.renameContent := by
  cases s with
  | function isAsync name params body decorators result =>
    simp [renameStmt, Stmt.signature, exprsInParams_renameParams, Scope.renameContent,
      Scope.renameAs, Option.toList_map, Function.comp_def]
  | _ => rfl

theorem exprs_renameStmt (s : Stmt) :
    (renameStmt scope s).exprs = s.exprs.map scope.renameContent := by
  rw [Stmt.exprs, signature_renameStmt, values_renameStmt, Stmt.exprs, map_append,
    map_map, map_map]
  rfl

theorem given_renameStmt (s : Stmt) :
    (renameStmt scope s).given = s.given.map scope.definition := by
  cases s <;> rfl

theorem content_ownPlaces_renameStmt (s : Stmt) (frames frames' : List Frame) :
    ((renameStmt scope s).ownPlaces frames').map Place.content
      = ((s.ownPlaces frames).map Place.content).map scope.renameContent := by
  have hexprs : ∀ c ∈ s.exprs, ((scope.renameAs c.1 c.2).places c.1 frames').map Place.content
      = ((c.2.places c.1 frames).map Place.content).map scope.renameContent :=
    fun c _ => scope.content_places_renameAs c.1 c.2 frames frames'
  rw [Stmt.ownPlaces, Stmt.ownPlaces, given_renameStmt, exprs_renameStmt, map_append,
    map_append, map_append, content_flatMap_map hexprs]
  simp only [map_map]
  rfl

end

theorem places_of_isImport {s : Stmt} (h : isImport s = true) (frames : List Frame) :
    s.places frames = [] := by
  cases s with
  | imports names => rw [Stmt.places_eq]; rfl
  | importFrom source names level => rw [Stmt.places_eq]; rfl
  | _ => cases h

/-- The imports of a block have no places. -/
theorem flatMap_places_filter (block : List Stmt) (frames : List Frame) :
    ((block.filter (! isImport ·)).flatMap fun t => t.places frames)
      = block.flatMap fun t => t.places frames := by
  induction block with
  | nil => rfl
  | cons s rest ih =>
    cases hs : isImport s with
    | true =>
      rw [filter_cons_of_neg (by simp [hs]), ih, flatMap_cons, places_of_isImport hs,
        nil_append]
    | false => rw [filter_cons_of_pos (by simp [hs]), flatMap_cons, flatMap_cons, ih]

/-- Renaming a statement renames what stands at each of its places. -/
theorem content_places_renameStmt (scope : Scope) (s : Stmt) (frames frames' : List Frame) :
    ((renameStmt scope s).places frames').map Place.content
      = ((s.places frames).map Place.content).map scope.renameContent := by
  have hblock : ∀ block ∈ s.blocks,
      ((renameBlock scope block).flatMap fun t =>
          t.places ((renameStmt scope s).frame?.toList ++ frames')).map Place.content
        = ((block.flatMap fun t => t.places (s.frame?.toList ++ frames)).map Place.content).map
          scope.renameContent := by
    intro block hblock
    rw [renameBlock_eq_map, ← flatMap_places_filter block]
    refine content_flatMap_map fun t ht => ?_
    have ht := (mem_filter.mp ht).1
    exact content_places_renameStmt scope t _ _
  rw [Stmt.places_eq, s.places_eq, blocks_renameStmt]
  simp only [map_append]
  rw [content_ownPlaces_renameStmt scope s frames, content_flatMap_map hblock]
termination_by sizeOf s
decreasing_by exact Stmt.sizeOf_lt_of_mem_blocks hblock ht

end RobotKit.Link
