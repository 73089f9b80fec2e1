import RobotKit.Config.Document
import RobotKit.Proofs.Table

/-!
# Documents that grow at their end

A written document names its tables one after another, each after the plain entries of the table it
belongs to. While it is read, the table at work is therefore always the last one on every level:
`plug` puts a table back into what is around it. `Document.At` says where a document is at work and
that its marks do not stand in the way of what is still to come there.
-/

namespace RobotKit.Config

open List

variable {f : Frame} {mark : Key} {key : Key}

/-! ## Places in a document -/

/-- One level around the table at work: the entries before it, its name, and the tables before it in
its list if it is one of a list. -/
structure Frame where
  before : Entries
  name : String
  items : Option (List Value)

namespace Frame

/-- The value in which a table stands. -/
def value (f : Frame) (inner : Entries) : Value :=
  match f.items with
  | none => .table inner
  | some items => .list (items ++ [.table inner])

/-- The entries around a table. -/
def close (f : Frame) (inner : Entries) : Entries := f.before ++ [(f.name, f.value inner)]

/-- The name is not one of the entries before. -/
def IsNew (f : Frame) : Prop := f.name ∉ f.before.map (·.1)

end Frame

/-- The document around a table. -/
def plug : List Frame → Entries → Entries
  | [], inner => inner
  | f :: frames, inner => f.close (plug frames inner)

/-- The key of the table at work. -/
def keyAt (frames : List Frame) : Key := frames.map (·.name)

theorem plug_append (frames : List Frame) (f : Frame) (inner : Entries) :
    plug (frames ++ [f]) inner = plug frames (f.close inner) := by
  induction frames with
  | nil => rfl
  | cons g frames ih => rw [cons_append, plug, ih, plug]

theorem keyAt_append (frames : List Frame) (f : Frame) :
    keyAt (frames ++ [f]) = keyAt frames ++ [f.name] := by
  rw [keyAt, map_append]
  rfl

variable {change : Entries → Except Problem Entries}

theorem changeAt_close (h : f.IsNew) (key : Key) (inner : Entries) :
    changeAt true change (f.name :: key) (f.close inner)
      = (changeAt true change key inner).map f.close := by
  have hlookup : (f.close inner).lookup f.name = some (f.value inner) := Table.lookup_last h _
  have hinsert : ∀ value, Table.insertEntry f.name value (f.close inner) = f.before ++ [(f.name, value)] :=
    fun value => Table.insertEntry_last h _ value
  rw [changeAt, hlookup, Frame.value]
  cases hitems : f.items with
  | none =>
    dsimp only
    simp only [hinsert]
    cases changeAt true change key inner with
    | error e => rfl
    | ok new => simp [bind, Except.bind, Except.map, Frame.close, Frame.value, hitems, pure, Except.pure]
  | some items =>
    dsimp only
    rw [getLast?_concat]
    simp only [dropLast_concat, hinsert]
    cases changeAt true change key inner with
    | error e => rfl
    | ok new => simp [bind, Except.bind, Except.map, Frame.close, Frame.value, hitems, pure, Except.pure]

/-- A change below the table at work changes only that table. -/
theorem changeAt_plug {frames : List Frame} (h : ∀ f ∈ frames, f.IsNew) (key : Key) (inner : Entries) :
    changeAt true change (keyAt frames ++ key) (plug frames inner) =
      (changeAt true change key inner).map (plug frames) := by
  induction frames with
  | nil => cases h : changeAt true change key inner <;> simp [keyAt, plug, h, Except.map]
  | cons f frames ih =>
    rw [keyAt, map_cons, cons_append, plug, changeAt_close (h f mem_cons_self), ← keyAt,
      ih fun g hg => h g (mem_cons_of_mem _ hg)]
    cases changeAt true change key inner <;> rfl

/-- A change below a name that is missing makes the table of that name. -/
theorem changeAt_missing {name : String} {entries : Entries} (h : name ∉ entries.map (·.1)) (key : Key) :
    changeAt true change (name :: key) entries =
      (changeAt true change key []).map (Frame.close ⟨entries, name, none⟩) := by
  rw [changeAt, Table.lookup_eq_none_iff_notMem.mpr h]
  simp only [Table.insertEntry_of_notMem h]
  cases changeAt true change key [] <;> rfl

/-! ## Keys that start alike -/

theorem not_concat_below (key : Key) (name : String) : ¬ key ++ [name] <+: key := by
  intro h
  have := h.length_le
  rw [length_append, length_singleton] at this
  omega

theorem prefix_concat_iff {mark key : Key} {name : String} :
    mark <+: key ++ [name] ↔ mark <+: key ∨ mark = key ++ [name] := by
  rw [List.prefix_concat_iff, or_comm]

theorem concat_prefix_concat {name other : String} (h : key ++ [name] <+: mark)
    (h' : key ++ [other] <+: mark) : name = other := by
  obtain ⟨tail, rfl⟩ := h
  rw [append_assoc, prefix_append_right_inj] at h'
  exact (cons_prefix_cons.mp h').1.symm

/-! ## Documents at work -/

namespace Document

/-- The document is at work at the table `inner` inside `frames`: changes there change it, and the
marks below it belong to entries that it has. The table may still be missing if it is empty. -/
structure At (d : Document) (frames : List Frame) (inner : Entries) : Prop where
  isNew : ∀ f ∈ frames, f.IsNew
  changes : ∀ (change : Entries → Except Problem Entries) (key : Key),
    changeAt true change (keyAt frames ++ key) d.entries =
      (changeAt true change key inner).map (plug frames)
  pending : d.pending = []
  opened : ∀ mark ∈ d.opened, keyAt frames <+: mark →
    mark = keyAt frames ∨ ∃ name ∈ inner.map (·.1), keyAt frames ++ [name] <+: mark
  frozen : ∀ mark ∈ d.frozen, ¬ mark <+: keyAt frames ∧
    (keyAt frames <+: mark → ∃ name ∈ inner.map (·.1), keyAt frames ++ [name] <+: mark)

/-- All new marks are at the key or below it. -/
structure Grew (d : Document) (key : Key) (d' : Document) : Prop where
  opened : ∀ mark ∈ d'.opened, mark ∈ d.opened ∨ key <+: mark
  frozen : ∀ mark ∈ d'.frozen, mark ∈ d.frozen ∨ key <+: mark

/-- A header starts a new table in the last frame. -/
structure Starts (d : Document) (frames : List Frame) (f : Frame) (d' : Document) : Prop where
  header : d'.header = keyAt frames ++ [f.name]
  isAt : d'.At (frames ++ [f]) []
  entries : d'.entries = plug (frames ++ [f]) []
  grew : d.Grew (keyAt frames ++ [f.name]) d'

variable {d d' : Document} {frames : List Frame} {inner : Entries} {name : String}

theorem Grew.refl (d : Document) (key : Key) : d.Grew key d := ⟨fun _ => .inl, fun _ => .inl⟩

theorem Grew.trans {d'' : Document} (h : d.Grew key d') (h' : d'.Grew key d'') :
    d.Grew key d'' where
  opened := fun mark hmark => (h'.opened mark hmark).elim (h.opened mark) .inr
  frozen := fun mark hmark => (h'.frozen mark hmark).elim (h.frozen mark) .inr

theorem Grew.above {key start : Key} (h : d.Grew key d') (hstart : start <+: key) :
    d.Grew start d' where
  opened := fun mark hmark => (h.opened mark hmark).imp_right hstart.trans
  frozen := fun mark hmark => (h.frozen mark hmark).imp_right hstart.trans

/-- Nothing is opened below a new name. -/
theorem At.not_opened (h : d.At frames inner) (hname : name ∉ inner.map (·.1))
    (hmark : mark ∈ d.opened) : ¬ keyAt frames ++ [name] <+: mark := by
  intro hbelow
  rcases h.opened mark hmark ((prefix_append _ _).trans hbelow) with rfl | ⟨other, hother, hp⟩
  · exact not_concat_below _ _ hbelow
  · rw [concat_prefix_concat hbelow hp] at hname
    exact hname hother

/-- Nothing is frozen at a new name, above it or below it. -/
theorem At.not_frozen (h : d.At frames inner) (hname : name ∉ inner.map (·.1))
    (hmark : mark ∈ d.frozen) :
    ¬ mark <+: keyAt frames ++ [name] ∧ ¬ keyAt frames ++ [name] <+: mark := by
  obtain ⟨habove, hinside⟩ := h.frozen mark hmark
  have hbelow : ¬ keyAt frames ++ [name] <+: mark := by
    intro hbelow
    obtain ⟨other, hother, hp⟩ := hinside ((prefix_append _ _).trans hbelow)
    rw [concat_prefix_concat hbelow hp] at hname
    exact hname hother
  refine ⟨fun hp => ?_, hbelow⟩
  rcases prefix_concat_iff.mp hp with hp | rfl
  · exact habove hp
  · exact hbelow prefix_rfl

theorem isFrozen_eq_false {frozen : List Key} (h : ∀ mark ∈ frozen, ¬ mark <+: key) :
    isFrozen frozen key = false := by
  rw [isFrozen, any_eq_false]
  exact fun mark hmark hp => h mark hmark ( isPrefixOf_iff_prefix.mp hp)

theorem isNew_append (h : ∀ f ∈ frames, f.IsNew) (hf : f.IsNew) :
    ∀ g ∈ frames ++ [f], g.IsNew := by
  intro g hg
  rcases mem_append.mp hg with hg | hg
  · exact h g hg
  · rw [mem_singleton.mp hg]
    exact hf

theorem At.of_plug (hnew : ∀ f ∈ frames, f.IsNew) (hentries : d.entries = plug frames inner)
    (hpending : d.pending = [])
    (hopened : ∀ mark ∈ d.opened, keyAt frames <+: mark →
      mark = keyAt frames ∨ ∃ name ∈ inner.map (·.1), keyAt frames ++ [name] <+: mark)
    (hfrozen : ∀ mark ∈ d.frozen, ¬ mark <+: keyAt frames ∧
      (keyAt frames <+: mark → ∃ name ∈ inner.map (·.1), keyAt frames ++ [name] <+: mark)) :
    d.At frames inner where
  isNew := hnew
  changes := fun change key => by rw [hentries, changeAt_plug hnew]
  pending := hpending
  opened := hopened
  frozen := hfrozen

/-- A table that is still missing can be worked at. -/
theorem At.enter (h : d.At frames inner) (hname : name ∉ inner.map (·.1)) :
    d.At (frames ++ [⟨inner, name, none⟩]) [] where
  isNew := isNew_append h.isNew hname
  changes := by
    intro change key
    rw [keyAt_append, append_assoc, singleton_append, h.changes, changeAt_missing hname]
    cases changeAt true change key [] with
    | error e => rfl
    | ok new => exact congrArg Except.ok (plug_append frames _ new).symm
  pending := h.pending
  opened := by
    intro mark hmark hbelow
    rw [keyAt_append] at hbelow
    exact absurd hbelow (h.not_opened hname hmark)
  frozen := by
    intro mark hmark
    rw [keyAt_append]
    exact ⟨(h.not_frozen hname hmark).1, fun hbelow => absurd hbelow (h.not_frozen hname hmark).2⟩

/-- The header of a new table opens it. -/
theorem At.openTable (h : d.At frames inner) (hname : name ∉ inner.map (·.1)) :
    ∃ d', d.openTable (keyAt frames ++ [name]) = .ok d' ∧ d.Starts frames ⟨inner, name, none⟩ d' := by
  have hentered := h.enter hname
  have hfrozen : isFrozen d.frozen (keyAt frames ++ [name]) = false :=
    isFrozen_eq_false fun mark hmark => (h.not_frozen hname hmark).1
  have hopened : (d.pending ++ d.opened).contains (keyAt frames ++ [name]) = false := by
    rw [h.pending, nil_append, ← Bool.not_eq_true, contains_iff_mem]
    exact fun hmem => h.not_opened hname hmem prefix_rfl
  have hchange := hentered.changes .ok []
  rw [append_nil, keyAt_append] at hchange
  refine ⟨{ d with
    entries := plug (frames ++ [⟨inner, name, none⟩]) []
    header := keyAt frames ++ [name]
    opened := (keyAt frames ++ [name]) :: (d.pending ++ d.opened)
    pending := [] }, ?_, rfl, ?_, rfl, ?_⟩
  · rw [Document.openTable, hopened, hfrozen, Bool.or_false, if_neg Bool.false_ne_true, hchange]
    rfl
  · refine .of_plug hentered.isNew rfl rfl ?_ hentered.frozen
    intro mark hmark hbelow
    rcases mem_cons.mp hmark with rfl | hmark
    · exact .inl (keyAt_append frames ⟨inner, name, none⟩).symm
    · rw [h.pending, nil_append] at hmark
      exact hentered.opened mark hmark hbelow
  · refine ⟨fun mark hmark => ?_, fun mark hmark => .inl hmark⟩
    rcases mem_cons.mp hmark with rfl | hmark
    · exact .inr prefix_rfl
    · rw [h.pending, nil_append] at hmark
      exact .inl hmark

/-- One more entry, with all new marks below it. -/
theorem At.grow {value : Value} (h : d.At frames inner)
    (hentries : d'.entries = plug frames (inner ++ [(name, value)])) (hpending : d'.pending = [])
    (hgrew : d.Grew (keyAt frames ++ [name]) d') : d'.At frames (inner ++ [(name, value)]) := by
  have hmem : ∀ other ∈ inner.map (·.1), other ∈ (inner ++ [(name, value)]).map (·.1) := by
    intro other hother
    rw [map_append]
    exact mem_append_left _ hother
  have hself : name ∈ (inner ++ [(name, value)]).map (·.1) := by simp
  refine .of_plug h.isNew hentries hpending ?_ ?_
  · intro mark hmark hbelow
    rcases hgrew.opened mark hmark with hmark | hp
    · refine (h.opened mark hmark hbelow).imp_right ?_
      rintro ⟨other, hother, hp⟩
      exact ⟨other, hmem other hother, hp⟩
    · exact .inr ⟨name, hself, hp⟩
  · intro mark hmark
    rcases hgrew.frozen mark hmark with hmark | hp
    · refine ⟨(h.frozen mark hmark).1, fun hbelow => ?_⟩
      obtain ⟨other, hother, hp⟩ := (h.frozen mark hmark).2 hbelow
      exact ⟨other, hmem other hother, hp⟩
    · exact ⟨fun habove => not_concat_below _ _ (hp.trans habove), fun _ => ⟨name, hself, hp⟩⟩

/-- A plain entry with a new name is set. -/
theorem At.set (h : d.At frames inner) (hheader : d.header = keyAt frames)
    (hname : name ∉ inner.map (·.1)) (value : Value) :
    ∃ d', d.set [name] value = .ok d' ∧ d'.header = keyAt frames ∧
      d'.At frames (inner ++ [(name, value)]) ∧ d'.entries = plug frames (inner ++ [(name, value)]) ∧
      d.Grew (keyAt frames) d' := by
  have hfrozen : isFrozen d.frozen (keyAt frames) = false :=
    isFrozen_eq_false fun mark hmark => (h.frozen mark hmark).1
  have hchange := h.changes (addEntry .overwritten name value) []
  rw [append_nil, changeAt, addEntry, Table.lookup_eq_none_iff_notMem.mpr hname,
    Option.isSome_none, if_neg Bool.false_ne_true] at hchange
  let d' : Document := { d with
    entries := plug frames (inner ++ [(name, value)])
    header := keyAt frames
    frozen := if value.isCompound then (keyAt frames ++ [name]) :: d.frozen else d.frozen }
  have hgrew : d.Grew (keyAt frames ++ [name]) d' := by
    refine ⟨fun mark hmark => .inl hmark, fun mark hmark => ?_⟩
    dsimp only [d'] at hmark
    split at hmark
    · rcases mem_cons.mp hmark with rfl | hmark
      · exact .inr prefix_rfl
      · exact .inl hmark
    · exact .inl hmark
  refine ⟨d', ?_, rfl, h.grow rfl h.pending hgrew, rfl, hgrew.above (prefix_append _ _)⟩
  rw [Document.set, hheader]
  simp only [passed, length_singleton, Nat.sub_self, range_zero, map_nil,
    find?_nil, dropLast_singleton, append_nil, hfrozen, getLast?_singleton,
    Option.getD_some, hchange, if_neg Bool.false_ne_true]
  rfl

/-- A table of a list that is not frozen is added, and the marks below it are gone. -/
theorem exists_openListTable (hnew : ∀ g ∈ frames ++ [f], g.IsNew) (hpending : d.pending = [])
    (hfrozen : ∀ mark ∈ d.frozen, ¬ mark <+: keyAt frames ++ [f.name])
    (hchange : changeAt true (appendTable f.name) (keyAt frames) d.entries
      = .ok (plug (frames ++ [f]) [])) :
    ∃ d', d.openListTable (keyAt frames ++ [f.name]) = .ok d' ∧ d.Starts frames f d' := by
  have hkept : ∀ {marks : List Key} {mark : Key},
      mark ∈ (marks.filter fun other => !(keyAt frames ++ [f.name]).isPrefixOf other) →
        mark ∈ marks ∧ ¬ keyAt frames ++ [f.name] <+: mark := by
    intro marks mark hmark
    obtain ⟨hmem, hnot⟩ := mem_filter.mp hmark
    refine ⟨hmem, fun hp => ?_⟩
    rw [ isPrefixOf_iff_prefix.mpr hp] at hnot
    exact absurd hnot (by decide)
  refine ⟨{
    entries := plug (frames ++ [f]) []
    header := keyAt frames ++ [f.name]
    opened := (keyAt frames ++ [f.name]) ::
      (d.pending ++ d.opened).filter fun other => !(keyAt frames ++ [f.name]).isPrefixOf other
    pending := []
    frozen := d.frozen.filter fun other => !(keyAt frames ++ [f.name]).isPrefixOf other }, ?_, rfl, ?_,
    rfl, ?_⟩
  · rw [openListTable]
    simp only [isFrozen_eq_false hfrozen, if_neg Bool.false_ne_true, getLast?_concat,
      Option.getD_some, dropLast_concat, hchange]
    rfl
  · refine .of_plug hnew rfl rfl ?_ ?_
    · intro mark hmark hbelow
      rw [keyAt_append] at hbelow ⊢
      rcases mem_cons.mp hmark with rfl | hmark
      · exact .inl rfl
      · exact absurd hbelow (hkept hmark).2
    · intro mark hmark
      rw [keyAt_append]
      exact ⟨hfrozen mark (hkept hmark).1, fun hbelow => absurd hbelow (hkept hmark).2⟩
  · refine ⟨fun mark hmark => ?_, fun mark hmark => .inl (hkept hmark).1⟩
    rcases mem_cons.mp hmark with rfl | hmark
    · exact .inr prefix_rfl
    · have hmem := (hkept hmark).1
      rw [hpending, nil_append] at hmem
      exact .inl hmem

/-- The first table of a new list. -/
theorem At.openListTable (h : d.At frames inner) (hname : name ∉ inner.map (·.1)) :
    ∃ d', d.openListTable (keyAt frames ++ [name]) = .ok d' ∧
      d.Starts frames ⟨inner, name, some []⟩ d' := by
  refine exists_openListTable (f := ⟨inner, name, some []⟩) (isNew_append h.isNew hname) h.pending
    (fun mark hmark => (h.not_frozen hname hmark).1) ?_
  have hchange := h.changes (appendTable name) []
  rw [append_nil, changeAt, appendTable, Table.lookup_eq_none_iff_notMem.mpr hname] at hchange
  rw [hchange, plug_append]
  rfl

/-- The next table of a list. -/
theorem At.openNextTable {before : Entries} {items : List Value}
    (h : d.At (frames ++ [⟨before, name, some items⟩]) inner)
    (hentries : d.entries = plug (frames ++ [⟨before, name, some items⟩]) inner) :
    ∃ d', d.openListTable (keyAt frames ++ [name]) = .ok d' ∧
      d.Starts frames ⟨before, name, some (items ++ [.table inner])⟩ d' := by
  have hnew : ∀ f ∈ frames, f.IsNew := fun f hf => h.isNew f (mem_append_left _ hf)
  have hname : name ∉ before.map (·.1) :=
    h.isNew ⟨before, name, some items⟩ (mem_append_right _ mem_cons_self)
  refine exists_openListTable (f := ⟨before, name, some (items ++ [.table inner])⟩)
    (isNew_append hnew hname) h.pending ?_ ?_
  · intro mark hmark
    have hfrozen := (h.frozen mark hmark).1
    rwa [keyAt_append] at hfrozen
  · have hchange : changeAt true (appendTable name) (keyAt frames ++ [])
        (plug frames (Frame.close ⟨before, name, some items⟩ inner)) = _ := changeAt_plug hnew [] _
    rw [append_nil, changeAt, appendTable, Frame.close, Table.lookup_last hname] at hchange
    rw [hentries, plug_append, Frame.close, hchange, plug_append, Frame.value]
    dsimp only
    rw [Table.insertEntry_last hname]
    rfl

/-- Back from a table to the one around it. -/
theorem At.leave (h : d.At frames f.before) (h' : d'.At (frames ++ [f]) inner)
    (hentries : d'.entries = plug (frames ++ [f]) inner)
    (hgrew : d.Grew (keyAt frames ++ [f.name]) d') : d'.At frames (f.close inner) :=
  h.grow (by rw [hentries, plug_append]; rfl) h'.pending hgrew

/-- At the start there is nothing. -/
theorem at_empty : empty.At [] [] :=
  .of_plug (fun _ hf => absurd hf not_mem_nil) rfl rfl (fun _ hmark => absurd hmark not_mem_nil)
    fun _ hmark => absurd hmark not_mem_nil

end Document

end RobotKit.Config
