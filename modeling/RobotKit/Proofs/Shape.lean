import Mathlib.Data.List.Basic
import RobotKit.Proofs.Tree

/-!
# What is seen at a location

A tree is seen through the shapes at its locations: a file with its content, or a directory. What
`put` and `remove` do is stated by what is seen afterwards (`shapeAt_put`, `shapeAt_remove`), and
where a path leads depends on the directories alone (`resolve_eq_ok_of_keeps`).
-/

namespace RobotKit.Files

open List

variable {place : Location} {start target : Location} {node : Node} {new : Node} {content : Content}
  {names : List String}

/-- What is seen at a location. -/
inductive Shape where
  | file (content : Content)
  | directory

namespace Node

/-- What a node is seen as. -/
def shape : Node → Shape
  | .file content _ => .file content
  | .dir _ => .directory

/-- What is seen at a location, if there is something. -/
def shapeAt (root : Node) (location : Location) : Option Shape := (root.find? location).map shape

variable {root : Node} {location : Location}

@[simp] theorem shapeAt_nil (root : Node) : root.shapeAt [] = some root.shape := by
  rw [shapeAt, find?_nil, Option.map_some]

theorem shapeAt_cons (root : Node) (name : String) (rest : Location) :
    root.shapeAt (name :: rest) = (root.entries.lookup name).bind (·.shapeAt rest) := by
  rw [shapeAt, find?_cons, Option.map_bind]
  rfl

theorem shapeAt_append (root : Node) (start rest : Location) :
    root.shapeAt (start ++ rest) = (root.find? start).bind (·.shapeAt rest) := by
  rw [shapeAt, find?_append, Option.map_bind]
  rfl

theorem isSome_shapeAt : (root.shapeAt location).isSome = (root.find? location).isSome :=
  Option.isSome_map

theorem shapeAt_eq_file_iff :
    root.shapeAt location = some (.file content)
      ↔ ∃ mode, root.find? location = some (.file content mode) := by
  cases hfind : root.find? location with
  | none => simp [shapeAt, hfind]
  | some node => cases node <;> simp [shapeAt, hfind, shape]

theorem shapeAt_eq_directory_iff :
    root.shapeAt location = some .directory
      ↔ ∃ entries, root.find? location = some (.dir entries) := by
  cases hfind : root.find? location with
  | none => simp [shapeAt, hfind]
  | some node => cases node <;> simp [shapeAt, hfind, shape]

theorem shapeAt_eq_none_iff : root.shapeAt location = none ↔ root.find? location = none :=
  Option.map_eq_none_iff

theorem contentAt_eq_some_iff_shapeAt :
    root.contentAt location = some content ↔ root.shapeAt location = some (.file content) := by
  rw [contentAt_eq_some_iff, shapeAt_eq_file_iff]

/-- Places that look the same hold the same. -/
theorem contentAt_congr {root' : Node} {location' : Location}
    (h : root.shapeAt location = root'.shapeAt location') :
    root.contentAt location = root'.contentAt location' := by
  ext content
  rw [contentAt_eq_some_iff_shapeAt, contentAt_eq_some_iff_shapeAt, h]

/-- Only directories have something below them. -/
theorem shapeAt_eq_directory_of_isSome {name : String} {rest : Location}
    (h : (root.shapeAt (location ++ name :: rest)).isSome) :
    root.shapeAt location = some .directory := by
  rw [shapeAt_append] at h
  rw [shapeAt]
  cases hfind : root.find? location with
  | none =>
    rw [hfind] at h
    exact nomatch h
  | some node =>
    cases node with
    | dir entries => rfl
    | file content mode =>
      rw [hfind, Option.bind_some, shapeAt_cons] at h
      exact nomatch h

theorem shapeAt_eq_directory_of_start {start : Location} (h : start <+: location)
    (hne : start ≠ location) (hsome : (root.shapeAt location).isSome) :
    root.shapeAt start = some .directory := by
  obtain ⟨rest, rfl⟩ := h
  cases rest with
  | nil => exact absurd (append_nil start).symm hne
  | cons name rest => exact shapeAt_eq_directory_of_isSome hsome

/-- All that lies above a directory are directories. -/
theorem shapeAt_eq_directory_above {start : Location} (h : start <+: location)
    (hlocation : root.shapeAt location = some .directory) :
    root.shapeAt start = some .directory := by
  by_cases heq : start = location
  · rw [heq, hlocation]
  · exact shapeAt_eq_directory_of_start h heq (by rw [hlocation]; rfl)

theorem prefix_dropLast {α : Type} {start rest : List α} (h : start <+: rest) (hne : start ≠ rest) :
    start <+: rest.dropLast := by
  obtain ⟨added, rfl⟩ := h
  have hadded : added ≠ [] := by
    rintro rfl
    exact hne (append_nil start).symm
  rw [dropLast_append_of_ne_nil hadded]
  exact prefix_append _ _

/-! ## Putting and removing -/

/-- After a node was put at a location, it is seen there; the way there is made of directories, and
all else looks as before. -/
theorem shapeAt_put (new : Node) (place : Location) (root : Node) (location : Location) :
    (put new place root).shapeAt location
      = if place <+: location then new.shapeAt (location.drop place.length)
        else if location <+: place then some .directory
        else root.shapeAt location := by
  induction place generalizing root location with
  | nil => simp [put]
  | cons name rest ih =>
    rw [put]
    cases location with
    | nil => simp [shape]
    | cons other location =>
      rw [shapeAt_cons, entries, lookup_insertEntry]
      by_cases hname : other = name
      · subst hname
        simp only [↓reduceIte, Option.bind_some, ih, cons_prefix_cons, true_and,
          length_cons, drop_succ_cons]
        -- off the way to the place nothing changes, whether the directory was there or not
        cases hchild : root.entries.lookup other with
        | some child => simp only [Option.getD_some, shapeAt_cons, hchild, Option.bind_some]
        | none =>
          simp only [Option.getD_none, shapeAt_cons, hchild, Option.bind_none]
          split
          · rfl
          · rename_i hplace
            split
            · rfl
            · rename_i hlocation
              cases location with
              | nil => exact absurd nil_prefix hlocation
              | cons next location => rfl
      · have hplace : ¬ (name :: rest) <+: (other :: location) := fun h =>
          hname (cons_prefix_cons.mp h).1.symm
        have hlocation : ¬ (other :: location) <+: (name :: rest) := fun h =>
          hname (cons_prefix_cons.mp h).1
        rw [if_neg hname, if_neg hplace, if_neg hlocation, shapeAt_cons]

/-- Nothing is below what is not a directory. -/
theorem shapeAt_eq_none_of_below (hplace : root.shapeAt place ≠ some .directory)
    (h : place <+: location) (hne : location ≠ place) : root.shapeAt location = none := by
  rw [← Option.not_isSome_iff_eq_none]
  exact fun hsome => hplace (shapeAt_eq_directory_of_start h (Ne.symm hne) hsome)

theorem shapeAt_append_of_file {place rest : Location}
    (hplace : root.shapeAt place = some (.file content)) (hne : rest ≠ []) :
    root.shapeAt (place ++ rest) = none := by
  refine shapeAt_eq_none_of_below ?_ (prefix_append place rest) (by simpa using hne)
  rw [hplace]
  exact nofun

/-- When a file or an empty directory is put where no directory is, then the way there is made of
directories, and all else looks as before. -/
theorem shapeAt_put_empty (hnew : new.entries = [])
    (hplace : root.shapeAt place ≠ some .directory) (location : Location) :
    (put new place root).shapeAt location
      = if location = place then some new.shape
        else if location <+: place then some .directory else root.shapeAt location := by
  rw [shapeAt_put]
  by_cases heq : location = place
  · subst heq
    simp
  · rw [if_neg heq]
    by_cases hbelow : place <+: location
    · have habove : ¬ location <+: place := fun habove => heq (habove.eq_of_length_le hbelow.length_le)
      rw [if_pos hbelow, if_neg habove, shapeAt_eq_none_of_below hplace hbelow heq]
      obtain ⟨rest, rfl⟩ := hbelow
      rw [drop_left]
      cases rest with
      | nil => exact absurd (append_nil place) heq
      | cons name rest => rw [shapeAt_cons, hnew]; rfl
    · rw [if_neg hbelow]

/-- Only its place looks different if there is a directory for it. -/
theorem shapeAt_put_leaf (hnew : new.entries = []) (hplace : root.shapeAt place ≠ some .directory)
    (hparent : root.shapeAt place.dropLast = some .directory) (location : Location) :
    (put new place root).shapeAt location
      = if location = place then some new.shape else root.shapeAt location := by
  rw [shapeAt_put_empty hnew hplace]
  by_cases heq : location = place
  · rw [if_pos heq, if_pos heq]
  · rw [if_neg heq, if_neg heq]
    split
    · rename_i habove
      rw [shapeAt_eq_directory_above (prefix_dropLast habove heq) hparent]
    · rfl

theorem lookup_filter_ne (name other : String) (entries : List (String × Node)) :
    (entries.filter fun entry => entry.1 ≠ name).lookup other
      = if other = name then none else entries.lookup other := by
  induction entries <;> grind

/-- When what is at a location is removed, nothing is seen there and below, and all else looks as
before. -/
theorem shapeAt_remove (hne : place ≠ []) (hplace : (root.shapeAt place).isSome)
    (location : Location) :
    (root.remove place).shapeAt location
      = if place <+: location then none else root.shapeAt location := by
  induction place generalizing root location with
  | nil => exact absurd rfl hne
  | cons name rest ih =>
    have hdir : root.shape = .directory := by
      have h : root.shapeAt [] = some .directory :=
        @shapeAt_eq_directory_of_isSome root [] name rest hplace
      simpa using h
    cases location with
    | nil =>
      rw [if_neg (by simp), shapeAt_nil, shapeAt_nil, hdir]
      cases rest with
      | nil => rfl
      | cons next rest =>
        rw [remove]
        split
        · rfl
        · rw [hdir]
        · exact cons_ne_nil _ _
    | cons other location =>
      rw [shapeAt_cons] at hplace
      cases hchild : root.entries.lookup name with
      | none =>
        rw [hchild] at hplace
        exact nomatch hplace
      | some child =>
        rw [hchild, Option.bind_some] at hplace
        cases rest with
        | nil =>
          rw [remove, shapeAt_cons, entries, lookup_filter_ne, shapeAt_cons]
          by_cases hname : other = name
          · subst hname
            simp
          · simp [hname, Ne.symm hname]
        | cons next rest =>
          rw [remove.eq_3 _ _ _ (cons_ne_nil _ _), hchild]
          dsimp only
          rw [shapeAt_cons, entries, lookup_insertEntry, shapeAt_cons]
          by_cases hname : other = name
          · subst hname
            rw [if_pos rfl, Option.bind_some, ih (cons_ne_nil _ _) hplace, hchild,
              Option.bind_some]
            simp only [cons_prefix_cons, true_and]
          · rw [if_neg hname, if_neg fun h => hname (cons_prefix_cons.mp h).1.symm]

/-! ## Well-formed trees stay well formed -/

theorem mem_insertEntry {name : String} {entries : List (String × Node)} {entry : String × Node}
    (h : entry ∈ insertEntry name node entries) :
    entry = (name, node) ∨ entry ∈ entries := by
  induction entries <;> grind [insertEntry]

theorem nodup_insertEntry (name : String) (node : Node) {entries : List (String × Node)}
    (h : (entries.map (·.1)).Nodup) : ((insertEntry name node entries).map (·.1)).Nodup := by
  induction entries with
  | nil => exact pairwise_singleton _ _
  | cons first rest ih =>
    obtain ⟨hfirst, hrest⟩ := nodup_cons.mp h
    rw [insertEntry]
    split
    · rename_i heq
      exact heq ▸ h
    · rename_i hne
      split
      · rename_i hnew
        refine nodup_cons.mpr ⟨fun hmem => ?_, h⟩
        have hnone : rest.lookup name = none :=
          Option.isNone_iff_eq_none.mp hnew.2
        obtain ⟨entry, hentry, heq⟩ := mem_map.mp hmem
        rcases mem_cons.mp hentry with rfl | hentry
        · exact hne heq
        · simpa [heq] using lookup_eq_none_iff.mp hnone entry hentry
      · refine nodup_cons.mpr ⟨fun hmem => ?_, ih hrest⟩
        obtain ⟨entry, hentry, heq⟩ := mem_map.mp hmem
        rcases mem_insertEntry hentry with rfl | hentry
        · exact hne heq.symm
        · exact hfirst (mem_map.mpr ⟨entry, hentry, heq⟩)

theorem WellFormed.entries (h : node.WellFormed) :
    (∀ name ∈ node.entries.map (·.1), IsName name)
      ∧ (node.entries.map (·.1)).Nodup
      ∧ ∀ entry ∈ node.entries, entry.2.WellFormed := by
  cases h with
  | file content mode => exact ⟨nofun, .nil, nofun⟩
  | dir names nodup below => exact ⟨names, nodup, below⟩

theorem wellFormed_insertEntry {name : String} (hname : IsName name) {new node : Node}
    (hnew : new.WellFormed) (h : node.WellFormed) :
    (Node.dir (insertEntry name new node.entries)).WellFormed := by
  obtain ⟨names, nodup, below⟩ := h.entries
  refine .dir (fun key hkey => ?_) (nodup_insertEntry name new nodup) fun entry hentry => ?_
  · obtain ⟨entry, hentry, rfl⟩ := mem_map.mp hkey
    rcases mem_insertEntry hentry with rfl | hentry
    · exact hname
    · exact names _ (mem_map_of_mem hentry)
  · rcases mem_insertEntry hentry with rfl | hentry
    · exact hnew
    · exact below _ hentry

theorem WellFormed.lookup {node child : Node} (h : node.WellFormed) {name : String}
    (hchild : node.entries.lookup name = some child) : child.WellFormed := by
  have hfind : node.find? [name] = some child := by rw [find?_cons, hchild, Option.bind_some, find?_nil]
  exact (h.find? hfind).1

theorem WellFormed.put (hnew : new.WellFormed) (hplace : ∀ name ∈ place, IsName name)
    (h : node.WellFormed) :
    (Node.put new place node).WellFormed := by
  induction place generalizing node with
  | nil => exact hnew
  | cons name rest ih =>
    obtain ⟨hname, hrest⟩ := forall_mem_cons.mp hplace
    have hbelow : ((node.entries.lookup name).getD (.dir [])).WellFormed := by
      cases hchild : node.entries.lookup name with
      | none => exact .dir nofun .nil nofun
      | some child => exact h.lookup hchild
    exact wellFormed_insertEntry hname (ih hrest hbelow) h

theorem WellFormed.remove (h : node.WellFormed) :
    (Node.remove place node).WellFormed := by
  induction place generalizing node with
  | nil => exact h
  | cons name rest ih =>
    obtain ⟨names, nodup, below⟩ := h.entries
    cases rest with
    | nil =>
      have hsub : (node.entries.filter fun entry => entry.1 ≠ name).Sublist node.entries :=
        filter_sublist
      exact .dir (fun key hkey => names key ((hsub.map _).subset hkey)) (nodup.sublist (hsub.map _))
        fun entry hentry => below entry (hsub.subset hentry)
    | cons next rest =>
      rw [remove.eq_3 _ _ _ (cons_ne_nil _ _)]
      cases hchild : node.entries.lookup name with
      | none => exact h
      | some child =>
        have hname : IsName name :=
          names name (mem_map_of_mem ((mem_iff_lookup_eq nodup).mpr hchild))
        exact wellFormed_insertEntry hname (ih (h.lookup hchild)) h

/-! ## A node that was put and then changed or removed -/

theorem insertEntry_insertEntry (name : String) (node old : Node) (entries : List (String × Node)) :
    insertEntry name node (insertEntry name old entries) = insertEntry name node entries := by
  induction entries <;> grind [insertEntry, lookup_insertEntry]

theorem insertEntry_of_lookup {name : String} {entries : List (String × Node)}
    (h : entries.lookup name = some node) : insertEntry name node entries = entries := by
  induction entries <;> grind [insertEntry]

theorem filter_insertEntry {name : String} {entries : List (String × Node)}
    (h : entries.lookup name = none) :
    (insertEntry name node entries).filter (fun entry => entry.1 ≠ name) = entries := by
  induction entries with
  | nil => simp [insertEntry]
  | cons entry rest ih => grind [insertEntry, filter_eq_self]

/-- What is put below a node that was just put changes that node alone. -/
theorem put_append_put (new other : Node) (place rest : Location) (root : Node) :
    put other (place ++ rest) (put new place root) = put (put other rest new) place root := by
  induction place generalizing root with
  | nil => rfl
  | cons name place ih =>
    rw [cons_append, put, put, put]
    simp only [entries, lookup_insertEntry, if_pos, Option.getD_some, ih, insertEntry_insertEntry]

/-- To remove a node that was put where nothing was restores the tree. -/
theorem remove_put (h : root.WellFormed) (hfree : root.shapeAt place = none)
    (hparent : root.shapeAt place.dropLast = some .directory) :
    (put new place root).remove place = root := by
  induction place generalizing root with
  | nil => simp at hfree
  | cons name rest ih =>
    have hdir : root.shapeAt [] = some .directory :=
      shapeAt_eq_directory_above nil_prefix hparent
    obtain ⟨entries, rfl⟩ : ∃ entries, root = .dir entries := by
      simpa using shapeAt_eq_directory_iff.mp hdir
    rw [shapeAt_cons, Node.entries] at hfree
    cases rest with
    | nil =>
      have hnone : entries.lookup name = none := by
        cases hchild : entries.lookup name with
        | none => rfl
        | some child => simp [hchild] at hfree
      rw [put, remove, Node.entries, Node.entries, filter_insertEntry hnone]
    | cons next rest =>
      rw [dropLast_cons_of_ne_nil (cons_ne_nil _ _), shapeAt_cons, Node.entries] at hparent
      obtain ⟨child, hchild, hparent⟩ := Option.bind_eq_some_iff.mp hparent
      rw [hchild, Option.bind_some] at hfree
      have hrestored := ih (h.lookup hchild) hfree hparent
      rw [put, remove.eq_3 _ _ _ (cons_ne_nil _ _), Node.entries, lookup_insertEntry,
        if_pos rfl, Node.entries, hchild]
      dsimp only [Option.getD_some]
      rw [hrestored, insertEntry_insertEntry, insertEntry_of_lookup hchild]

/-! ## Where paths lead -/

/-- Is every directory of the first tree one of the second? -/
def KeepsDirectories (root root' : Node) : Prop :=
  ∀ location, root.shapeAt location = some .directory → root'.shapeAt location = some .directory

theorem KeepsDirectories.refl (root : Node) : root.KeepsDirectories root := fun _ h => h

theorem KeepsDirectories.trans {root root' root'' : Node} (h : root.KeepsDirectories root')
    (h' : root'.KeepsDirectories root'') : root.KeepsDirectories root'' :=
  fun location hlocation => h' location (h location hlocation)

/-- Where no directory is, anything can be put. -/
theorem keepsDirectories_put (hplace : root.shapeAt place ≠ some .directory) :
    root.KeepsDirectories (put new place root) := by
  intro location hlocation
  rw [shapeAt_put]
  split
  · rename_i hbelow
    by_cases heq : location = place
    · rw [heq] at hlocation
      exact absurd hlocation hplace
    · rw [shapeAt_eq_none_of_below hplace hbelow heq] at hlocation
      cases hlocation
  · split
    · rfl
    · exact hlocation

theorem resolve_cons_eq_ok_iff {part : String} {rest : List String} :
    root.resolve start (part :: rest) = .ok target
      ↔ root.shapeAt start = some .directory ∧ part.utf8ByteSize ≤ 255
        ∧ root.resolve (if part = ".." then start.dropLast else start ++ [part]) rest
          = .ok target := by
  rw [resolve, shapeAt]
  cases root.find? start with
  | none => simp
  | some node =>
    cases node with
    | file content mode => simp [shape]
    | dir entries =>
      dsimp only
      by_cases hlong : part.utf8ByteSize > 255
      · rw [if_pos hlong]
        constructor
        · intro hthrow
          cases hthrow
        · rintro ⟨-, hshort, -⟩
          exact absurd hlong (Nat.not_lt.mpr hshort)
      · rw [if_neg hlong]
        simp [shape, Nat.not_lt.mp hlong]

theorem resolve_append (root : Node) (start : Location) (parts more : List String) :
    root.resolve start (parts ++ more)
      = (root.resolve start parts).bind fun location => root.resolve location more := by
  induction parts generalizing start with
  | nil => rfl
  | cons part rest ih =>
    rw [cons_append, resolve, resolve]
    cases root.find? start with
    | none => rfl
    | some node =>
      cases node with
      | file content mode => rfl
      | dir entries =>
        dsimp only
        split
        · rfl
        · exact ih _

/-- A path leads where it led as long as no directory vanishes. -/
theorem resolve_eq_ok_of_keeps {root' : Node} (hkeeps : root.KeepsDirectories root')
    {parts : List String} (h : root.resolve start parts = .ok target) :
    root'.resolve start parts = .ok target := by
  induction parts generalizing start with
  | nil => exact h
  | cons part rest ih =>
    rw [resolve_cons_eq_ok_iff] at h ⊢
    exact ⟨hkeeps _ h.1, h.2.1, ih h.2.2⟩

/-- Names that do not lead up lead straight down. -/
theorem eq_append_of_resolve (hnames : ∀ name ∈ names, name ≠ "..")
    (h : root.resolve start names = .ok target) :
    target = start ++ names := by
  induction names generalizing start with
  | nil => rw [← Except.ok.inj h, append_nil]
  | cons name rest ih =>
    obtain ⟨hname, hrest⟩ := forall_mem_cons.mp hnames
    obtain ⟨-, -, htarget⟩ := resolve_cons_eq_ok_iff.mp h
    rw [if_neg hname] at htarget
    rw [ih hrest htarget, append_assoc, singleton_append]

/-- Names that lead straight down, and that are short enough for a path. -/
def IsStep (name : String) : Prop := name ≠ ".." ∧ name.utf8ByteSize ≤ 255

instance : DecidablePred IsStep := fun _ => inferInstanceAs (Decidable (_ ∧ _))

/-- Plain names lead to what is below a location if there are directories on the way. -/
theorem resolve_steps_eq_ok_iff (hsteps : ∀ name ∈ names, IsStep name) (hne : names ≠ []) :
    root.resolve start names = .ok target
      ↔ target = start ++ names ∧ root.shapeAt (start ++ names.dropLast) = some .directory := by
  induction names generalizing start with
  | nil => exact absurd rfl hne
  | cons name rest ih =>
    obtain ⟨⟨hdots, hshort⟩, hrest⟩ := forall_mem_cons.mp hsteps
    rw [resolve_cons_eq_ok_iff, if_neg hdots]
    cases rest with
    | nil =>
      rw [resolve]
      simp [hshort, eq_comm, and_comm]
    | cons next rest =>
      rw [ih hrest (cons_ne_nil _ _), dropLast_cons_cons, append_assoc,
        append_assoc, singleton_append, singleton_append]
      constructor
      · rintro ⟨-, -, htarget, hdir⟩
        exact ⟨htarget, hdir⟩
      · rintro ⟨htarget, hdir⟩
        refine ⟨?_, hshort, htarget, hdir⟩
        exact shapeAt_eq_directory_of_isSome (by rw [hdir]; rfl)

end Node

end RobotKit.Files
