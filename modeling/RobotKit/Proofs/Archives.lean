import RobotKit.Host.Programs
import RobotKit.Proofs.Disk

/-!
# Packing and unpacking

An archive of a directory has one entry for each file and each directory below it. Unpacking it
without a complaint lays these over what was there before, and nothing else changes: this is shown
for one entry and from that, entry by entry, for the whole archive.
-/

namespace RobotKit.Host

open List RobotKit.Files

variable {Q : Unit → State → Prop} {s : State} {entries : List (String × Node)}
  {entry : String × Content} {archive directory : Path} {path : String}
  {nodes : List (String × Node)} {node : Node} {location : Location}

/-! ## The entries of an archive -/

/-- The entry of a file or of a directory. -/
def archiveEntry (path : String) : Node → String × Content
  | .file content _ => (path, content)
  | .dir _ => (path ++ "/", .text "")

theorem mem_archiveNode :
    entry ∈ archiveNode path node
      ↔ entry = archiveEntry path node
        ∨ ∃ entries, node = .dir entries ∧ entry ∈ archiveEntries (path ++ "/") entries := by
  cases node with
  | file content mode => simp [archiveNode, archiveEntry]
  | dir entries => simp [archiveNode, archiveEntry]

theorem mem_archiveEntries_iff_node :
    entry ∈ archiveEntries path entries
      ↔ ∃ child ∈ entries, entry ∈ archiveNode (path ++ child.1) child.2 := by
  induction entries with
  | nil => simp [archiveEntries]
  | cons first rest ih =>
    obtain ⟨name, node⟩ := first
    rw [archiveEntries, mem_append, ih, exists_mem_cons_iff]

/-- The entries of an archive of a directory are those of what is found below it. -/
theorem mem_archiveEntries (h : (Node.dir entries).WellFormed) :
    entry ∈ archiveEntries path entries
      ↔ ∃ location node, location ≠ [] ∧ (Node.dir entries).find? location = some node
        ∧ entry = archiveEntry (path ++ "/".intercalate location) node := by
  generalize hroot : Node.dir entries = root at h
  induction h generalizing entries path with
  | file content mode => cases hroot
  | @dir _ names hnodup below ih =>
    obtain rfl := Node.dir.inj hroot
    rw [mem_archiveEntries_iff_node]
    constructor
    · rintro ⟨⟨name, node⟩, hchild, hentry⟩
      have hlookup := (Node.mem_iff_lookup_eq hnodup).mp hchild
      rcases mem_archiveNode.mp hentry with rfl | ⟨inner, rfl, hinner⟩
      · refine ⟨[name], node, cons_ne_nil _ _, ?_, by rw [String.intercalate_singleton]⟩
        rw [Node.find?_cons, Node.entries, hlookup, Option.bind_some, Node.find?_nil]
      · obtain ⟨location, found, hne, hfind, rfl⟩ := (ih _ hchild rfl).mp hinner
        refine ⟨name :: location, found, cons_ne_nil _ _, ?_, ?_⟩
        · rw [Node.find?_cons, Node.entries, hlookup, Option.bind_some]
          exact hfind
        · rw [String.intercalate_cons_of_ne_nil hne]
          simp only [String.append_assoc]
    · rintro ⟨location, found, hne, hfind, rfl⟩
      obtain ⟨name, rest, rfl⟩ := exists_cons_of_ne_nil hne
      rw [Node.find?_cons, Node.entries] at hfind
      obtain ⟨node, hlookup, hfind⟩ := Option.bind_eq_some_iff.mp hfind
      have hchild := (Node.mem_iff_lookup_eq hnodup).mpr hlookup
      refine ⟨(name, node), hchild, mem_archiveNode.mpr ?_⟩
      cases rest with
      | nil =>
        rw [Node.find?_nil] at hfind
        rw [Option.some.inj hfind, String.intercalate_singleton]
        exact .inl rfl
      | cons next rest =>
        cases node with
        | file content mode => cases hfind
        | dir inner =>
          refine .inr ⟨inner, rfl, (ih _ hchild rfl).mpr ⟨next :: rest, found, cons_ne_nil _ _, hfind, ?_⟩⟩
          rw [String.intercalate_cons_of_ne_nil (cons_ne_nil _ _)]
          simp only [String.append_assoc]

/-! ## Reading the entries -/

theorem endsWith_slash_iff (text : String) : text.endsWith "/" = true ↔ ['/'] <:+ text.toList := by
  rw [String.endsWith_eq_endsWith_toSlice, String.Slice.endsWith_string_iff, String.copy_toSlice]
  rfl

variable {location : Location}

theorem parts_archiveEntry (hne : location ≠ []) (h : ∀ name ∈ location, IsName name) (node : Node) :
    (Path.ofString (archiveEntry ("/".intercalate location) node).1).parts = location := by
  have hsplit : splitSlashes ("/".intercalate location) = location :=
    splitSlashes_intercalate hne fun name hname => (h name hname).2.2.2
  have hkept : (location.filter fun part => part ≠ "" && part ≠ ".") = location :=
    filter_eq_self.mpr fun name hname => by simp [(h name hname).1, (h name hname).2.1]
  cases node with
  | file content mode =>
    show (splitSlashes ("/".intercalate location)).filter _ = location
    rw [hsplit, hkept]
  | dir entries =>
    have hslash : "/".intercalate location ++ "/" = "/".intercalate location ++ "/" ++ "" := by
      rw [String.append_empty]
    show (splitSlashes ("/".intercalate location ++ "/")).filter _ = location
    rw [hslash, splitSlashes_append_slash, hsplit, filter_append, hkept]
    exact append_nil location

theorem endsWith_archiveEntry (hne : location ≠ []) (h : ∀ name ∈ location, IsName name) (node : Node) :
    (archiveEntry ("/".intercalate location) node).1.endsWith "/" = node.isDir := by
  cases node with
  | file content mode =>
    show ("/".intercalate location).endsWith "/" = false
    rw [← Bool.not_eq_true, endsWith_slash_iff]
    rintro ⟨start, hstart⟩
    -- what ends with a slash has an empty last part, but the last part is a name
    have htext : "/".intercalate location = String.ofList start ++ "/" ++ "" := by
      rw [String.append_empty]
      exact String.toList_inj.mp (by rw [← hstart, String.toList_append, String.toList_ofList]; rfl)
    have hsplit := splitSlashes_intercalate hne fun name hname => (h name hname).2.2.2
    rw [htext, splitSlashes_append_slash] at hsplit
    have hempty : "" ∈ location := by
      rw [← hsplit]
      exact mem_append_right _ mem_cons_self
    exact (h "" hempty).1 rfl
  | dir entries =>
    show ("/".intercalate location ++ "/").endsWith "/" = true
    rw [endsWith_slash_iff, String.toList_append]
    exact suffix_append _ _

/-! ## One entry -/

variable {target : Location} {tree files files' files'' : Node}

/-- Parts of a tree were laid over the files below a location: every place looks as before or like
the tree, and where something was there is something of its kind. -/
def LaysOver (tree : Node) (target : Location) (files files' : Node) : Prop :=
  ∀ place, files'.shapeAt place = files.shapeAt place
    ∨ ∃ location shape, place = target ++ location ∧ tree.shapeAt location = some shape
      ∧ files'.shapeAt place = some shape
      ∧ ∀ old, files.shapeAt place = some old → (old = .directory ↔ shape = .directory)

namespace LaysOver

theorem refl (tree : Node) (target : Location) (files : Node) : LaysOver tree target files files :=
  fun _ => .inl rfl

section

variable (h : LaysOver tree target files files')

include h

/-- What looks like the tree keeps looking like it. -/
theorem shapeAt_eq (hfiles : files.shapeAt (target ++ location) = tree.shapeAt location) :
    files'.shapeAt (target ++ location) = tree.shapeAt location := by
  rcases h (target ++ location) with hsame | ⟨other, shape, heq, htree, hshape, -⟩
  · rw [hsame, hfiles]
  · obtain rfl := append_cancel_left heq
    rw [hshape, htree]

theorem trans (h' : LaysOver tree target files' files'') :
    LaysOver tree target files files'' := by
  intro place
  rcases h place with hsame | ⟨location, shape, rfl, htree, hshape, hkind⟩
  · rcases h' place with hsame' | ⟨location, shape, rfl, htree, hshape, hkind⟩
    · exact .inl (hsame'.trans hsame)
    · exact .inr ⟨location, shape, rfl, htree, hshape, fun old hold => hkind old (hsame.trans hold)⟩
  · exact .inr ⟨location, shape, rfl, htree, (h'.shapeAt_eq (hshape.trans htree.symm)).trans htree,
      hkind⟩

theorem keepsDirectories : files.KeepsDirectories files' := by
  intro place hdirectory
  rcases h place with hsame | ⟨-, shape, -, -, hshape, hkind⟩
  · rw [hsame, hdirectory]
  · rw [hshape, (hkind _ hdirectory).mp rfl]

end

end LaysOver

section

variable (htarget : files.shapeAt target = some .directory)

include htarget

/-- No file stands on the way to a place that is not blocked. -/
theorem shapeAt_of_not_isBlocked
    (h : isBlocked files target (target ++ location) = false) {start : Location}
    (hstart : start <+: target ++ location) (hne : start ≠ target ++ location) :
    files.shapeAt start = none ∨ files.shapeAt start = some .directory := by
  have hlength : start.length < (target ++ location).length := by
    exact Nat.lt_of_le_of_ne hstart.length_le fun heq => hne (hstart.eq_of_length heq)
  have htake : start = (target ++ location).take start.length := prefix_iff_eq_take.mp hstart
  rcases Nat.lt_or_ge start.length target.length with hshort | hlong
  · have habove : start <+: target :=
      prefix_of_prefix_length_le hstart (prefix_append _ _) (Nat.le_of_lt hshort)
    exact .inr (Node.shapeAt_eq_directory_above habove htarget)
  · have hmem : start.length - target.length
        ∈ List.range ((target ++ location).length - target.length) := by
      rw [mem_range]
      omega
    have hfree := any_eq_false.mp h _ hmem
    rw [Nat.add_sub_cancel' hlong, ← htake] at hfree
    rw [Node.shapeAt]
    cases hfind : files.find? start with
    | none => exact .inl rfl
    | some node =>
      cases node with
      | dir entries => exact .inr rfl
      | file content mode =>
        rw [hfind] at hfree
        exact absurd rfl hfree

/-- A leaf of the tree is put in its place, where no directory is and no file stands in the way. -/
theorem laysOver_put
    (hblocked : isBlocked files target (target ++ location) = false) {node new : Node}
    (hfind : tree.find? location = some node) (hnew : new.entries = []) (hshape : new.shape = node.shape)
    (hplace : files.shapeAt (target ++ location) ≠ some .directory)
    (hkind : node.shape = .directory → files.shapeAt (target ++ location) = none) :
    LaysOver tree target files (Node.put new (target ++ location) files)
      ∧ (Node.put new (target ++ location) files).shapeAt (target ++ location) = tree.shapeAt location := by
  have htree : tree.shapeAt location = some node.shape := by rw [Node.shapeAt, hfind, Option.map_some]
  refine ⟨fun place => ?_, by rw [Node.shapeAt_put_empty hnew hplace, if_pos rfl, hshape, htree]⟩
  rw [Node.shapeAt_put_empty hnew hplace]
  split
  · rename_i heq
    rw [heq, hshape]
    refine .inr ⟨location, node.shape, rfl, htree, rfl, fun old hold => ⟨fun h => ?_, fun h => ?_⟩⟩
    · rw [h] at hold
      exact absurd hold hplace
    · rw [hkind h] at hold
      cases hold
  · rename_i hne
    split
    · rename_i habove
      rcases shapeAt_of_not_isBlocked htarget hblocked habove hne with hnone | hdirectory
      · -- the directories on the way are those of the tree
        rcases prefix_or_prefix_of_prefix habove (prefix_append target location) with hup | hdown
        · rw [Node.shapeAt_eq_directory_above hup htarget] at hnone
          cases hnone
        · obtain ⟨start, rfl⟩ := hdown
          have hstart : start <+: location := (prefix_append_right_inj target).mp habove
          have hfound : tree.shapeAt start = some .directory :=
            Node.shapeAt_eq_directory_of_start hstart (fun heq => hne (by rw [heq])) (by rw [htree]; rfl)
          refine .inr ⟨start, .directory, rfl, hfound, rfl, fun old hold => ?_⟩
          rw [hnone] at hold
          cases hold
      · exact .inl hdirectory.symm
    · exact .inl rfl

/-- An entry that is unpacked without a complaint lays its part of the tree over the files. -/
theorem unpackEntry_spec (hne : location ≠ [])
    (hnames : ∀ name ∈ location, IsName name) (htree : tree.find? location = some node)
    (hstatus : (unpackEntry target files (archiveEntry ("/".intercalate location) node)).2 ≤ 0) :
    LaysOver tree target files (unpackEntry target files (archiveEntry ("/".intercalate location) node)).1
      ∧ (unpackEntry target files (archiveEntry ("/".intercalate location) node)).1.shapeAt
          (target ++ location) = tree.shapeAt location := by
  have hends := endsWith_archiveEntry hne hnames node
  have hplace : followNames target
      (Path.ofString (archiveEntry ("/".intercalate location) node).1).parts = target ++ location := by
    rw [parts_archiveEntry hne hnames, followNames_eq_append hnames]
  rw [unpackEntry, hplace, hends] at hstatus ⊢
  cases hblocked : isBlocked files target (target ++ location) with
  | true =>
    rw [hblocked, if_pos rfl] at hstatus
    have hworse : (2 : Int) ≤ 0 := hstatus
    exact absurd hworse (by decide)
  | false =>
    rw [hblocked, if_neg Bool.false_ne_true] at hstatus
    rw [if_neg Bool.false_ne_true]
    have hput {new : Node} (hnew : new.entries = []) := laysOver_put htarget hblocked htree hnew
    cases hfind : files.find? (target ++ location) with
    | none =>
      have hnone := Node.shapeAt_eq_none_iff.mpr hfind
      cases node with
      | file content mode => exact hput rfl rfl (by simp [hnone]) fun _ => hnone
      | dir entries => exact hput rfl rfl (by simp [hnone]) fun _ => hnone
    | some found =>
      rw [hfind] at hstatus
      cases found with
      | dir inner =>
        cases node with
        | file content mode =>
          have hworse : (50 : Int) ≤ 0 := hstatus
          exact absurd hworse (by decide)
        | dir entries =>
          refine ⟨.refl tree target files, ?_⟩
          show files.shapeAt (target ++ location) = tree.shapeAt location
          rw [Node.shapeAt, hfind, Node.shapeAt, htree]
          rfl
      | file old mode' =>
        cases node with
        | file content mode =>
          refine hput rfl rfl ?_ fun h => by cases h
          rw [Node.shapeAt_eq_file_iff.mpr ⟨mode', hfind⟩]
          simp
        | dir entries =>
          have hworse : (2 : Int) ≤ 0 := hstatus
          exact absurd hworse (by decide)

end

/-! ## Whole archives -/

/-- The files of a tree laid over the files below a location. -/
def overlaid (files : Node) (target : Location) (tree : Location → Option Content) (place : Location) :
    Option Content :=
  if target <+: place then (tree (place.drop target.length)).or (files.contentAt place)
  else files.contentAt place

/-- What is seen at a place, given what was seen there, when a tree was laid over the files below a
location. -/
def seenOver (target : Location) (tree : Node) (place : Location) (before : Option Shape) : Option Shape :=
  if target <+: place then (tree.shapeAt (place.drop target.length)).or before else before

/-- A whole tree was laid over the files below a location. -/
structure LaidOver (tree : Node) (target : Location) (files files' : Node) : Prop where
  lays : LaysOver tree target files files'
  whole : ∀ location shape, tree.shapeAt location = some shape →
    files'.shapeAt (target ++ location) = some shape

namespace LaidOver

theorem shapeAt_eq (h : LaidOver tree target files files') (place : Location) :
    files'.shapeAt place = seenOver target tree place (files.shapeAt place) := by
  rw [seenOver]
  split
  · rename_i hbelow
    obtain ⟨location, rfl⟩ := hbelow
    rw [drop_left]
    cases htree : tree.shapeAt location with
    | some shape => rw [h.whole location shape htree, Option.some_or]
    | none =>
      rcases h.lays (target ++ location) with hsame | ⟨other, shape, heq, hother, -⟩
      · rw [hsame, Option.none_or]
      · obtain rfl := append_cancel_left heq
        rw [htree] at hother
        cases hother
  · rename_i hnot
    rcases h.lays place with hsame | ⟨location, -, rfl, -⟩
    · exact hsame
    · exact absurd (prefix_append _ _) hnot

theorem contentAt_eq (h : LaidOver tree target files files') (place : Location) :
    files'.contentAt place = overlaid files target tree.contentAt place := by
  have hshape := h.shapeAt_eq place
  rw [seenOver] at hshape
  rw [overlaid]
  split
  · rename_i hbelow
    rw [if_pos hbelow] at hshape
    cases htree : tree.shapeAt (place.drop target.length) with
    | none =>
      rw [htree, Option.none_or] at hshape
      have hnone : tree.contentAt (place.drop target.length) = none := by
        rw [Node.contentAt, Node.shapeAt_eq_none_iff.mp htree]
      rw [Node.contentAt_congr hshape, hnone, Option.none_or]
    | some shape =>
      rw [htree, Option.some_or, ← htree] at hshape
      rw [Node.contentAt_congr hshape]
      cases hcontent : tree.contentAt (place.drop target.length) with
      | some content => rfl
      | none =>
        -- a directory of the tree is not where a file was
        rw [Option.none_or, eq_comm, Option.eq_none_iff_forall_ne_some]
        intro content hfile
        have hold := Node.contentAt_eq_some_iff_shapeAt.mp hfile
        rcases h.lays place with hsame | ⟨-, new, -, -, hnew, hkind⟩
        · rw [hshape, hold, ← Node.contentAt_eq_some_iff_shapeAt, hcontent] at hsame
          cases hsame
        · cases new with
          | directory => cases (hkind _ hold).mpr rfl
          | file other =>
            rw [hshape, ← Node.contentAt_eq_some_iff_shapeAt, hcontent] at hnew
            cases hnew
  · rename_i hnot
    rw [if_neg hnot] at hshape
    exact Node.contentAt_congr hshape

end LaidOver

/-- One step of unpacking. -/
def unpackStep (target : Location) (state : Node × Int) (entry : String × Content) : Node × Int :=
  ((unpackEntry target state.1 entry).1, max state.2 (unpackEntry target state.1 entry).2)

theorem unpackEntries_eq (target : Location) (files : Node) (entries : List (String × Content)) :
    unpackEntries target files entries = entries.foldl (unpackStep target) (files, 0) := rfl

/-- The worst status only gets worse. -/
theorem le_foldl_unpackStep (target : Location) (entries : List (String × Content)) (state : Node × Int) :
    state.2 ≤ (entries.foldl (unpackStep target) state).2 := by
  induction entries generalizing state with
  | nil => exact Int.le_refl _
  | cons entry rest ih => exact Int.le_trans (Int.le_max_left _ _) (ih _)

/-- The steps of unpacking from any state. If the worst status is good in the end, then the places of
all entries look like the tree. -/
theorem foldl_unpackStep (htree : tree.WellFormed) {entries : List (String × Content)}
    (hentries : ∀ entry ∈ entries, ∃ location node, location ≠ [] ∧ tree.find? location = some node
      ∧ entry = archiveEntry ("/".intercalate location) node)
    (htarget : files.shapeAt target = some .directory) {status : Int}
    (h : (entries.foldl (unpackStep target) (files, status)).2 ≤ 0) :
    LaysOver tree target files (entries.foldl (unpackStep target) (files, status)).1
      ∧ ∀ entry ∈ entries, (entries.foldl (unpackStep target) (files, status)).1.shapeAt
          (target ++ (Path.ofString entry.1).parts) = tree.shapeAt (Path.ofString entry.1).parts := by
  induction entries generalizing files status with
  | nil => exact ⟨.refl tree target files, by simp⟩
  | cons entry rest ih =>
    obtain ⟨⟨location, node, hne, hfind, rfl⟩, hrest⟩ := forall_mem_cons.mp hentries
    have hnames := (htree.find? hfind).2
    rw [foldl_cons] at h ⊢
    have hstatus := Int.le_trans (Int.le_max_right _ _) (Int.le_trans (le_foldl_unpackStep target rest _) h)
    obtain ⟨hlays, hfirst⟩ := unpackEntry_spec htarget hne hnames hfind hstatus
    obtain ⟨hlaysRest, hothers⟩ := ih hrest (hlays.keepsDirectories target htarget) h
    refine ⟨hlays.trans hlaysRest, forall_mem_cons.mpr ⟨?_, hothers⟩⟩
    rw [parts_archiveEntry hne hnames]
    exact hlaysRest.shapeAt_eq hfirst

/-- Unpacking an archive of a directory without a complaint lays it over the files. -/
theorem unpackEntries_spec (hnodes : (Node.dir nodes).WellFormed)
    (htarget : files.shapeAt target = some .directory)
    (h : (unpackEntries target files (archiveEntries "" nodes)).2 = 0) :
    LaidOver (.dir nodes) target files (unpackEntries target files (archiveEntries "" nodes)).1 := by
  have hentries : ∀ entry ∈ archiveEntries "" nodes, ∃ location node, location ≠ []
      ∧ (Node.dir nodes).find? location = some node
      ∧ entry = archiveEntry ("/".intercalate location) node := by
    intro entry hentry
    obtain ⟨location, node, hne, hfind, rfl⟩ := (mem_archiveEntries hnodes).mp hentry
    exact ⟨location, node, hne, hfind, by rw [String.empty_append]⟩
  rw [unpackEntries_eq] at h ⊢
  obtain ⟨hlays, hplaces⟩ := foldl_unpackStep hnodes hentries htarget (Int.le_of_eq h)
  refine ⟨hlays, fun location shape hshape => ?_⟩
  by_cases hne : location = []
  · subst hne
    rw [append_nil, hlays.keepsDirectories target htarget, ← hshape]
    rfl
  · -- whatever is in the tree has an entry
    obtain ⟨node, hfind, -⟩ := Option.map_eq_some_iff.mp hshape
    have hplace := hplaces _ ((mem_archiveEntries hnodes).mpr ⟨location, node, hne, hfind, rfl⟩)
    rw [String.empty_append, parts_archiveEntry hne (hnodes.find? hfind).2] at hplace
    rw [hplace, hshape]

/-! ## The programs -/

@[simp] theorem ends_check {words : List String} {status : Int} :
    Ends (check words status) s Q ↔ status = 0 ∧ Q () s := by
  unfold check
  split
  · rename_i hzero
    rw [ends_pure, and_iff_right hzero]
  · rename_i hzero
    simp [hzero]

@[simp] theorem ends_place :
    Ends (place location node) s Q ↔ Q () { s with files := Node.put node location s.files } :=
  ends_modify

theorem ends_unpackAt {entries : List (String × Content)} {Q : Int → State → Prop} :
    Ends (unpackAt target entries) s Q
      ↔ Q (unpackEntries target s.files entries).2
          { s with files := (unpackEntries target s.files entries).1 } :=
  ends_iff_of_run_eq rfl

/-- Packing succeeds on a directory that is not empty, and makes one file. -/
theorem ends_pack :
    Ends (pack archive directory) s Q
      ↔ ∃ location entries place, s.lookup directory = .ok (location, .dir entries) ∧ entries ≠ []
        ∧ s.target archive = .ok place
        ∧ Q () { s with
            files := Node.put (.plain (.archive (archiveEntries "" entries))) place s.files } := by
  unfold pack
  rw [ends_bind, ends_get]
  cases hlookup : s.lookup directory with
  | error fault => simp
  | ok found =>
    obtain ⟨location, node⟩ := found
    cases node with
    | file content mode => simp
    | dir entries =>
      dsimp only
      rw [ends_bind, ends_get]
      cases htarget : s.target archive with
      | error fault => simp
      | ok place => cases entries with
        | nil => simp
        | cons entry rest => simp

/-- A directory that can be made lies over nothing. -/
theorem makes_directory {directory : Path} (htarget : s.target directory = .ok location)
    {fault : Fault} (hlookup : s.lookup directory = .error fault) (nodes : List (String × Node)) :
    s.resolve directory = .ok location
      ∧ (Node.put (.dir []) location s.files).shapeAt location = some .directory
      ∧ LaysOver (.dir nodes) location s.files (Node.put (.dir []) location s.files) := by
  obtain ⟨hresolve, hnot, hparent⟩ := State.target_eq_ok_iff.mp htarget
  have hnone : s.files.shapeAt location = none := by
    rw [Node.shapeAt_eq_none_iff]
    cases hfind : s.files.find? location with
    | none => rfl
    | some node =>
      rw [State.lookup_of_find?_some hresolve hfind] at hlookup
      cases hlookup
  have hput := Node.shapeAt_put_leaf (rfl : (Node.dir []).entries = []) hnot (hparent hnone)
  refine ⟨hresolve, (hput location).trans (if_pos rfl), fun place => ?_⟩
  rw [hput]
  split
  · rename_i heq
    refine .inr ⟨[], .directory, by rw [heq, append_nil], rfl, rfl, fun old hold => ?_⟩
    rw [heq, hnone] at hold
    cases hold
  · exact .inl rfl

/-- Unpacking into a directory that is there. -/
theorem ends_unpack_of_directory {contents : List (String × Content)} {mode : Nat}
    (harchive : s.node? archive = some (.file (.archive contents) mode))
    (hlookup : s.lookup directory = .ok (location, .dir entries)) :
    Ends (unpack archive directory) s Q
      ↔ (unpackEntries location s.files contents).2 = 0
        ∧ Q () { s with files := (unpackEntries location s.files contents).1 } := by
  unfold unpack
  rw [ends_bind, ends_get, harchive]
  dsimp only
  rw [ends_bind, ends_get, hlookup]
  dsimp only
  rw [ends_bind, ends_unpackAt, ends_check]

/-- Unpacking an archive of a directory, if it succeeds, lays it over what the path leads to. -/
theorem exists_of_ends_unpack (hnodes : (Node.dir nodes).WellFormed) {mode : Nat}
    (harchive : s.node? archive = some (.file (.archive (archiveEntries "" nodes)) mode))
    (h : Ends (unpack archive directory) s Q) :
    ∃ location files', s.resolve directory = .ok location
      ∧ LaidOver (.dir nodes) location s.files files' ∧ Q () { s with files := files' } := by
  cases hlookup : s.lookup directory with
  | ok found =>
    obtain ⟨location, node⟩ := found
    cases node with
    | file content mode =>
      unfold unpack at h
      rw [ends_bind, ends_get, harchive] at h
      dsimp only at h
      rw [ends_bind, ends_get, hlookup] at h
      simp at h
    | dir entries =>
      rw [ends_unpack_of_directory harchive hlookup] at h
      obtain ⟨hresolve, hfind⟩ := State.lookup_eq_ok_iff.mp hlookup
      have htarget := Node.shapeAt_eq_directory_iff.mpr ⟨entries, hfind⟩
      exact ⟨location, _, hresolve, unpackEntries_spec hnodes htarget h.1, h.2⟩
  | error fault =>
    unfold unpack at h
    rw [ends_bind, ends_get, harchive] at h
    dsimp only at h
    rw [ends_bind, ends_get, hlookup] at h
    dsimp only at h
    rw [ends_bind, ends_get] at h
    cases htarget : s.target directory with
    | error fault => rw [htarget] at h; simp at h
    | ok location =>
      rw [htarget] at h
      dsimp only at h
      rw [ends_bind, ends_place, ends_bind, ends_unpackAt, ends_check] at h
      obtain ⟨hresolve, hmade, hlays⟩ := makes_directory htarget hlookup nodes
      have hlaid := unpackEntries_spec hnodes hmade h.1
      exact ⟨location, _, hresolve, ⟨hlays.trans hlaid.lays, hlaid.whole⟩, h.2⟩

end RobotKit.Host
