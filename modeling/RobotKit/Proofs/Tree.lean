import RobotKit.Files.Tree
import RobotKit.Proofs.Table

/-!
# Trees of files as maps from locations

What is found at a location after a node was put or removed somewhere, and in which order the files
of a tree are met. A tree is well formed if the names in each of its directories are names that
files can have, each once. They may be listed in any order; still the files of a directory are met
before those of its subdirectories (`pairwise_walk`).
-/

namespace RobotKit.Files

open List

variable {entries : List (String × Node)} {found : Location × Content} {location : Location}
  {node : Node} {name : String}

/-- Is this a name that an entry of a directory can have? -/
def IsName (name : String) : Prop :=
  name ≠ "" ∧ name ≠ "." ∧ name ≠ ".." ∧ '/' ∉ name.toList

instance : DecidablePred IsName := fun _ => inferInstanceAs (Decidable (_ ∧ _ ∧ _ ∧ _))

namespace Node

/-! ## Entries -/

theorem lookup_insertEntry (name other : String) (node : Node) (entries : List (String × Node)) :
    (insertEntry name node entries).lookup other
      = if other = name then some node else entries.lookup other := by
  induction entries <;> grind [insertEntry]

/-- Where every name stands once, an entry is what is looked up under its name. -/
theorem mem_iff_lookup_eq (h : (entries.map (·.1)).Nodup) :
    (name, node) ∈ entries ↔ entries.lookup name = some node := by
  induction entries <;> grind

/-! ## What is found at a location -/

@[simp] theorem find?_nil (node : Node) : node.find? [] = some node := by rw [find?]

theorem find?_cons (name : String) (rest : Location) (node : Node) :
    node.find? (name :: rest) = (node.entries.lookup name).bind (find? rest) := by rw [find?]

theorem find?_append (start rest : Location) (node : Node) :
    node.find? (start ++ rest) = (node.find? start).bind (find? rest) := by
  induction start generalizing node with
  | nil => simp
  | cons name start ih =>
    rw [cons_append, find?_cons, find?_cons, Option.bind_assoc]
    congr 1
    funext below
    exact ih below

/-! ## Well-formed trees -/

/-- Have all directories of the tree proper names, and no name twice? -/
inductive WellFormed : Node → Prop
  | file (content : Content) (mode : Nat) : WellFormed (.file content mode)
  | dir {entries : List (String × Node)} (names : ∀ name ∈ entries.map (·.1), IsName name)
      (nodup : (entries.map (·.1)).Nodup)
      (below : ∀ entry ∈ entries, WellFormed entry.2) : WellFormed (.dir entries)

theorem WellFormed.singleton (hname : IsName name) (h : node.WellFormed) :
    (Node.dir [(name, node)]).WellFormed :=
  .dir (forall_mem_singleton.mpr hname) (pairwise_singleton _ _)
    (forall_mem_singleton.mpr h)

theorem WellFormed.find? {node below : Node} (h : node.WellFormed)
    (hfind : node.find? location = some below) :
    below.WellFormed ∧ ∀ name ∈ location, IsName name := by
  induction location generalizing node with
  | nil =>
    obtain rfl : node = below := by simpa using hfind
    exact ⟨h, nofun⟩
  | cons name rest ih =>
    rw [find?_cons] at hfind
    obtain ⟨child, hchild, hrest⟩ := Option.bind_eq_some_iff.mp hfind
    cases h with
    | file content mode => exact nomatch hchild
    | dir names nodup hbelow =>
      have hmem := (mem_iff_lookup_eq nodup).mpr hchild
      obtain ⟨hwell, hnames⟩ := ih (hbelow _ hmem) hrest
      exact ⟨hwell, forall_mem_cons.mpr ⟨names _ (mem_map_of_mem hmem), hnames⟩⟩

/-! ## The files of a tree -/

/-- The content of the file at a location, if there is one. -/
def contentAt (node : Node) (location : Location) : Option Content :=
  match node.find? location with
  | some (.file content _) => some content
  | _ => none

theorem contentAt_eq_some_iff {content : Content} :
    node.contentAt location = some content
      ↔ ∃ mode, node.find? location = some (.file content mode) := by
  rw [contentAt]
  split
  · rename_i found mode hfind
    simp [hfind]
  · rename_i hnone
    simpa using fun mode hfind => hnone content mode hfind

theorem mem_filesOf :
    found ∈ filesOf location entries
      ↔ ∃ name mode, (name, .file found.2 mode) ∈ entries ∧ found.1 = location ++ [name] := by
  fun_induction filesOf location entries <;> grind

theorem mem_walkSubdirectories :
    found ∈ walkSubdirectories location entries
      ↔ ∃ name below, (name, .dir below) ∈ entries
        ∧ found ∈ walk (location ++ [name]) (.dir below) := by
  induction entries with
  | nil => simp [walkSubdirectories]
  | cons entry rest ih =>
    obtain ⟨key, node⟩ := entry
    cases node <;> grind [walkSubdirectories, isDir]

mutual

/-- Starting further up only lengthens the locations. -/
theorem walk_append (start location : Location) :
    (node : Node) → node.walk (start ++ location)
      = (node.walk location).map fun found => (start ++ found.1, found.2)
  | .file content mode => by simp [walk]
  | .dir entries => by
    rw [walk, walk, map_append, walkSubdirectories_append]
    congr 1
    induction entries with
    | nil => simp [filesOf]
    | cons entry rest ih =>
      obtain ⟨key, node⟩ := entry
      cases node with
      | file content mode => simp [filesOf, ih]
      | dir below => simpa [filesOf] using ih

theorem walkSubdirectories_append (start location : Location) :
    (entries : List (String × Node)) → walkSubdirectories (start ++ location) entries
      = (walkSubdirectories location entries).map fun found => (start ++ found.1, found.2)
  | [] => by simp [walkSubdirectories]
  | (name, node) :: rest => by
    rw [walkSubdirectories, walkSubdirectories, map_append,
      walkSubdirectories_append start location rest]
    congr 1
    by_cases hdir : node.isDir = true
    · rw [if_pos hdir, if_pos hdir, append_assoc, walk_append start (location ++ [name]) node]
    · rw [if_neg hdir, if_neg hdir, map_nil]

end

theorem mem_walk_singleton :
    found ∈ node.walk [name] ↔ ∃ rest, (rest, found.2) ∈ node.walk [] ∧ found.1 = name :: rest := by
  have hwalk := walk_append [name] [] node
  rw [append_nil] at hwalk
  rw [hwalk, mem_map]
  constructor
  · rintro ⟨inner, hinner, rfl⟩
    exact ⟨inner.1, hinner, rfl⟩
  · rintro ⟨rest, hrest, heq⟩
    exact ⟨(rest, found.2), hrest, Prod.ext heq.symm rfl⟩

/-- The walk through a tree meets every file with its content. -/
theorem mem_walk (h : node.WellFormed) :
    found ∈ node.walk [] ↔ node.contentAt found.1 = some found.2 := by
  rw [contentAt_eq_some_iff]
  induction h generalizing found with
  | file content mode =>
    obtain ⟨location, other⟩ := found
    cases location with
    | nil => simp [walk, eq_comm]
    | cons name rest => simp [walk, find?_cons, entries]
  | @dir entries names hnodup below ih =>
    rw [walk, mem_append, mem_filesOf, mem_walkSubdirectories]
    obtain ⟨location, content⟩ := found
    cases location with
    | nil =>
      simp [mem_walk_singleton]
    | cons name rest =>
      rw [find?_cons]
      constructor
      · rintro (⟨name', mode, hmem, heq⟩ | ⟨name', inner, hmem, hwalk⟩)
        · obtain ⟨rfl, rfl⟩ := List.cons.inj heq
          exact ⟨mode, by rw [Node.entries, (mem_iff_lookup_eq hnodup).mp hmem]; rfl⟩
        · obtain ⟨rest', hrest, heq⟩ := mem_walk_singleton.mp hwalk
          obtain ⟨rfl, rfl⟩ := List.cons.inj heq
          obtain ⟨mode, hfind⟩ := (ih _ hmem).mp hrest
          exact ⟨mode, by rw [Node.entries, (mem_iff_lookup_eq hnodup).mp hmem]; exact hfind⟩
      · rintro ⟨mode, hfind⟩
        obtain ⟨child, hchild, hrest⟩ := Option.bind_eq_some_iff.mp hfind
        have hmem := (mem_iff_lookup_eq hnodup).mpr hchild
        cases child with
        | file other otherMode =>
          cases rest with
          | nil =>
            obtain ⟨rfl, rfl⟩ := Node.file.inj (Option.some.inj hrest)
            exact .inl ⟨name, _, hmem, rfl⟩
          | cons next rest => exact nomatch hrest
        | dir inner =>
          refine .inr ⟨name, inner, hmem, mem_walk_singleton.mpr ⟨rest, ?_, rfl⟩⟩
          exact (ih _ hmem).mpr ⟨mode, hrest⟩

/-- Trees that list the same files with the same contents hold them at the same locations. -/
theorem contentAt_eq_of_walk_eq {node node' : Node} (h : node.WellFormed) (h' : node'.WellFormed)
    (hwalk : node'.walk [] = node.walk []) (location : Location) :
    node'.contentAt location = node.contentAt location := by
  have hmem {n : Node} (hn : n.WellFormed) (content : Content) :
      n.contentAt location = some content ↔ (location, content) ∈ n.walk [] := by
    rw [mem_walk hn]
  refine Option.ext fun content => ?_
  rw [hmem h', hmem h, hwalk]

end Node

/-! ## The order in which files are met -/

/-- Is the file at the first location met before the one at the second, however directories are
listed? The files of a directory come before those of its subdirectories. -/
inductive MetBefore : Location → Location → Prop
  | fileFirst (a b c : String) (rest : Location) : MetBefore [a] (b :: c :: rest)
  | inside (a : String) {location location' : Location} (h : MetBefore location location') :
      MetBefore (a :: location) (a :: location')

theorem MetBefore.length_lt {location location' : Location} (h : MetBefore location location') :
    location.length < location'.length := by
  induction h with
  | fileFirst a b c rest => simp
  | inside a _ ih => simpa using ih

theorem MetBefore.of_cons {a b : String} {location location' : Location}
    (h : MetBefore (a :: location) (b :: location')) (hne : location ≠ []) :
    a = b ∧ MetBefore location location' := by
  cases h with
  | fileFirst => exact absurd rfl hne
  | inside _ h => exact ⟨rfl, h⟩

namespace Node

theorem ne_nil_of_mem_walk_dir (h : found ∈ (Node.dir entries).walk []) : found.1 ≠ [] := by
  rw [walk, mem_append, mem_filesOf, mem_walkSubdirectories] at h
  rcases h with ⟨name, mode, -, heq⟩ | ⟨name, below, -, hwalk⟩
  · simp [heq]
  · obtain ⟨rest, -, heq⟩ := mem_walk_singleton.mp hwalk
    simp [heq]

theorem pairwise_walkSubdirectories (h : (entries.map (·.1)).Nodup)
    (hbelow : ∀ entry ∈ entries,
      (entry.2.walk []).Pairwise fun found found' => ¬ MetBefore found'.1 found.1) :
    (walkSubdirectories [] entries).Pairwise fun found found' => ¬ MetBefore found'.1 found.1 := by
  induction entries with
  | nil => exact .nil
  | cons entry rest ih =>
    obtain ⟨key, node⟩ := entry
    obtain ⟨hkey, hrest⟩ := nodup_cons.mp h
    obtain ⟨hnode, hothers⟩ := forall_mem_cons.mp hbelow
    have hlater := ih hrest hothers
    rw [walkSubdirectories]
    cases node with
    | file content mode => exact hlater
    | dir inner =>
      rw [isDir, if_pos rfl]
      refine pairwise_append.mpr ⟨?_, hlater, fun found hfound found' hfound' hbefore => ?_⟩
      · have hwalk := walk_append [key] [] (.dir inner)
        rw [append_nil] at hwalk
        rw [nil_append, hwalk]
        refine pairwise_map.mpr (hnode.imp_of_mem fun _ hmem hnot hbefore => ?_)
        exact hnot (hbefore.of_cons (ne_nil_of_mem_walk_dir hmem)).2
      · -- two files of different subdirectories
        obtain ⟨name, inner', hmem, hwalk'⟩ := mem_walkSubdirectories.mp hfound'
        obtain ⟨below, hbelow, heq⟩ := mem_walk_singleton.mp hfound
        obtain ⟨below', hbelow', heq'⟩ := mem_walk_singleton.mp hwalk'
        rw [heq, heq'] at hbefore
        obtain ⟨rfl, -⟩ := hbefore.of_cons (ne_nil_of_mem_walk_dir hbelow')
        exact hkey (mem_map.mpr ⟨_, hmem, rfl⟩)

/-- No file is met after one that it stands before, however directories are listed. -/
theorem pairwise_walk (h : node.WellFormed) :
    (node.walk []).Pairwise fun found found' => ¬ MetBefore found'.1 found.1 := by
  induction h with
  | file content mode => exact pairwise_singleton _ _
  | @dir entries names nodup below ih =>
    have hfile {found : Location × Content} (hfound : found ∈ filesOf [] entries)
        {location : Location} : ¬ MetBefore location found.1 := by
      obtain ⟨name, mode, -, heq⟩ := mem_filesOf.mp hfound
      rw [heq]
      intro hbefore
      cases hbefore with
      | inside _ h => cases h
    rw [walk]
    exact pairwise_append.mpr ⟨pairwise_of_forall_mem_list fun _ hfound _ _ => hfile hfound,
      pairwise_walkSubdirectories nodup ih, fun _ hfound _ _ => hfile hfound⟩

end Node

end RobotKit.Files
