import RobotKit.Project.Registry
import RobotKit.Proofs.Disk
import RobotKit.Proofs.Hexadecimal

/-!
# Packages from elsewhere

A package that is no path is fetched into a new directory. `State.Within s place t` says that the
host `t` is `s` with a directory at a place and nothing else changed among the files. The programs
that fetch keep this if they write only below the directory that they are given. So looking for a
package leaves the files of the user alone, and to discard what was fetched restores them exactly
(`locate_leaves_files_alone`).
-/

namespace RobotKit.Host

open List RobotKit.Files

variable {address : String} {words : List String} {names : List String} {location : Location}
  {rest : Location}

variable {s t : State} {name : String} {place : Location}

/-! ## Hosts with one more directory -/

/-- Is the second host the first one with a directory at the place? -/
structure State.Within (s : State) (place : Location) (t : State) : Prop where
  surroundings : t.surroundings = s.surroundings
  directory : t.directory = s.directory
  files : ∃ entries, t.files = Node.put (.dir entries) place s.files

namespace State.Within

theorem shapeAt_place (h : s.Within place t) : t.files.shapeAt place = some .directory := by
  obtain ⟨entries, hfiles⟩ := h.files
  rw [hfiles, Node.shapeAt_put, if_pos prefix_rfl, drop_length, Node.shapeAt_nil,
    Node.shape]

/-- Away from the directory nothing has changed. -/
theorem shapeAt_away (h : s.Within place t)
    (hparent : s.files.shapeAt place.dropLast = some .directory) (haway : ¬ place <+: location) :
    t.files.shapeAt location = s.files.shapeAt location := by
  obtain ⟨entries, hfiles⟩ := h.files
  rw [hfiles, Node.shapeAt_put, if_neg haway]
  split
  · rename_i habove
    have hne : location ≠ place := fun heq => haway (heq ▸ prefix_rfl)
    exact (Node.shapeAt_eq_directory_above (Node.prefix_dropLast habove hne) hparent).symm
  · rfl

/-- If the place was free, paths lead where they led before. -/
theorem keepsDirectories (h : s.Within place t) (hfree : s.files.shapeAt place = none)
    (hparent : s.files.shapeAt place.dropLast = some .directory) :
    s.files.KeepsDirectories t.files := by
  intro location hlocation
  rw [h.shapeAt_away hparent, hlocation]
  intro hbelow
  have hdirectory := Node.shapeAt_eq_directory_above hbelow hlocation
  rw [hfree] at hdirectory
  cases hdirectory

/-- Writing below the directory keeps the rest. -/
theorem put (h : s.Within place t) (node : Node) (hne : rest ≠ []) :
    s.Within place { t with files := Node.put node (place ++ rest) t.files } := by
  obtain ⟨entries, hfiles⟩ := h.files
  obtain ⟨first, rest, rfl⟩ := exists_cons_of_ne_nil hne
  refine ⟨h.surroundings, h.directory, ?_⟩
  show ∃ inner, Node.put node (place ++ first :: rest) t.files = Node.put (.dir inner) place s.files
  rw [hfiles, Node.put_append_put]
  exact ⟨_, rfl⟩

end State.Within

/-- The path of a name below the current directory leads to a place below the directory of that
name. -/
theorem State.Within.eq_of_resolve (h : s.Within (s.directory ++ [name]) t) (hname : IsName name)
    (hnames : ∀ part ∈ names, part ≠ "..")
    (hresolve : t.resolve ((Path.ofString name).below names) = .ok location) :
    location = s.directory ++ [name] ++ names := by
  rw [Path.ofString_of_isName hname] at hresolve
  have hparts : ∀ part ∈ name :: names, part ≠ ".." :=
    forall_mem_cons.mpr ⟨hname.2.2.1, hnames⟩
  rw [Node.eq_append_of_resolve hparts hresolve, append_assoc]
  show t.directory ++ _ = _
  rw [h.directory]
  rfl

/-! ## Programs that fetch -/

/-- Does the path lead to a place below the directory from which it is seen? -/
def LeadsBelow (path : String) : Prop :=
  ∃ names, names ≠ [] ∧ ∀ start, followNames start (Path.ofString path).parts = start ++ names

/-- Do all remote packages write only below the directory that they are fetched into? -/
def Surroundings.WritesBelow (around : Surroundings) : Prop :=
  ∀ address remote, around.remotes.get? address = some remote →
    ∀ file ∈ remote.files, LeadsBelow file.1

section Fetching

variable {I : State → Prop}

theorem upholds_fileExists {path : Path} : Upholds I (fileExists path) fun _ => True := by
  refine upholds_bind upholds_get fun s _ => ?_
  split
  · exact upholds_pure trivial
  · exact upholds_fail
  · exact upholds_pure trivial

theorem upholds_check {status : Int} :
    Upholds I (check words status) fun _ => True := by
  unfold check
  split
  · exact upholds_pure trivial
  · exact upholds_fail

theorem upholds_note :
    Upholds (s.Within place) (note words) fun _ => True :=
  upholds_modify fun _ h => ⟨h.surroundings, h.directory, h.files⟩

theorem upholds_surroundings :
    Upholds (s.Within place) surroundings fun around => around = s.surroundings :=
  upholds_bind upholds_get fun _ h => upholds_pure h.surroundings

theorem upholds_contentType :
    Upholds (s.Within place) (contentType address) fun _ => True := by
  refine upholds_bind upholds_surroundings fun _ _ => ?_
  split
  · exact upholds_pure trivial
  · refine upholds_bind (upholds_modify fun _ h => ?_) fun _ _ => upholds_pure trivial
    exact ⟨h.surroundings, h.directory, h.files⟩

theorem upholds_place {node : Node} (hne : rest ≠ []) :
    Upholds (s.Within place) (Host.place (place ++ rest) node) fun _ => True :=
  upholds_modify fun _ h => h.put node hne

theorem upholds_placeFiles {files : List (String × Content)}
    (hfiles : ∀ file ∈ files, LeadsBelow file.1) :
    Upholds (s.Within place) (placeFiles place files) fun _ => True := by
  refine upholds_forM fun file hfile => ?_
  obtain ⟨names, hne, hnames⟩ := hfiles file hfile
  dsimp only
  rw [hnames]
  split
  · refine upholds_bind upholds_get fun u _ => ?_
    split
    · exact upholds_place hne
    · exact upholds_pure trivial
  · exact upholds_place hne

/-- Names below the current directory spell the place to which they lead. -/
theorem upholds_spelled (hnames : ∀ part ∈ names, IsName part) :
    Upholds (s.Within place) (spelled ⟨false, names⟩)
      fun location => location = s.directory ++ names := by
  refine upholds_bind upholds_get fun u h => upholds_pure ?_
  show followNames u.directory names = _
  rw [followNames_eq_append hnames, h.directory]

variable (hname : IsName name) (hbelow : s.surroundings.WritesBelow)
include hname hbelow

theorem upholds_clone :
    Upholds (s.Within (s.directory ++ [name])) (clone address (.ofString name)) fun _ => True := by
  refine upholds_bind upholds_note fun _ _ => upholds_bind upholds_surroundings fun around haround => ?_
  split
  · exact upholds_check
  · rename_i remote hremote
    rw [haround] at hremote
    refine upholds_bind upholds_check fun _ _ => ?_
    rw [Path.ofString_of_isName hname]
    refine upholds_bind (upholds_spelled (by simpa using hname)) fun location hlocation => ?_
    rw [hlocation]
    exact upholds_placeFiles (hbelow address remote hremote)

theorem upholds_unpackDownload {archive : Path} :
    Upholds (s.Within (s.directory ++ [name])) (unpackDownload archive (.ofString name))
      fun _ => True := by
  refine upholds_bind upholds_note fun _ _ => upholds_bind upholds_get fun u _ => ?_
  refine upholds_bind upholds_surroundings fun around haround => ?_
  split
  · exact upholds_pure trivial
  · rename_i remote hremote
    obtain ⟨address, -, hremote⟩ := Option.bind_eq_some_iff.mp hremote
    rw [haround] at hremote
    refine upholds_bind upholds_check fun _ _ => ?_
    rw [Path.ofString_of_isName hname]
    refine upholds_bind (upholds_spelled (by simpa using hname)) fun location hlocation => ?_
    rw [hlocation]
    exact upholds_placeFiles (hbelow address remote hremote)

omit hbelow in
theorem upholds_download :
    Upholds (s.Within (s.directory ++ [name])) (download address ((Path.ofString name).child "pkg.zip"))
      fun _ => True := by
  have hnames : ∀ part ∈ [name, "pkg.zip"], IsName part :=
    forall_mem_cons.mpr ⟨hname, by decide⟩
  rw [Path.child_of_isName _ (by decide), Path.ofString_of_isName hname]
  refine upholds_bind upholds_note fun _ _ => ?_
  refine upholds_bind (upholds_spelled hnames) fun location hlocation => ?_
  have hplace : location = s.directory ++ [name] ++ ["pkg.zip"] := by simp [hlocation]
  rw [hplace]
  refine upholds_bind (upholds_place (cons_ne_nil _ _)) fun _ _ => ?_
  refine upholds_bind (upholds_modify fun _ h => ?_) fun _ _ => ?_
  · exact ⟨h.surroundings, h.directory, h.files⟩
  · exact upholds_bind upholds_surroundings fun _ _ => upholds_check

/-- Fetching a package changes only the directory that it is fetched into. -/
theorem upholds_fetch {source : String} :
    Upholds (s.Within (s.directory ++ [name])) (Registry.fetch source (.ofString name))
      fun _ => True := by
  have hfetch (isArchive : Bool) : Upholds (s.Within (s.directory ++ [name]))
      (if isArchive then do
        download source ((Path.ofString name).child "pkg.zip")
        unpackDownload ((Path.ofString name).child "pkg.zip") (.ofString name)
      else clone source (.ofString name)) fun _ => True := by
    split
    · exact upholds_bind (upholds_download hname) fun _ _ => upholds_unpackDownload hname hbelow
    · exact upholds_clone hname hbelow
  unfold Registry.fetch
  dsimp only
  split
  · refine upholds_bind upholds_contentType fun announced _ => ?_
    cases announced with
    | some announced => exact hfetch _
    | none => exact upholds_bind (P := fun _ => True) upholds_fail fun isArchive _ => hfetch isArchive
  · exact hfetch false

end Fetching

end RobotKit.Host

namespace RobotKit.Registry

open List RobotKit.Files RobotKit.Host

variable {Q : Unit → State → Prop} {fetched : Fetched}

variable {s t : State} {source : String}

/-! ## Names for new directories -/

theorem utf8ByteSize_ofList_le (cs : List Char) : (String.ofList cs).utf8ByteSize ≤ 4 * cs.length := by
  induction cs with
  | nil => decide
  | cons c rest ih =>
    have hc := Char.utf8Size_le_four c
    rw [String.ofList_cons, String.utf8ByteSize_append, String.utf8ByteSize_singleton,
      length_cons]
    omega

theorem isName_shortDigest (text : String) : IsName (shortDigest text) := by
  have hlist : (shortDigest text).toList = (Text.Digest.ofString text).toList.take 8 :=
    String.toList_ofList
  have hlength : (shortDigest text).toList.length = 8 := by
    rw [hlist, length_take, Text.length_digest]
    rfl
  have hdigit : ∀ digit < 16, Text.hexDigit digit ≠ '/' := by decide
  refine ⟨?_, ?_, ?_, fun hslash => ?_⟩
  · intro heq
    rw [heq] at hlength
    cases hlength
  · intro heq
    rw [heq] at hlength
    cases hlength
  · intro heq
    rw [heq] at hlength
    cases hlength
  · rw [hlist] at hslash
    obtain ⟨digit, hlt, heq⟩ := Text.exists_hexDigit_of_mem_digest (mem_of_mem_take hslash)
    exact hdigit digit hlt heq.symm

theorem isStep_shortDigest (text : String) : Node.IsStep (shortDigest text) := by
  have hsize := utf8ByteSize_ofList_le ((Text.Digest.ofString text).toList.take 8)
  have hlength : ((Text.Digest.ofString text).toList.take 8).length ≤ 8 := length_take_le _ _
  refine ⟨(isName_shortDigest text).2.2.1, ?_⟩
  show (String.ofList _).utf8ByteSize ≤ 255
  omega

/-- The text whose digest is tried as a name after `count` names were taken. -/
def triedText (seed : String) : Nat → String
  | 0 => seed
  | count + 1 => triedText seed count ++ shortDigest seed

/-- Is the name taken that is tried after `count` others? -/
def IsTaken (s : State) (seed : String) (count : Nat) : Prop :=
  (s.node? (.ofString (shortDigest (triedText seed count)))).isSome

/-- The name that is found comes after names that are all taken. -/
theorem exists_freeName (s : State) (seed : String) (fuel start : Nat) :
    ∃ count, freeName s seed fuel (triedText seed start) = shortDigest (triedText seed count)
      ∧ ∀ k, start ≤ k → k < count → IsTaken s seed k := by
  induction fuel generalizing start with
  | zero => exact ⟨start, rfl, fun k hstart hk => absurd hk (Nat.not_lt.mpr hstart)⟩
  | succ fuel ih =>
    rw [freeName]
    split
    · rename_i htaken
      obtain ⟨count, hname, hall⟩ := ih (start + 1)
      refine ⟨count, hname, fun k hstart hk => ?_⟩
      rcases Nat.eq_or_lt_of_le hstart with rfl | hlt
      · exact htaken
      · exact hall k hlt hk
    · exact ⟨start, rfl, fun k hstart hk => absurd hk (Nat.not_lt.mpr hstart)⟩

/-- The name of the directory that a package is fetched into. -/
def temporaryName (s : State) (source : String) : String := freeName s source nameLimit source

theorem exists_temporaryName (s : State) (source : String) :
    ∃ count, temporaryName s source = shortDigest (triedText source count)
      ∧ ∀ k < count, IsTaken s source k := by
  obtain ⟨count, hname, hall⟩ := exists_freeName s source nameLimit 0
  exact ⟨count, hname, fun k hk => hall k (Nat.zero_le k) hk⟩

theorem isName_temporaryName (s : State) (source : String) : IsName (temporaryName s source) := by
  obtain ⟨count, hname, -⟩ := exists_temporaryName s source
  rw [hname]
  exact isName_shortDigest _

/-- The place of the directory that a package is fetched into. -/
def temporaryPlace (s : State) (source : String) : Location :=
  s.directory ++ [temporaryName s source]

/-! ## Looking for a package -/

/-- The name of a new directory leads to its place. -/
theorem resolve_temporaryName (h : t.files.shapeAt t.directory = some .directory) :
    t.resolve (.ofString (temporaryName s source)) = .ok (t.directory ++ [temporaryName s source]) := by
  obtain ⟨count, hname, -⟩ := exists_temporaryName s source
  rw [Path.ofString_of_isName (isName_temporaryName s source)]
  refine (Node.resolve_steps_eq_ok_iff ?_ (cons_ne_nil _ _)).mpr ⟨rfl, by simpa using h⟩
  rw [forall_mem_singleton, hname]
  exact isStep_shortDigest _

/-- The new directory is made if nothing is in its place. -/
theorem ends_makeDirectory_temporary :
    Ends (makeDirectory (.ofString (temporaryName s source))) s Q
      ↔ s.files.shapeAt (temporaryPlace s source) = none
        ∧ s.files.shapeAt s.directory = some .directory
        ∧ Q () { s with files := Node.put (.dir []) (temporaryPlace s source) s.files } := by
  rw [ends_makeDirectory]
  constructor
  · rintro ⟨location, hresolve, hfree, -, hQ⟩
    have hdirectory : s.files.shapeAt s.directory = some .directory := by
      rw [Path.ofString_of_isName (isName_temporaryName s source)] at hresolve
      exact (Node.resolve_cons_eq_ok_iff.mp hresolve).1
    rw [resolve_temporaryName hdirectory] at hresolve
    obtain rfl := Except.ok.inj hresolve
    exact ⟨hfree, hdirectory, hQ⟩
  · rintro ⟨hfree, hdirectory, hQ⟩
    refine ⟨_, resolve_temporaryName hdirectory, hfree, ?_, hQ⟩
    rw [dropLast_concat, hdirectory]
    rfl

/-- A package that is there is used where it is. -/
theorem run_locate_of_found {found : Location × Node} (h : s.lookup (.ofString source) = .ok found) :
    (locate source).run.run s = (.ok ⟨.ofString source, false⟩, s) := by
  apply run_eq_of_ends
  unfold locate fileExists
  simp only [ends_bind, ends_get, h, ends_pure, ↓reduceIte, and_self]

/-- Anything else is fetched into a new directory. -/
theorem run_locate_of_new (hnew : ∀ found, s.lookup (.ofString source) ≠ .ok found)
    (hshort : s.lookup (.ofString source) ≠ .error .nameTooLong) :
    (locate source).run.run s = (fetchNew source).run.run s := by
  have habsent : (fileExists (.ofString source)).run.run s = (.ok false, s) := by
    apply run_eq_of_ends
    unfold fileExists
    rw [ends_bind, ends_get]
    split
    · rename_i found hfound
      exact absurd hfound (hnew found)
    · rename_i hlong
      exact absurd hlong hshort
    · exact ends_pure.mpr ⟨rfl, rfl⟩
  unfold locate
  rw [run_bind, habsent]
  rfl

/-- A path with a name that is too long is not looked for. -/
theorem lookup_ne_nameTooLong (h : (locate source).run.run s = (.ok fetched, t)) :
    s.lookup (.ofString source) ≠ .error .nameTooLong := by
  intro hlong
  have hends := ends_of_run_eq h
  unfold locate fileExists at hends
  rw [ends_bind, ends_bind, ends_get, hlong] at hends
  exact not_ends_fail hends

theorem within_made (place : Location) :
    s.Within place { s with files := Node.put (.dir []) place s.files } :=
  ⟨rfl, rfl, [], rfl⟩

/-- What a package is fetched into did not exist and holds all that has changed. -/
theorem within_of_locate (hbelow : s.surroundings.WritesBelow)
    (hnew : ∀ found, s.lookup (.ofString source) ≠ .ok found)
    (hrun : (locate source).run.run s = (.ok fetched, t)) :
    fetched = ⟨.ofString (temporaryName s source), true⟩
      ∧ s.files.shapeAt (temporaryPlace s source) = none
      ∧ s.files.shapeAt s.directory = some .directory
      ∧ s.Within (temporaryPlace s source) t := by
  rw [run_locate_of_new hnew (lookup_ne_nameTooLong hrun)] at hrun
  have hends := ends_of_run_eq hrun
  unfold fetchNew at hends
  rw [ends_bind, ends_get, ← temporaryName, ends_bind, ends_makeDirectory_temporary] at hends
  obtain ⟨hfree, hdirectory, hends⟩ := hends
  rw [ends_bind] at hends
  obtain ⟨_, u, hfetch, hends⟩ := hends
  obtain ⟨rfl, rfl⟩ := ends_pure.mp hends
  refine ⟨rfl, hfree, hdirectory, ?_⟩
  exact ((upholds_fetch (isName_temporaryName s source) hbelow).of_ok (within_made _) hfetch).1

theorem ends_removeTree {path : Path} {location : Location} {entries : List (String × Node)}
    (h : s.lookup path = .ok (location, .dir entries)) :
    Ends (removeTree path) s Q ↔ Q () { s with files := s.files.remove location } := by
  unfold removeTree
  rw [ends_bind, ends_get, h]
  exact ends_modify

/-- A directory that was made for the occasion is found again and removed. -/
theorem ends_discard (hsame : t.directory = s.directory)
    (hdirectory : t.files.shapeAt s.directory = some .directory)
    (hplace : t.files.shapeAt (temporaryPlace s source) = some .directory) :
    Ends (Fetched.discard ⟨.ofString (temporaryName s source), true⟩) t Q
      ↔ Q () { t with files := t.files.remove (temporaryPlace s source) } := by
  obtain ⟨entries, hfind⟩ := Node.shapeAt_eq_directory_iff.mp hplace
  have hresolve : t.resolve (.ofString (temporaryName s source)) = .ok (temporaryPlace s source) := by
    rw [resolve_temporaryName (by rw [hsame, hdirectory]), hsame, temporaryPlace]
  unfold Fetched.discard
  rw [if_pos rfl, ends_removeTree (State.lookup_of_find?_some hresolve hfind)]

/-- Looking for a package leaves the files of the user alone. A package that is there is used where
it is, and to discard it does nothing. Anything else is fetched into a directory that did not exist:
its name comes after names that were all taken, nothing changes but that directory, and to discard
it, whatever has happened inside, restores the files exactly. -/
theorem locate_leaves_files_alone (hfiles : s.files.WellFormed)
    (hbelow : s.surroundings.WritesBelow) :
    (∀ found, s.lookup (.ofString source) = .ok found →
      (locate source).run.run s = (.ok ⟨.ofString source, false⟩, s) ∧
      ∀ u, (Fetched.discard ⟨.ofString source, false⟩).run.run u = (.ok (), u)) ∧
    ∀ fetched t, (∀ found, s.lookup (.ofString source) ≠ .ok found) →
      (locate source).run.run s = (.ok fetched, t) →
      ∃ count name, name = shortDigest (triedText source count) ∧
        fetched = ⟨.ofString name, true⟩ ∧ (∀ k < count, IsTaken s source k) ∧
        s.files.find? (s.directory ++ [name]) = none ∧ s.Within (s.directory ++ [name]) t ∧
        (∀ location, ¬ s.directory ++ [name] <+: location →
          t.files.shapeAt location = s.files.shapeAt location) ∧
        ∀ u, s.Within (s.directory ++ [name]) u →
          Ends fetched.discard u fun _ v => v.files = s.files ∧ v.directory = s.directory := by
  refine ⟨fun found hfound => ⟨run_locate_of_found hfound, fun _ => rfl⟩, ?_⟩
  intro fetched t hnew hrun
  obtain ⟨rfl, hfree, hdirectory, hwithin⟩ := within_of_locate hbelow hnew hrun
  obtain ⟨count, hname, htaken⟩ := exists_temporaryName s source
  have hparent : s.files.shapeAt (temporaryPlace s source).dropLast = some .directory := by
    rw [temporaryPlace, dropLast_concat, hdirectory]
  refine ⟨count, temporaryName s source, hname, rfl, htaken, Node.shapeAt_eq_none_iff.mp hfree,
    hwithin, fun location haway => hwithin.shapeAt_away hparent haway, fun u hu => ?_⟩
  have hthere := hu.keepsDirectories hfree hparent _ hdirectory
  refine (ends_discard hu.directory hthere hu.shapeAt_place).mpr ⟨?_, hu.directory⟩
  obtain ⟨inner, hinner⟩ := hu.files
  show u.files.remove (temporaryPlace s source) = _
  rw [hinner]
  exact Node.remove_put hfiles hfree hparent

/-! ## A package under a taken name -/

/-- A host with some remote packages and some nodes. -/
def outpost (remotes : List (String × Remote)) (nodes : List (String × Node)) : State :=
  let host := quietHost (.dir nodes) []
  { host with surroundings := { host.surroundings with remotes := ⟨remotes⟩ } }

/-- A repository with one script. -/
def gearsRemote : Remote := ⟨none, 0, 0, 0, [("src/gears/__init__.py", .text "ratio = 3\n")]⟩

/-- A host where the first name for the package is taken. -/
def crowded : State :=
  outpost [("gears", gearsRemote)] [(shortDigest "gears", .plain (.text "mine\n"))]

theorem writesBelow_gears (nodes : List (String × Node)) :
    (outpost [("gears", gearsRemote)] nodes).surroundings.WritesBelow := by
  intro address remote hremote file hfile
  obtain ⟨-, rfl⟩ := mem_singleton.mp (Table.mem_of_lookup hremote)
  obtain rfl := mem_singleton.mp hfile
  have hparts : (Path.ofString "src/gears/__init__.py").parts = ["src", "gears", "__init__.py"] := by
    decide
  refine ⟨["src", "gears", "__init__.py"], by decide, fun start => ?_⟩
  rw [hparts]
  exact followNames_eq_append (by decide) start

theorem run_crowded : (crowded.lookup (.ofString "gears")).toOption.isNone
    ∧ (crowded.node? (.ofString (shortDigest "gears"))).isSome
    ∧ ((locate "gears").run.run crowded).1.toOption.isSome := by
  decide +kernel

/-- The package is cloned under the next name, and to discard it restores the host. -/
theorem locate_crowded : ∃ fetched t,
    crowded.files.WellFormed ∧ crowded.surroundings.WritesBelow ∧
      (∀ found, crowded.lookup (.ofString "gears") ≠ .ok found) ∧ IsTaken crowded "gears" 0 ∧
      (locate "gears").run.run crowded = (.ok fetched, t) ∧
      Ends fetched.discard t fun _ v => v.files = crowded.files ∧ v.directory = crowded.directory := by
  obtain ⟨habsent, htaken, hends⟩ := run_crowded
  have hnew : ∀ found, crowded.lookup (.ofString "gears") ≠ .ok found := by
    intro found hfound
    rw [hfound] at habsent
    cases habsent
  have hfiles : crowded.files.WellFormed := .singleton (isName_shortDigest _) (.file _ _)
  obtain ⟨fetched, hfetched⟩ := exists_eq_ok_of_isSome hends
  have hrun : (locate "gears").run.run crowded = (.ok fetched, ((locate "gears").run.run crowded).2) :=
    Prod.ext hfetched rfl
  have hbelow : crowded.surroundings.WritesBelow := writesBelow_gears _
  refine ⟨fetched, _, hfiles, hbelow, hnew, htaken, hrun, ?_⟩
  obtain ⟨count, name, -, -, -, -, hwithin, -, hdiscard⟩ :=
    (locate_leaves_files_alone hfiles hbelow).2 fetched _ hnew hrun
  exact hdiscard _ hwithin

end RobotKit.Registry
