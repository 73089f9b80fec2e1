import RobotKit.Proofs.Chunks
import RobotKit.Proofs.Correspondence
import RobotKit.Proofs.Path
import RobotKit.Proofs.Unreached

/-!
# Moved projects

A project may be moved to another directory of the same name: paths change their beginning, but
nothing that the linker does looks at it. Names are compared in the same order, imports are
resolved in the same way, and marks are made from paths inside the project. What is left to chance is
the order in which a run takes the dependencies of a symbol. So the same scripts can come of the
project in both places, but two runs need not give the same one (`combineIn_after_move`).
-/

namespace RobotKit.Link

open List RobotKit.Files

variable {location : Location} {file file' : String}

/-! ## A common beginning -/

theorem append_lt_append_left_iff (start a b : List Char) : start ++ a < start ++ b ↔ a < b := by
  induction start with
  | nil => rfl
  | cons c rest ih =>
    rw [cons_append, cons_append, cons_lt_cons_iff, ih]
    exact ⟨fun h => (h.resolve_left (Nat.lt_irrefl _)).2, fun h => .inr ⟨rfl, h⟩⟩

/-- A common beginning does not count when texts are compared. -/
theorem append_le_append_left_iff (start a b : String) : start ++ a ≤ start ++ b ↔ a ≤ b := by
  rw [← String.not_lt, ← String.not_lt, String.lt_iff, String.lt_iff,
    String.toList_append, String.toList_append, append_lt_append_left_iff]

/-- The text before the names inside a directory. -/
def beginning (directory : Location) : String := Location.text (directory ++ [""])

theorem intercalate_append {names : List String} (hne : names ≠ []) (directory : Location) :
    "/".intercalate (directory ++ names)
      = "/".intercalate (directory ++ [""]) ++ "/".intercalate names := by
  induction directory with
  | nil => rw [nil_append, nil_append, String.intercalate_singleton, String.empty_append]
  | cons name rest ih =>
    have hcons (after : List String) (h : after ≠ []) :
        "/".intercalate (name :: (rest ++ after)) = name ++ "/" ++ "/".intercalate (rest ++ after) := by
      cases hafter : rest ++ after with
      | nil => exact absurd (append_eq_nil_iff.mp hafter).2 h
      | cons next others => rw [String.intercalate_cons_cons]
    rw [cons_append, cons_append, hcons names hne, hcons [""] (cons_ne_nil _ _), ih]
    simp only [String.append_assoc]

/-- The path of a file inside a directory starts with the text of the directory. -/
theorem text_append (hne : location ≠ []) (directory : Location) :
    Location.text (directory ++ location) = beginning directory ++ "/".intercalate location := by
  rw [beginning, Location.text, Location.text, intercalate_append hne, String.append_assoc]

/-! ## Files inside two directories -/

/-- A move from one directory to another of the same name. -/
structure Move where
  source : Location
  target : Location
  isName_source : ∀ name ∈ source, IsName name
  isName_target : ∀ name ∈ target, IsName name
  getLast?_eq : source.getLast? = target.getLast?

namespace Move

variable (move : Move)

/-- The move back. -/
def symm : Move :=
  ⟨move.target, move.source, move.isName_target, move.isName_source, move.getLast?_eq.symm⟩

/-- Do two texts differ in their beginning only, which leads into one directory or the other? -/
def SameInside (text text' : String) : Prop :=
  ∃ rest, text = beginning move.source ++ rest ∧ text' = beginning move.target ++ rest

/-- Are these the paths of a file before and after the move? -/
def Moved (file file' : String) : Prop :=
  ∃ location, location ≠ [] ∧ (∀ name ∈ location, IsName name)
    ∧ file = Location.text (move.source ++ location)
    ∧ file' = Location.text (move.target ++ location)

variable {move}

theorem keepsOrder_sameInside : KeepsOrder move.SameInside := by
  rintro _ _ ⟨a, rfl, rfl⟩ _ _ ⟨b, rfl, rfl⟩
  rw [append_le_append_left_iff, append_le_append_left_iff]

theorem Moved.sameInside (h : move.Moved file file') :
    move.SameInside file file' := by
  obtain ⟨location, hne, -, rfl, rfl⟩ := h
  exact ⟨_, text_append hne move.source, text_append hne move.target⟩

theorem SameInside.symbolKey (h : move.SameInside file file') (name : String) :
    move.SameInside (symbolKey file name) (symbolKey file' name) := by
  obtain ⟨rest, rfl, rfl⟩ := h
  refine ⟨rest ++ "::" ++ name, ?_, ?_⟩
  · simp only [Link.symbolKey, String.append_assoc]
  · simp only [Link.symbolKey, String.append_assoc]

theorem isName_append {directory location : Location} (h : ∀ name ∈ directory, IsName name)
    (hlocation : ∀ name ∈ location, IsName name) : ∀ name ∈ directory ++ location, IsName name :=
  forall_mem_append.mpr ⟨h, hlocation⟩

/-- The last two names of what lies in a directory depend on the last name of the directory
only. -/
theorem drop_append_eq (hne : location ≠ []) (directory : Location) :
    (directory ++ location).drop ((directory ++ location).length - 2)
      = (directory.getLast?.toList ++ location).drop
          ((directory.getLast?.toList ++ location).length - 2) := by
  have hpositive : 0 < location.length := length_pos_of_ne_nil hne
  rcases eq_nil_or_concat' directory with rfl | ⟨before, last, rfl⟩
  · rfl
  · have hlong : ((before ++ [last]) ++ location).length - 2
        = before.length + (([last] ++ location).length - 2) := by
      simp only [length_append, length_singleton]
      omega
    rw [getLast?_concat, Option.toList_some, hlong, append_assoc, drop_append,
      drop_eq_nil_of_le (Nat.le_add_right _ _), nil_append, Nat.add_sub_cancel_left]

theorem Moved.packageName_eq (h : move.Moved file file') :
    packageName file = packageName file' := by
  obtain ⟨location, hne, hnames, rfl, rfl⟩ := h
  rw [packageName, packageName, filter_splitSlashes_text (isName_append move.isName_source hnames),
    filter_splitSlashes_text (isName_append move.isName_target hnames), drop_append_eq hne,
    drop_append_eq hne move.target, move.getLast?_eq]

/-- Files keep their order and their packages when they are moved. -/
def correspondence (move : Move) : Correspondence where
  File := move.Moved
  Symbol := move.SameInside
  keepsOrder_file _ _ ha _ _ hb := keepsOrder_sameInside ha.sameInside hb.sameInside
  keepsOrder_symbol := keepsOrder_sameInside
  symbol_of_file h name := h.sameInside.symbolKey name
  packageName_eq h := h.packageName_eq

/-! ## Projects -/

theorem rel_scriptFile? (hnames : ∀ name ∈ location, IsName name) :
    Option.Rel
      (fun file file' => file.relative = file'.relative ∧ move.Moved file.full file'.full)
      (scriptFile? move.source location) (scriptFile? move.target location) := by
  unfold scriptFile?
  split
  · rename_i hscript
    have hne : location ≠ [] := by
      rintro rfl
      exact absurd hscript (by decide)
    exact .some ⟨rfl, location, hne, hnames, rfl, rfl⟩
  · exact .none

/-- A project whose directory has the same files after the move corresponds to itself before. -/
theorem corresponds_projectAt {root root' : Node} (h : root.WellFormed) (h' : root'.WellFormed)
    (hsame : (below root' move.target).walk [] = (below root move.source).walk [])
    {main : String} (hmain : IsName main) :
    (projectAt root (move.source ++ [main])).Corresponds move.correspondence
      (projectAt root' (move.target ++ [main])) where
  entry := ⟨[main], cons_ne_nil _ _, forall_mem_singleton.mpr hmain, rfl, rfl⟩
  files := by
    have hpaths : pathsBelow root' move.target = pathsBelow root move.source := by
      rw [pathsBelow, pathsBelow, hsame]
    show Forall₂ _ (scriptFiles root (move.source ++ [main]).dropLast)
      (scriptFiles root' (move.target ++ [main]).dropLast)
    rw [dropLast_concat, dropLast_concat, scriptFiles_eq, scriptFiles_eq, hpaths]
    refine rel_filterMap
      (R := fun location location' => location = location' ∧ ∀ name ∈ location, IsName name) ?_ ?_
    · rintro location _ ⟨rfl, hnames⟩
      exact rel_scriptFile? hnames
    · refine List.forall₂_same.mpr fun location hlocation => ⟨rfl, ?_⟩
      obtain ⟨found, hfound, rfl⟩ := mem_map.mp hlocation
      obtain ⟨mode, hfind⟩ :=
        Node.contentAt_eq_some_iff.mp ((Node.mem_walk (wellFormed_below h _)).mp hfound)
      exact ((wellFormed_below h _).find? hfind).2
  relative file file' hfile := by
    obtain ⟨location, -, hnames, rfl, rfl⟩ := hfile
    show relativeText (move.source ++ [main]).dropLast _
      = relativeText (move.target ++ [main]).dropLast _
    rw [dropLast_concat, dropLast_concat, relativeText, relativeText,
      Path.parts_ofString_text (isName_append move.isName_source hnames),
      Path.parts_ofString_text (isName_append move.isName_target hnames), relativeParts_append,
      relativeParts_append]
  read file file' hfile := by
    obtain ⟨location, -, hnames, rfl, rfl⟩ := hfile
    show readScript root _ = readScript root' _
    rw [readScript_eq_bind, readScript_eq_bind,
      Path.parts_ofString_text (isName_append move.isName_source hnames),
      Path.parts_ofString_text (isName_append move.isName_target hnames), ← contentAt_below,
      ← contentAt_below, Node.contentAt_eq_of_walk_eq (wellFormed_below h _) (wellFormed_below h' _)
        hsame]

end Move

/-! ## Runs -/

/-- Can this script or this error come of combining the project, in some order that a run takes? -/
def Project.CanGive (project : Project) (outcome : Except Script.WriteError String) : Prop :=
  ∃ order, project.IsWalkOrder order ∧ project.outcomeIn order = outcome

/-- Are two outcomes the same error, or scripts with the same header and the same chunks, which may
stand in another order? -/
inductive Rearranged :
    Except Script.WriteError String → Except Script.WriteError String → Prop
  | error (e : Script.WriteError) : Rearranged (.error e) (.error e)
  | script (external : List String) {chunks chunks' : List String} (h : chunks'.Perm chunks) :
      Rearranged (.ok (scriptText external chunks)) (.ok (scriptText external chunks'))

variable {project project' : Project} {outcome outcome' : Except Script.WriteError String}

theorem Project.Corresponds.canGive {c : Correspondence} (h : project.Corresponds c project')
    (hgive : project.CanGive outcome) : project'.CanGive outcome := by
  obtain ⟨order, horder, rfl⟩ := hgive
  obtain ⟨order', horder', hrel⟩ := h.exists_order horder
  exact ⟨order', horder', (h.outcomeIn_eq hrel).symm⟩

/-- Two runs on a project give the same chunks. -/
theorem Project.CanGive.rearranged (h : project.CanGive outcome) (h' : project.CanGive outcome') :
    Rearranged outcome outcome' := by
  obtain ⟨order, horder, rfl⟩ := h
  obtain ⟨order', horder', rfl⟩ := h'
  cases hpieces : (project.piecesOf project.analysis).mapM project.analysis.chunkOf with
  | error e =>
    have herror (order : List String) : project.outcomeIn order = .error e := by
      simp [outcomeIn, combineIn, hpieces]
    rw [herror, herror]
    exact .error e
  | ok chunks =>
    have htable : project.chunks = .ok (.ofList chunks) := by
      rw [Project.chunks, Project.pieces, hpieces]
      rfl
    have htext (order : List String) : project.outcomeIn order
        = .ok (scriptText project.analysis.scan.external
          ((writtenSymbols order (.ofList chunks)).map fun symbol =>
            ((Table.ofList chunks).get? symbol).getD "")) := by
      simp [outcomeIn, combineIn, hpieces]
    rw [htext, htext]
    exact .script _ (((writtenSymbols_perm_keys htable horder').trans
      (writtenSymbols_perm_keys htable horder).symm).map _)

end RobotKit.Link

namespace RobotKit.Project

open List RobotKit.Files RobotKit.Host RobotKit.Link

/-- A run on a project that gives a script writes it. -/
theorem ends_combineIn_of_outcomeIn {order : Analysis → List String} {s : State} {entry : Path}
    {output text : String} {verbose : Bool} {location : Location}
    (houtcome : (projectOn s entry).outcomeIn (order (projectOn s entry).analysis) = .ok text)
    (htarget : s.textTarget output = .ok location)
    (hrender : ∃ lines, Console.render (successLine output) = .ok lines) :
    Ends (combineIn order entry output verbose) s
      fun _ t => t.files = (s.write location (.text text)).files := by
  obtain ⟨_, t, hrun, -⟩ :=
    ends_combineIn_iff.mpr ⟨⟨text, houtcome⟩, ⟨location, htarget⟩, hrender⟩
  obtain ⟨text', location', houtcome', htarget', -, hfiles⟩ := written_of_combineIn hrun
  obtain rfl : text = text' := Except.ok.inj (houtcome.symm.trans houtcome')
  obtain rfl : location = location' := Except.ok.inj (htarget.symm.trans htarget')
  exact ⟨_, t, hrun, hfiles⟩

/-- A project may live in either of two directories of one name that list the same files, with its
entry file directly in them. Then exactly the same scripts and errors can come of it in both places.
Two runs, in whatever orders they take the dependencies, fail alike or give the same chunks, maybe in
another order; and they are sure to give the same script exactly if two runs in one place are. Runs
that end well write such scripts. -/
theorem combineIn_after_move (move : Move) {s s' : State} (hs : s.files.WellFormed)
    (hs' : s'.files.WellFormed)
    (hsame : (below s'.files move.target).walk [] = (below s.files move.source).walk [])
    {main : String} (hmain : IsName main) {entry entry' : Path}
    (hentry : entry.spelled s.directory = move.source ++ [main])
    (hentry' : entry'.spelled s'.directory = move.target ++ [main]) :
    (∀ outcome, (projectOn s' entry').CanGive outcome ↔ (projectOn s entry).CanGive outcome)
    ∧ (∀ outcome outcome', (projectOn s entry).CanGive outcome →
        (projectOn s' entry').CanGive outcome' → Rearranged outcome outcome')
    ∧ ((∀ outcome outcome', (projectOn s entry).CanGive outcome →
          (projectOn s' entry').CanGive outcome' → outcome' = outcome)
        ↔ ∀ outcome outcome', (projectOn s entry).CanGive outcome →
          (projectOn s entry).CanGive outcome' → outcome' = outcome)
    ∧ ∀ order order' output output' verbose verbose',
        (projectOn s entry).IsWalkOrder (order (projectOn s entry).analysis) →
        (projectOn s' entry').IsWalkOrder (order' (projectOn s' entry').analysis) →
        Ends (combineIn order entry output verbose) s (fun _ _ => True) →
        Ends (combineIn order' entry' output' verbose') s' (fun _ _ => True) →
        ∃ text text' location location',
          s.textTarget output = .ok location ∧ s'.textTarget output' = .ok location'
          ∧ (projectOn s entry).CanGive (.ok text) ∧ (projectOn s' entry').CanGive (.ok text')
          ∧ Ends (combineIn order entry output verbose) s
              (fun _ t => t.files = (s.write location (.text text)).files)
          ∧ Ends (combineIn order' entry' output' verbose') s'
              (fun _ t => t.files = (s'.write location' (.text text')).files) := by
  have hiff (outcome : Except Script.WriteError String) :
      (projectOn s' entry').CanGive outcome ↔ (projectOn s entry).CanGive outcome := by
    unfold projectOn
    rw [hentry, hentry']
    exact ⟨(move.symm.corresponds_projectAt hs' hs hsame.symm hmain).canGive,
      (move.corresponds_projectAt hs hs' hsame hmain).canGive⟩
  refine ⟨hiff, fun outcome outcome' h h' => h.rearranged ((hiff _).mp h'), ?_, ?_⟩
  · simp only [hiff]
  · intro order order' output output' verbose verbose' horder horder' hends hends'
    obtain ⟨_, t, hrun, -⟩ := hends
    obtain ⟨_, t', hrun', -⟩ := hends'
    obtain ⟨text, location, htext, hlocation, -, hfiles⟩ := written_of_combineIn hrun
    obtain ⟨text', location', htext', hlocation', -, hfiles'⟩ := written_of_combineIn hrun'
    exact ⟨text, text', location, location', hlocation, hlocation', ⟨_, horder, htext⟩,
      ⟨_, horder', htext'⟩, ⟨_, t, hrun, hfiles⟩, ⟨_, t', hrun', hfiles'⟩⟩

/-- A project of one script, with a name that depends on two others. -/
def towerTree : Node :=
  .dir [("main.py", .plain (.text "tower = 1\nclaw = 2\nbase = tower + claw\n"))]

/-- A host with the project in its current directory. -/
def hostAt (place : String) : State :=
  quietHost (.dir [(place, .dir [("robot", towerTree)])]) [place, "robot"]

/-- The move of the project from one place to another. -/
def towerMove : Move where
  source := ["work", "robot"]
  target := ["home", "robot"]
  isName_source := by decide
  isName_target := by decide
  getLast?_eq := rfl

theorem wellFormed_hostAt {place : String} (hplace : IsName place) :
    (hostAt place).files.WellFormed :=
  .singleton hplace (.singleton (by decide) (.singleton (by decide) (.file _ _)))

/-- A run that takes dependencies as they are found. -/
def foundOrder (analysis : Analysis) : List String :=
  orderSymbols analysis.dependencies analysis.scan.symbols.keys

theorem isWalkOrder_foundOrder (project : Link.Project) :
    project.IsWalkOrder (foundOrder project.analysis) :=
  ⟨_, fun _ => .refl _, rfl⟩

/-- The script in which the names that another depends on are in the order of names. -/
def byName : String := scriptText [] ["claw = 2", "tower = 1", "base = tower + claw"]

/-- The script in which they are in the order in which they are found. -/
def asFound : String := scriptText [] ["tower = 1", "claw = 2", "base = tower + claw"]

theorem outcome_towerTree :
    (projectOn (hostAt "work") (.ofString "main.py")).outcome.toOption = some byName
      ∧ ((projectOn (hostAt "home") (.ofString "main.py")).outcomeIn
          (foundOrder (projectOn (hostAt "home") (.ofString "main.py")).analysis)).toOption
        = some asFound
      ∧ ((hostAt "work").textTarget "out.txt").toOption.isSome
      ∧ ((hostAt "home").textTarget "out.txt").toOption.isSome
      ∧ (Console.plainText (successLine "out.txt")).toOption.isSome
      ∧ asFound ≠ byName := by
  decide +kernel

theorem canGive_towerTree :
    (projectOn (hostAt "work") (.ofString "main.py")).CanGive (.ok byName)
      ∧ (projectOn (hostAt "home") (.ofString "main.py")).CanGive (.ok asFound) :=
  ⟨⟨_, Link.Project.isWalkOrder_order _, toOption_eq_some_iff.mp outcome_towerTree.1⟩,
    ⟨_, isWalkOrder_foundOrder _, toOption_eq_some_iff.mp outcome_towerTree.2.1⟩⟩

/-- Both scripts can come of the project in both places. -/
theorem combineIn_after_move_home :
    (projectOn (hostAt "home") (.ofString "main.py")).CanGive (.ok byName)
      ∧ (projectOn (hostAt "work") (.ofString "main.py")).CanGive (.ok asFound)
      ∧ Rearranged (.ok byName) (.ok asFound) := by
  have hmain : IsName "main.py" := by decide
  have hentry : (Path.ofString "main.py").spelled (hostAt "work").directory
      = towerMove.source ++ ["main.py"] := by decide
  have hentry' : (Path.ofString "main.py").spelled (hostAt "home").directory
      = towerMove.target ++ ["main.py"] := by decide
  have hsame : (below (hostAt "home").files towerMove.target).walk []
      = (below (hostAt "work").files towerMove.source).walk [] := rfl
  obtain ⟨hiff, hrearranged, -⟩ := combineIn_after_move towerMove (wellFormed_hostAt (by decide))
    (wellFormed_hostAt (by decide)) hsame hmain hentry hentry'
  obtain ⟨hwork, hhome⟩ := canGive_towerTree
  exact ⟨(hiff _).mpr hwork, (hiff _).mp hhome, hrearranged _ _ hwork hhome⟩

/-- A run in the one place writes the one script, a run in the other writes the other. -/
theorem combineIn_differs_at_home :
    (∃ location, Ends (combineIn Analysis.order (.ofString "main.py") "out.txt" false)
        (hostAt "work") fun _ t =>
          t.files = ((hostAt "work").write location (.text byName)).files)
      ∧ (∃ location, Ends (combineIn foundOrder (.ofString "main.py") "out.txt" false)
        (hostAt "home") fun _ t =>
          t.files = ((hostAt "home").write location (.text asFound)).files)
      ∧ (projectOn (hostAt "work") (.ofString "main.py")).IsWalkOrder
          (projectOn (hostAt "work") (.ofString "main.py")).analysis.order
      ∧ (projectOn (hostAt "home") (.ofString "main.py")).IsWalkOrder
          (foundOrder (projectOn (hostAt "home") (.ofString "main.py")).analysis)
      ∧ asFound ≠ byName := by
  obtain ⟨hwork, hhome, htarget, htarget', hplain, hne⟩ := outcome_towerTree
  obtain ⟨location, htarget⟩ := exists_eq_ok_of_isSome htarget
  obtain ⟨location', htarget'⟩ := exists_eq_ok_of_isSome htarget'
  have hrender := exists_render_eq_ok hplain
  exact ⟨⟨location, ends_combineIn_of_outcomeIn (toOption_eq_some_iff.mp hwork) htarget hrender⟩,
    ⟨location', ends_combineIn_of_outcomeIn (toOption_eq_some_iff.mp hhome) htarget' hrender⟩,
    Link.Project.isWalkOrder_order _, isWalkOrder_foundOrder _, hne⟩

end RobotKit.Project
