import Mathlib.Data.List.Basic
import RobotKit.Proofs.Tree

/-!
# Texts of paths

A path that is written from names reads back as these names: joined by slashes they are split again
at the slashes (`splitSlashes_intercalate`), and the text of a location leads to the location
(`Path.parts_ofString_text`).
-/

namespace RobotKit.Files

open List

/-! ## Splitting -/

theorem splitAtChar_ne_nil (separator : Char) (cs : List Char) : splitAtChar separator cs ≠ [] := by
  cases cs with
  | nil => exact cons_ne_nil _ _
  | cons c rest =>
    rw [splitAtChar]
    split
    · exact cons_ne_nil _ _
    · split <;> exact cons_ne_nil _ _

theorem splitAtChar_of_notMem {separator : Char} {cs : List Char} (h : separator ∉ cs) :
    splitAtChar separator cs = [cs] := by
  induction cs with
  | nil => rfl
  | cons c rest ih =>
    obtain ⟨hc, hrest⟩ := not_or.mp (mt mem_cons.mpr h)
    rw [splitAtChar, if_neg (Ne.symm hc), ih hrest]

theorem splitAtChar_append (separator : Char) (start rest : List Char) :
    splitAtChar separator (start ++ separator :: rest)
      = splitAtChar separator start ++ splitAtChar separator rest := by
  induction start with
  | nil => simp [splitAtChar]
  | cons c start ih =>
    rw [cons_append, splitAtChar, splitAtChar]
    split
    · rw [ih, cons_append]
    · rw [ih]
      -- the first part grows, and there is a first part
      cases hparts : splitAtChar separator start with
      | nil => exact absurd hparts (splitAtChar_ne_nil separator start)
      | cons part parts => rfl

theorem splitSlashes_append_slash (start rest : String) :
    splitSlashes (start ++ "/" ++ rest) = splitSlashes start ++ splitSlashes rest := by
  have htext : (start ++ "/" ++ rest).toList = start.toList ++ '/' :: rest.toList := by simp
  rw [splitSlashes, htext, splitAtChar_append, map_append, splitSlashes, splitSlashes]

theorem splitSlashes_of_notMem {text : String} (h : '/' ∉ text.toList) :
    splitSlashes text = [text] := by
  rw [splitSlashes, splitAtChar_of_notMem h, map_singleton, String.ofList_toList]

/-- Names joined by slashes are split into the names. -/
theorem splitSlashes_intercalate {names : List String} (hne : names ≠ [])
    (h : ∀ name ∈ names, '/' ∉ name.toList) : splitSlashes ("/".intercalate names) = names := by
  induction names with
  | nil => exact absurd rfl hne
  | cons name rest ih =>
    obtain ⟨hname, hrest⟩ := forall_mem_cons.mp h
    cases rest with
    | nil => rw [String.intercalate_singleton, splitSlashes_of_notMem hname]
    | cons next rest =>
      rw [String.intercalate_cons_cons, splitSlashes_append_slash, splitSlashes_of_notMem hname,
        ih (cons_ne_nil _ _) hrest, singleton_append]

/-! ## Texts of locations -/

theorem splitSlashes_text (location : Location) (h : ∀ name ∈ location, IsName name) :
    splitSlashes (Location.text location) = "" :: if location = [] then [""] else location := by
  have hslash : Location.text location = "" ++ "/" ++ "/".intercalate location := by
    rw [String.empty_append, Location.text]
  rw [hslash, splitSlashes_append_slash]
  split
  · rename_i hnil
    subst hnil
    rfl
  · rename_i hne
    rw [splitSlashes_intercalate hne fun name hname => (h name hname).2.2.2]
    rfl

/-- The names of a location are the parts of its text that are not empty. -/
theorem filter_splitSlashes_text {location : Location} (h : ∀ name ∈ location, IsName name) :
    (splitSlashes (Location.text location)).filter (· ≠ "") = location := by
  rw [splitSlashes_text location h]
  split
  · rename_i hnil
    subst hnil
    rfl
  · rw [filter_cons_of_neg (by simp), filter_eq_self]
    exact fun name hname => decide_eq_true (h name hname).1

/-- The text of a location leads to the location. -/
theorem Path.parts_ofString_text {location : Location} (h : ∀ name ∈ location, IsName name) :
    (Path.ofString (Location.text location)).parts = location := by
  have hdots : location.filter (fun part => part ≠ ".") = location := by
    rw [filter_eq_self]
    exact fun name hname => decide_eq_true (h name hname).2.1
  calc (Path.ofString (Location.text location)).parts
      = ((splitSlashes (Location.text location)).filter (· ≠ "")).filter (· ≠ ".") := by
        rw [filter_filter, Path.ofString]
        exact filter_congr fun part _ => Bool.and_comm _ _
    _ = location := by rw [filter_splitSlashes_text h, hdots]

/-! ## Paths below a path -/

/-- The path that leads on from a path by some names. -/
def Path.below (path : Path) (names : List String) : Path :=
  { path with parts := path.parts ++ names }

theorem Path.below_below (path : Path) (names more : List String) :
    (path.below names).below more = path.below (names ++ more) := by
  rw [Path.below, Path.below, Path.below, append_assoc]

theorem Path.ofString_of_isName {name : String} (h : IsName name) :
    Path.ofString name = ⟨false, [name]⟩ := by
  obtain ⟨hempty, hdot, -, hslash⟩ := h
  have hhead : name.toList.head? ≠ some '/' := fun hhead => hslash (mem_of_mem_head? hhead)
  rw [Path.ofString, splitSlashes_of_notMem hslash, filter_cons_of_pos (by simp [hempty, hdot]),
    filter_nil, decide_eq_false hhead]

/-- A name leads on by itself. -/
theorem Path.child_of_isName (path : Path) {name : String} (h : IsName name) :
    path.child name = path.below [name] := by
  rw [Path.child, Path.ofString_of_isName h, Path.append, if_neg (by simp)]
  rfl

/-! ## Names from a location to another -/

/-- What lies below a directory is seen from there by the rest of its names. -/
theorem relativeParts_append (directory location : Location) :
    relativeParts directory (directory ++ location) = location := by
  induction directory with
  | nil => cases location <;> rfl
  | cons name rest ih => rw [cons_append, relativeParts, if_pos rfl, ih]

/-- Names without double dots lead straight down. -/
theorem followNames_eq_append {names : List String} (h : ∀ name ∈ names, IsName name)
    (start : Location) : followNames start names = start ++ names := by
  induction names generalizing start with
  | nil => rw [followNames, append_nil]
  | cons name rest ih =>
    obtain ⟨hname, hrest⟩ := forall_mem_cons.mp h
    rw [followNames, ih hrest, append_assoc, singleton_append]
    exact hname.2.2.1

end RobotKit.Files
