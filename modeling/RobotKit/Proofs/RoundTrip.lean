import RobotKit.Proofs.Literals
import RobotKit.Proofs.Documents

/-!
# Written documents read back

Reading a line moves a document on, whatever follows the line: `Moves` says so of a piece of text,
and pieces are put together. From this follows what a written table does to a document that is at
work where the table belongs. A document reads back with its values as they are, in every table
first the plain entries and then those with headers of their own (`settle`).
-/

namespace RobotKit.Config

open List Reader

variable {key : Key} {entries : Entries} {name : String} {value : Value} {items : List Value}
  {text : List Char}

/-! ## Lines -/

/-- Reading the text takes the document from one state to another, whatever follows. -/
structure Moves (text : List Char) (d d' : Document) : Prop where
  noReturn : '\r' ∉ text
  run : ∀ {rest : List Char} {fuel : Nat}, (text ++ rest).length < fuel → ∃ fuel', rest.length < fuel' ∧
    (statements fuel d).run (text ++ rest) = (statements fuel' d').run rest

variable {d d' d'' : Document}

theorem moves_nil (d : Document) : Moves [] d d := ⟨not_mem_nil, fun hfuel => ⟨_, hfuel, rfl⟩⟩

theorem Moves.append {text text' : List Char} (h : Moves text d d') (h' : Moves text' d' d'') :
    Moves (text ++ text') d d'' where
  noReturn := by
    rw [mem_append]
    exact not_or.mpr ⟨h.noReturn, h'.noReturn⟩
  run := by
    intro rest fuel hfuel
    rw [append_assoc] at hfuel ⊢
    obtain ⟨fuel', hfuel', hrun⟩ := h.run hfuel
    obtain ⟨fuel'', hfuel'', hrun'⟩ := h'.run hfuel'
    exact ⟨fuel'', hfuel'', hrun.trans hrun'⟩

/-- A blank line. -/
theorem moves_blank (d : Document) : Moves ['\n'] d d where
  noReturn := by decide
  run := by
    intro rest fuel hfuel
    obtain ⟨fuel, rfl⟩ : ∃ n, fuel = n + 1 := ⟨fuel - 1, by omega⟩
    refine ⟨fuel, ?_, rfl⟩
    rw [length_append, length_singleton] at hfuel
    omega

/-- A line with a statement. -/
theorem moves_statement {first : Char} {tail : List Char} (hblank : isLineBlank first = false)
    (hend : first ≠ '\n') (hreturn : '\r' ∉ first :: tail)
    (h : ∀ rest, (statement first d).run (first :: tail ++ '\n' :: rest) = .ok (d', '\n' :: rest)) :
    Moves (first :: tail ++ ['\n']) d d' where
  noReturn := by
    rw [mem_append, mem_singleton]
    exact not_or.mpr ⟨hreturn, by decide⟩
  run := by
    intro rest fuel hfuel
    have hskip : (first :: tail ++ '\n' :: rest).dropWhile isLineBlank = first :: tail ++ '\n' :: rest :=
      dropWhile_cons_of_neg (by rw [hblank]; exact Bool.false_ne_true)
    obtain ⟨fuel, rfl⟩ : ∃ n, fuel = n + 1 := ⟨fuel - 1, by omega⟩
    rw [append_assoc, singleton_append] at hfuel ⊢
    refine ⟨fuel, ?_, ?_⟩
    · rw [length_append, length_cons, length_cons] at hfuel
      omega
    · rw [statements, run_bind_of_ok (run_skip _), hskip, run_bind_of_ok run_get]
      split
      case h_1 heq => exact absurd heq (cons_ne_nil _ _)
      case h_2 heq => exact absurd (List.cons.inj heq).1 hend
      case h_3 other _ _ heq =>
        rw [← (List.cons.inj heq).1, run_bind_of_ok (h rest), run_bind_of_ok (run_skip _)]
        rfl

/-- The first character of a key. -/
theorem head_keyChars (hkey : key ≠ []) :
    ∃ c tail, keyChars key = c :: tail ∧ (isBareKey c = true ∨ c = '"') := by
  obtain ⟨name, names, rfl⟩ := exists_cons_of_ne_nil hkey
  obtain ⟨c, tail, hname, hc⟩ := head_keyText name
  exact ⟨c, _, by rw [keyChars_cons, hname, cons_append], hc⟩

theorem return_notMem_keyChars (key : Key) : '\r' ∉ keyChars key := by
  cases key with
  | nil => exact not_mem_nil
  | cons name names =>
    rw [keyChars_cons, mem_append, mem_flatMap]
    rintro (h | ⟨other, -, h⟩)
    · exact return_notMem_keyText name h
    · rcases mem_cons.mp h with h | h
      · exact absurd h (by decide)
      · exact return_notMem_keyText other h

/-- A key between brackets. -/
theorem run_keyOf_header (hkey : key ≠ []) (rest : List Char) :
    keyOf.run (keyChars key ++ ']' :: rest) = .ok (key, ']' :: rest) := by
  have hblank : (']' :: rest).dropWhile isLineBlank = ']' :: rest :=
    dropWhile_cons_of_neg (by decide)
  have hend : EndsKey (']' :: rest) := fun c hc => by rw [← Option.mem_some_iff.mp hc]; rfl
  have hrun := run_keyOf hkey hend (by simp [hblank])
  rwa [hblank] at hrun

theorem dropWhile_keyChars (hkey : key ≠ []) (rest : List Char) :
    (keyChars key ++ rest).dropWhile isLineBlank = keyChars key ++ rest := by
  obtain ⟨c, tail, hchars, hc⟩ := head_keyChars hkey
  rw [hchars, cons_append,
    dropWhile_cons_of_neg (by rw [not_isLineBlank_of_key hc]; exact Bool.false_ne_true)]

/-- The header of a table. -/
theorem moves_header (hkey : key ≠ []) (h : d.openTable key = .ok d') :
    Moves ('[' :: (keyChars key ++ [']']) ++ ['\n']) d d' := by
  refine moves_statement rfl (by decide) ?_ fun rest => ?_
  · rw [mem_cons, mem_append]
    exact not_or.mpr ⟨by decide, not_or.mpr ⟨return_notMem_keyChars key, by decide⟩⟩
  · have hsingle : ¬ "[[".toList <+: '[' :: (keyChars key ++ [']']) ++ '\n' :: rest := by
      obtain ⟨c, tail, hchars, hc⟩ := head_keyChars hkey
      rw [hchars]
      intro hp
      have hbracket := (cons_prefix_cons.mp (cons_prefix_cons.mp hp).2).1
      rw [← hbracket] at hc
      exact absurd hc (by decide)
    rw [statement, if_pos rfl, run_bind_of_ok (run_takeText_of_not hsingle), if_neg Bool.false_ne_true,
      run_bind_of_ok (run_modify _), run_bind_of_ok (run_skip _), cons_append, drop_one,
      tail_cons, append_assoc, dropWhile_keyChars hkey, singleton_append,
      run_bind_of_ok (run_keyOf_header hkey _), h, lift, run_bind_of_ok (run_pure _),
      run_bind_of_ok (run_takeText_cons rfl _)]
    rfl

/-- The header of a table of a list. -/
theorem moves_listHeader (hkey : key ≠ []) (h : d.openListTable key = .ok d') :
    Moves ('[' :: ('[' :: (keyChars key ++ [']', ']'])) ++ ['\n']) d d' := by
  refine moves_statement rfl (by decide) ?_ fun rest => ?_
  · rw [mem_cons, mem_cons, mem_append]
    exact not_or.mpr ⟨by decide, not_or.mpr ⟨by decide, not_or.mpr ⟨return_notMem_keyChars key, by decide⟩⟩⟩
  · have hstart : '[' :: ('[' :: (keyChars key ++ [']', ']'])) ++ '\n' :: rest =
        "[[".toList ++ (keyChars key ++ ']' :: ("]".toList ++ '\n' :: rest)) := by
      simp
    have hclose : ']' :: ("]".toList ++ '\n' :: rest) = "]]".toList ++ '\n' :: rest := rfl
    rw [hstart, statement, if_pos rfl, run_bind_of_ok (run_takeText _ _), if_pos rfl,
      run_bind_of_ok (run_skip _), dropWhile_keyChars hkey, run_bind_of_ok (run_keyOf_header hkey _), h,
      lift, run_bind_of_ok (run_pure _), hclose, run_bind_of_ok (run_takeText _ _)]
    rfl

/-- A plain entry. -/
theorem moves_entry (h : ReadsBack value text) (hset : d.set [name] value = .ok d') :
    Moves (entryChars name text ++ ['\n']) d d' := by
  obtain ⟨c, tail, hname, hc⟩ := head_keyText name
  have hchars : entryChars name text = c :: (tail ++ (' ' :: '=' :: ' ' :: text)) := by
    rw [entryChars, hname, cons_append]
  have hreturn := return_notMem_entryChars name h
  have hblank := not_isLineBlank_of_key hc
  have hbracket : c ≠ '[' := by
    rintro rfl
    exact absurd hc (by decide)
  have hend : c ≠ '\n' := by
    rintro rfl
    exact absurd hc (by decide)
  have hkey : (isBareKey c || decide (c = '"') || decide (c = '\'')) = true := by
    rcases hc with hc | rfl
    · rw [hc, Bool.true_or, Bool.true_or]
    · rfl
  rw [hchars] at hreturn ⊢
  refine moves_statement hblank hend hreturn fun rest => ?_
  have hline : c :: (tail ++ (' ' :: '=' :: ' ' :: text)) ++ '\n' :: rest =
      (keyText name).toList ++ (' ' :: '=' :: ' ' :: (text ++ '\n' :: rest)) := by
    rw [hname]
    simp
  rw [hline, statement, if_neg hbracket, if_pos hkey, run_bind_of_ok (run_keyOf_entry name _),
    run_bind_of_ok (run_takeText_cons rfl _), Bool.not_true, if_neg Bool.false_ne_true]
  refine (run_bind_of_ok (run_skip _)).trans ?_
  rw [h.dropWhile_isLineBlank, run_bind_of_ok run_get]
  have hfuel : text.length ≤ 2 * (text ++ '\n' :: rest).length + 1 := by
    rw [length_append]
    omega
  have hvalue := h.run hfuel (.line rest)
  rw [run_bind_of_ok hvalue, hset]
  rfl

/-! ## What is read back -/

/-- Is the value written under headers of its own? -/
def isHeader (value : Value) : Bool :=
  match hasHeader value with
  | .ok mark => mark
  | .error _ => false

/-- The plain entries of a table. -/
def plainEntries (entries : Entries) : Entries := entries.filter fun entry => !isHeader entry.2

mutual

/-- The value as it is read back: in every table with a header, the plain entries come first. -/
def settle : Value → Value
  | .table entries => .table (plainEntries entries ++ settleHeaders entries)
  | .list items => if isHeader (.list items) then .list (settleItems items) else .list items
  | .text value => .text value
  | .integer value => .integer value
  | .decimal value => .decimal value
  | .flag value => .flag value
  | .moment value => .moment value

/-- The entries with headers as they are read back. -/
def settleHeaders : List (String × Value) → List (String × Value)
  | [] => []
  | (name, value) :: rest =>
    if isHeader value then (name, settle value) :: settleHeaders rest else settleHeaders rest

/-- The tables of a list as they are read back. -/
def settleItems : List Value → List Value
  | [] => []
  | value :: rest => settle value :: settleItems rest

end

/-- A document as it is read back. -/
def settleEntries (entries : Entries) : Entries := plainEntries entries ++ settleHeaders entries

/-! ## What is written -/

theorem Written.then_eq {a b : Written} (h : (a.then b).error = none) :
    a.error = none ∧ b.error = none ∧ (a.then b).text = a.text ++ b.text := by
  rw [Written.then] at h ⊢
  split at h
  case isTrue hsome => rw [h] at hsome; exact absurd hsome (by decide)
  case isFalse hnone =>
    rw [if_neg hnone]
    exact ⟨by simpa using hnone, h, rfl⟩

theorem plainLines_cons {rest : Entries} (h : (plainLines ((name, value) :: rest)).error = none) :
    ∃ text, literal 0 value = .ok text ∧ (plainLines rest).error = none ∧
      (plainLines ((name, value) :: rest)).text.toList =
        (entryChars name text.toList ++ ['\n']) ++ (plainLines rest).text.toList := by
  rw [plainLines] at h ⊢
  obtain ⟨hline, hrest, htext⟩ := Written.then_eq h
  rw [htext, String.toList_append]
  cases hliteral : literal 0 value with
  | error e =>
    rw [hliteral] at hline
    exact absurd hline (by simp [Written.ofExcept, bind, Except.bind])
  | ok text =>
    refine ⟨text, rfl, hrest, congrArg (· ++ _) ?_⟩
    change (keyText name ++ " = " ++ text ++ "\n").toList = _
    simp only [String.toList_append, entryChars, append_assoc]
    rfl

theorem marks_eq {marks : List (String × Bool)}
    (h : (entries.mapM fun (key, value) => do return (key, ← hasHeader value)) = Except.ok marks) :
    marks = entries.map fun entry => (entry.1, isHeader entry.2) := by
  induction entries generalizing marks with
  | nil =>
    rw [mapM_nil] at h
    exact (Except.ok.inj h).symm
  | cons entry entries ih =>
    rw [mapM_cons] at h
    obtain ⟨mark, hmark, h⟩ := exists_of_bind_eq_ok h
    obtain ⟨rest, hrest, h⟩ := exists_of_bind_eq_ok h
    obtain ⟨header, hheader, hmark⟩ := exists_of_bind_eq_ok hmark
    have hvalue : isHeader entry.2 = header := by rw [isHeader, hheader]
    rw [← Except.ok.inj h, ← Except.ok.inj hmark, ih hrest, map_cons, hvalue]

theorem filterMap_marks (entries : Entries) :
    ((entries.zip (entries.map fun entry => (entry.1, isHeader entry.2))).filterMap
      fun pair => if pair.2.2 then none else some pair.1) = plainEntries entries := by
  rw [plainEntries]
  induction entries with
  | nil => rfl
  | cons entry entries ih =>
    rw [map_cons, zip_cons_cons, filterMap_cons, filter_cons]
    cases hheader : isHeader entry.2 with
    | true => simpa [hheader] using ih
    | false => simpa [hheader] using ih

/-- What follows the header of a table. -/
def writtenBody (name : String) (started : Bool) (entries : Entries) : Written :=
  (plainLines (plainEntries entries)).then (writeSubtables name started entries)

/-- The header of a table. -/
def headerText (name : String) (inList : Bool) (entries : Entries) : String :=
  if inList then "[[" ++ name ++ "]]\n"
  else if name ≠ "" && (!(plainEntries entries).isEmpty || !entries.any fun entry => isHeader entry.2) then
    "[" ++ name ++ "]\n"
  else ""

theorem writeTable_eq {inList : Bool} (h : (writeTable name inList (.table entries)).error = none) :
    ∃ started, (writtenBody name started entries).error = none ∧
      (writeTable name inList (.table entries)).text =
        headerText name inList entries ++ (writtenBody name started entries).text := by
  rw [writeTable] at h ⊢
  dsimp only at h ⊢
  split at h
  case h_1 => exact absurd h (by simp)
  case h_2 marks hmarks =>
    obtain rfl := marks_eq hmarks
    rw [filterMap_marks] at h ⊢
    obtain ⟨-, hbody, htext⟩ := Written.then_eq h
    refine ⟨_, hbody, ?_⟩
    rw [htext, any_map]
    rfl

/-! ## Written tables move a document on -/

/-- Reading the text turns the table at work from `inner` into `inner'`, and it is there afterwards
unless it was missing and is still empty. -/
structure Turns (text : List Char) (frames : List Frame) (d : Document) (inner : Entries)
    (d' : Document) (inner' : Entries) : Prop where
  moves : Moves text d d'
  isAt : d'.At frames inner'
  entries : d.entries = plug frames inner ∨ inner' ≠ inner → d'.entries = plug frames inner'
  grew : d.Grew (keyAt frames) d'

variable {frames : List Frame} {inner inner' inner'' : Entries} {text text' : List Char}

theorem turns_nil (h : d.At frames inner) : Turns [] frames d inner d inner where
  moves := moves_nil d
  isAt := h
  entries := fun h => h.resolve_right fun hne => hne rfl
  grew := .refl d _

theorem Turns.append (h : Turns text frames d inner d' inner')
    (h' : Turns text' frames d' inner' d'' inner'') :
    Turns (text ++ text') frames d inner d'' inner'' where
  moves := h.moves.append h'.moves
  isAt := h'.isAt
  entries := by
    intro hor
    by_cases hsame : inner' = inner
    · subst hsame
      exact h'.entries (hor.imp_left fun hentries => h.entries (.inl hentries))
    · exact h'.entries (.inl (h.entries (.inr hsame)))
  grew := h.grew.trans h'.grew

/-- A blank line before all but the first thing that is written. -/
theorem moves_separator (started : Bool) (d : Document) :
    Moves (Written.whole (if started then "\n" else "")).text.toList d d := by
  cases started with
  | true => exact moves_blank d
  | false => exact moves_nil d

/-- The plain entries of a table. -/
theorem exists_turns_plainLines {plain : Entries} (hreadable : entriesReadable plain)
    (herror : (plainLines plain).error = none) (h : d.At frames inner)
    (hheader : plain ≠ [] → d.header = keyAt frames) (hnodup : (plain.map (·.1)).Nodup)
    (hnew : ∀ name ∈ plain.map (·.1), name ∉ inner.map (·.1)) :
    ∃ d', Turns (plainLines plain).text.toList frames d inner d' (inner ++ plain) := by
  induction plain generalizing d inner with
  | nil =>
    rw [append_nil]
    exact ⟨d, turns_nil h⟩
  | cons entry plain ih =>
    obtain ⟨name, value⟩ := entry
    rw [entriesReadable] at hreadable
    obtain ⟨line, hline, hrest, htext⟩ := plainLines_cons herror
    have hback := readsBack_literal value 0 hreadable.1 hline
    obtain ⟨d₁, hset, hheader₁, hat₁, hentries₁, hgrew₁⟩ :=
      h.set (hheader (cons_ne_nil _ _)) (hnew name mem_cons_self) value
    rw [map_cons, nodup_cons] at hnodup
    have hnew₁ : ∀ other ∈ plain.map (·.1), other ∉ (inner ++ [(name, value)]).map (·.1) := by
      intro other hother hmem
      rw [map_append, mem_append] at hmem
      rcases hmem with hmem | hmem
      · exact hnew other (mem_cons_of_mem _ hother) hmem
      · rw [mem_singleton.mp hmem] at hother
        exact hnodup.1 hother
    obtain ⟨d₂, hturns⟩ := ih hreadable.2 hrest hat₁ (fun _ => hheader₁) hnodup.2 hnew₁
    have hfirst : Turns (entryChars name line.toList ++ ['\n']) frames d inner d₁
        (inner ++ [(name, value)]) :=
      ⟨moves_entry hback hset, hat₁, fun _ => hentries₁, hgrew₁⟩
    have hboth := hfirst.append hturns
    rw [append_assoc inner, singleton_append] at hboth
    rw [htext]
    exact ⟨d₂, hboth⟩

/-! ### Names of subtables -/

theorem keyChars_append (hkey : key ≠ []) (name : String) :
    keyChars (key ++ [name]) = keyChars key ++ '.' :: (keyText name).toList := by
  obtain ⟨first, names, rfl⟩ := exists_cons_of_ne_nil hkey
  rw [cons_append, keyChars_cons, keyChars_cons, flatMap_append, append_assoc]
  simp

theorem eq_empty_iff_keyChars (h : name.toList = keyChars key) :
    name = "" ↔ key = [] := by
  constructor
  · rintro rfl
    by_contra hkey
    obtain ⟨c, tail, hchars, -⟩ := head_keyChars hkey
    rw [hchars] at h
    exact absurd h (cons_ne_nil _ _).symm
  · rintro rfl
    exact String.toList_inj.mp h

theorem toList_subtableName (h : name.toList = keyChars key) (part : String) :
    (subtableName name part).toList = keyChars (key ++ [part]) := by
  rw [subtableName]
  split
  case isTrue hempty =>
    rw [(eq_empty_iff_keyChars h).mp hempty, nil_append, keyChars_singleton]
  case isFalse hne =>
    rw [keyChars_append fun hkey => hne ((eq_empty_iff_keyChars h).mpr hkey), String.toList_append,
      String.toList_append, h, append_assoc]
    rfl

/-! ### Tables -/

/-- What follows the header of a table reads back, wherever the table belongs. -/
def BodyTurns (entries : Entries) : Prop :=
  ∀ (name : String) (started : Bool) {frames : List Frame} {d : Document},
    name.toList = keyChars (keyAt frames) → d.At frames [] →
    (plainEntries entries ≠ [] → d.header = keyAt frames) →
    (writtenBody name started entries).error = none →
    ∃ d', Turns (writtenBody name started entries).text.toList frames d [] d' (settleEntries entries)

theorem settleHeaders_ne_nil (h : (entries.any fun entry => isHeader entry.2) = true) :
    settleHeaders entries ≠ [] := by
  induction entries with
  | nil => exact absurd h (by decide)
  | cons entry entries ih =>
    obtain ⟨name, value⟩ := entry
    rw [settleHeaders]
    split
    case isTrue => exact cons_ne_nil _ _
    case isFalse hvalue =>
      rw [any_cons, Bool.or_eq_true] at h
      exact ih (h.resolve_left hvalue)

/-- What a text makes of a document that it leaves at work in one more frame. -/
structure Enters (text : List Char) (frames : List Frame) (d : Document) (f : Frame) (d' : Document)
    (inner : Entries) : Prop where
  moves : Moves text d d'
  isAt : d'.At (frames ++ [f]) inner
  entries : d'.entries = plug (frames ++ [f]) inner
  grew : d.Grew (keyAt frames ++ [f.name]) d'

theorem Enters.leave {text : List Char} {d' : Document} {f : Frame}
    (h : Enters text frames d f d' inner) (hat : d.At frames f.before) :
    Turns text frames d f.before d' (f.close inner) where
  moves := h.moves
  isAt := hat.leave h.isAt h.entries h.grew
  entries _ := by rw [h.entries, plug_append]
  grew := h.grew.above (prefix_append _ _)

/-- What follows a header that starts a table. -/
theorem BodyTurns.exists_enters (hbody : BodyTurns entries) {name : String} {header : List Char}
    {f : Frame} {d₁ : Document} {started : Bool}
    (hname : name.toList = keyChars (keyAt frames ++ [f.name])) (hmoves : Moves header d d₁)
    (hstarts : d.Starts frames f d₁) (herror : (writtenBody name started entries).error = none) :
    ∃ d', Enters (header ++ (writtenBody name started entries).text.toList) frames d f d'
      (settleEntries entries) := by
  have hkey : keyAt (frames ++ [f]) = keyAt frames ++ [f.name] := keyAt_append _ _
  obtain ⟨d', hturns⟩ := hbody name started (hname.trans (by rw [hkey])) hstarts.isAt
    (fun _ => hstarts.header.trans hkey.symm) herror
  have hgrew := hturns.grew
  rw [hkey] at hgrew
  exact ⟨d', hmoves.append hturns.moves, hturns.isAt, hturns.entries (.inl hstarts.entries),
    hstarts.grew.trans hgrew⟩

/-- A table inside another, with its header if it needs one. -/
theorem BodyTurns.exists_turns_table (hbody : BodyTurns entries) {name part : String}
    (hname : name.toList = keyChars (keyAt frames ++ [part])) (h : d.At frames inner)
    (hnew : part ∉ inner.map (·.1))
    (herror : (writeTable name false (.table entries)).error = none) :
    ∃ d', Turns (writeTable name false (.table entries)).text.toList frames d inner d'
      (inner ++ [(part, .table (settleEntries entries))]) := by
  have hkey : keyAt (frames ++ [⟨inner, part, none⟩]) = keyAt frames ++ [part] := keyAt_append _ _
  have hne : name ≠ "" := fun hempty =>
    append_ne_nil_of_right_ne_nil _ (cons_ne_nil _ _) ((eq_empty_iff_keyChars hname).mp hempty)
  obtain ⟨started, hstarted, htext⟩ := writeTable_eq herror
  rw [htext, String.toList_append, headerText, if_neg Bool.false_ne_true]
  split
  case isTrue =>
    -- the header makes the table, so it is there whatever follows
    obtain ⟨d₁, hopen, hstarts⟩ := h.openTable hnew
    obtain ⟨d₂, henters⟩ :=
      hbody.exists_enters hname (moves_header (by simp) hopen) hstarts hstarted
    have hheader : ("[" ++ name ++ "]\n").toList
        = '[' :: (keyChars (keyAt frames ++ [part]) ++ [']']) ++ ['\n'] := by
      simp only [String.toList_append, hname, cons_append, append_assoc]
      rfl
    rw [hheader]
    exact ⟨d₂, henters.leave h⟩
  case isFalse hheader =>
    -- without a header there are only subtables, and the first of them makes the table
    rw [Bool.and_eq_true, decide_eq_true_eq, not_and, Bool.or_eq_true, not_or, Bool.not_eq_true',
      Bool.not_eq_true', Bool.not_eq_false, Bool.not_eq_false] at hheader
    obtain ⟨hplain, htables⟩ := hheader hne
    have hempty : plainEntries entries = [] := List.isEmpty_iff.mp hplain
    have hsettled : settleEntries entries ≠ [] := by
      rw [settleEntries, hempty, nil_append]
      exact settleHeaders_ne_nil htables
    obtain ⟨d₂, hturns⟩ := hbody name started (hname.trans (by rw [hkey])) (h.enter hnew)
      (fun hne => absurd hempty hne) hstarted
    have hgrew := hturns.grew
    rw [hkey] at hgrew
    have henters : Enters _ frames d ⟨inner, part, none⟩ d₂ (settleEntries entries) :=
      ⟨hturns.moves, hturns.isAt, hturns.entries (.inr hsettled), hgrew⟩
    exact ⟨d₂, henters.leave h⟩

/-- One table of a list. -/
theorem BodyTurns.exists_enters_list {entries before : Entries} (hbody : BodyTurns entries)
    {name part : String} (hname : name.toList = keyChars (keyAt frames ++ [part]))
    (hopen : ∃ d₁, d.openListTable (keyAt frames ++ [part]) = .ok d₁
      ∧ d.Starts frames ⟨before, part, some items⟩ d₁)
    (herror : (writeTable name true (.table entries)).error = none) :
    ∃ d', Enters (writeTable name true (.table entries)).text.toList frames d
      ⟨before, part, some items⟩ d' (settleEntries entries) := by
  obtain ⟨started, hstarted, htext⟩ := writeTable_eq herror
  obtain ⟨d₁, hopened, hstarts⟩ := hopen
  have hheader : ("[[" ++ name ++ "]]\n").toList =
      '[' :: ('[' :: (keyChars (keyAt frames ++ [part]) ++ [']', ']'])) ++ ['\n'] := by
    simp only [String.toList_append, hname, cons_append, append_assoc]
    rfl
  rw [htext, String.toList_append, headerText, if_pos rfl, hheader]
  exact hbody.exists_enters hname (moves_listHeader (by simp) hopened) hstarts hstarted

/-- An entry without headers is none of the subtables. -/
theorem writeSubtables_of_not (h : isHeader value = false) (name part : String) (started : Bool)
    (rest : Entries) :
    writeSubtables name started ((part, value) :: rest) = writeSubtables name started rest := by
  cases value with
  | table entries =>
    have hheader : isHeader (.table entries) = true := rfl
    exact absurd (hheader.symm.trans h) (by decide)
  | list items =>
    rw [writeSubtables]
    split
    case h_1 hok =>
      rw [isHeader, hok] at h
      exact absurd h (by decide)
    case h_2 => rfl
  | _ => rw [writeSubtables] <;> simp

theorem isHeader_list (h : isHeader (.list items) = true) :
    hasHeader (.list items) = .ok true ∧ items ≠ [] ∧ ∀ item ∈ items, ∃ entries, item = .table entries := by
  have hok : hasHeader (.list items) = .ok true := by
    rw [isHeader] at h
    split at h
    · rename_i mark hmark
      rw [hmark, h]
    · exact absurd h (by decide)
  refine ⟨hok, ?_⟩
  rw [hasHeader] at hok
  cases hlist : isTableList items with
  | false => rw [hlist] at hok; exact absurd hok (by simp)
  | true =>
    cases items with
    | nil => exact absurd hlist (by decide)
    | cons first rest =>
      refine ⟨cons_ne_nil _ _, fun item hitem => ?_⟩
      rw [isTableList] at hlist
      · have hsome := all_eq_true.mp hlist item hitem
        cases item with
        | table entries => exact ⟨entries, rfl⟩
        | _ => exact absurd hsome (by simp [Value.entries?])
      · exact cons_ne_nil _ _

mutual

/-- What follows the header of a table reads back. -/
theorem bodyTurns : ∀ (value : Value) {entries : Entries}, value.IsReadable → value = .table entries →
    BodyTurns entries
  | .table entries, _, hreadable, rfl => by
    intro name started frames d hname hat hheader herror
    rw [Value.IsReadable] at hreadable
    obtain ⟨hnodup, hreadable⟩ := hreadable
    rw [writtenBody] at herror ⊢
    obtain ⟨hplain, hsubtables, htext⟩ := Written.then_eq herror
    have hsub : (plainEntries entries).Sublist entries := filter_sublist
    have hplainReadable : entriesReadable (plainEntries entries) :=
      entriesReadable_iff.mpr fun entry hentry => entriesReadable_iff.mp hreadable entry (hsub.mem hentry)
    obtain ⟨d₁, hturns₁⟩ := exists_turns_plainLines hplainReadable hplain hat hheader
      (hnodup.sublist (hsub.map _)) fun _ _ => not_mem_nil
    rw [nil_append] at hturns₁
    -- a plain entry and one with a header have different names, since no name stands twice
    have hnew : ∀ entry ∈ entries, isHeader entry.2 = true →
        entry.1 ∉ (plainEntries entries).map (·.1) := by
      intro entry hentry hentryHeader hmem
      obtain ⟨other, hother, hsame⟩ := mem_map.mp hmem
      obtain ⟨hother, hotherPlain⟩ := mem_filter.mp hother
      rw [inj_on_of_nodup_map hnodup hother hentry hsame, hentryHeader] at hotherPlain
      exact absurd hotherPlain (by decide)
    obtain ⟨d₂, hturns₂⟩ :=
      exists_turns_subtables entries hname hturns₁.isAt hreadable hnodup hnew hsubtables
    rw [htext, String.toList_append]
    exact ⟨d₂, hturns₁.append hturns₂⟩

/-- The subtables among some entries of a table. -/
theorem exists_turns_subtables : ∀ (entries : List (String × Value)) {name : String} {started : Bool}
    {frames : List Frame} {d : Document} {inner : Entries}, name.toList = keyChars (keyAt frames) →
    d.At frames inner → entriesReadable entries → (entries.map (·.1)).Nodup →
    (∀ entry ∈ entries, isHeader entry.2 = true → entry.1 ∉ inner.map (·.1)) →
    (writeSubtables name started entries).error = none →
    ∃ d', Turns (writeSubtables name started entries).text.toList frames d inner d'
      (inner ++ settleHeaders entries)
  | [], name, started, frames, d, inner, _, hat, _, _, _, _ => by
    rw [settleHeaders, append_nil]
    exact ⟨d, turns_nil hat⟩
  | (part, value) :: rest, name, started, frames, d, inner, hname, hat, hreadable, hnodup, hnew,
    herror => by
    rw [entriesReadable] at hreadable
    rw [map_cons, nodup_cons] at hnodup
    have hsub := toList_subtableName hname part
    have hrest : ∀ entry ∈ rest, isHeader entry.2 = true → entry.1 ∉ inner.map (·.1) :=
      fun entry hentry => hnew entry (mem_cons_of_mem _ hentry)
    -- the rest after an entry that was written, and after one that was not
    have hafter : ∀ {text : List Char} {d₁ : Document} {started' : Bool}, isHeader value = true →
        (writeSubtables name started' rest).error = none →
        Turns text frames d inner d₁ (inner ++ [(part, settle value)]) →
        ∃ d', Turns (text ++ (writeSubtables name started' rest).text.toList) frames d inner d'
          (inner ++ settleHeaders ((part, value) :: rest)) := by
      intro text d₁ started' hvalue herror' hturns
      have hnew' : ∀ entry ∈ rest, isHeader entry.2 = true →
          entry.1 ∉ (inner ++ [(part, settle value)]).map (·.1) := by
        intro entry hentry hentryHeader hmem
        rw [map_append, mem_append] at hmem
        rcases hmem with hmem | hmem
        · exact hrest entry hentry hentryHeader hmem
        · have hpart : entry.1 ∈ rest.map (·.1) := mem_map_of_mem hentry
          rw [mem_singleton.mp hmem] at hpart
          exact hnodup.1 hpart
      obtain ⟨d₂, hturns₂⟩ :=
        exists_turns_subtables rest hname hturns.isAt hreadable.2 hnodup.2 hnew' herror'
      rw [append_assoc, singleton_append] at hturns₂
      rw [settleHeaders, if_pos hvalue]
      exact ⟨d₂, hturns.append hturns₂⟩
    have hskipped : isHeader value = false →
        ∃ d', Turns (writeSubtables name started ((part, value) :: rest)).text.toList frames d inner d'
          (inner ++ settleHeaders ((part, value) :: rest)) := by
      intro hvalue
      rw [writeSubtables_of_not hvalue name part started rest] at herror ⊢
      rw [settleHeaders, hvalue, if_neg Bool.false_ne_true]
      exact exists_turns_subtables rest hname hat hreadable.2 hnodup.2 hrest herror
    have hpart : isHeader value = true → part ∉ inner.map (·.1) :=
      hnew (part, value) mem_cons_self
    cases value with
    | table entries =>
      rw [writeSubtables] at herror ⊢
      obtain ⟨-, herror, htext⟩ := Written.then_eq herror
      obtain ⟨htable, hrestError, htext'⟩ := Written.then_eq herror
      obtain ⟨d₁, hturns⟩ := (bodyTurns (.table entries) hreadable.1 rfl).exists_turns_table hsub hat
        (hpart rfl) htable
      rw [htext, htext', String.toList_append, String.toList_append, ← append_assoc]
      rw [settleEntries, ← settle] at hturns
      exact hafter rfl hrestError { hturns with moves := (moves_separator started d).append hturns.moves }
    | list items =>
      cases hheader : isHeader (.list items) with
      | true =>
        obtain ⟨hok, hne, htables⟩ := isHeader_list hheader
        rw [Value.IsReadable] at hreadable
        rw [writeSubtables, hok] at herror ⊢
        obtain ⟨hitems, hrestError, htext⟩ := Written.then_eq herror
        obtain ⟨d₁, done, last, henters, hdone⟩ := exists_enters_items items hne htables hreadable.1 _
          part started hsub (hat.openListTable (hpart hheader)) hitems
        rw [htext, String.toList_append]
        have hclose : Frame.close ⟨inner, part, some done⟩ last
            = inner ++ [(part, settle (.list items))] := by
          rw [settle, if_pos hheader, ← hdone.trans (nil_append _)]
          rfl
        have hturns := henters.leave hat
        rw [hclose] at hturns
        exact hafter hheader hrestError hturns
      | false => exact hskipped hheader
    | text value => exact hskipped rfl
    | integer value => exact hskipped rfl
    | decimal value => exact hskipped rfl
    | flag value => exact hskipped rfl
    | moment value => exact hskipped rfl

/-- The tables of a list. -/
theorem exists_enters_items : ∀ (tables : List Value), tables ≠ [] →
    (∀ table ∈ tables, ∃ entries, table = .table entries) → itemsReadable tables →
    ∀ (name part : String) (started : Bool) {frames : List Frame} {d : Document} {before : Entries}
      {items : List Value}, name.toList = keyChars (keyAt frames ++ [part]) →
    (∃ d₁, d.openListTable (keyAt frames ++ [part]) = .ok d₁ ∧
      d.Starts frames ⟨before, part, some items⟩ d₁) →
    (writeListTables name started tables).error = none →
    ∃ d' items' last, Enters (writeListTables name started tables).text.toList frames d
      ⟨before, part, some items'⟩ d' last ∧ items' ++ [.table last] = items ++ settleItems tables
  | [], hne, _, _ => absurd rfl hne
  | table :: rest, _, htables, hreadable => by
    intro name part started frames d before items hname hopen herror
    obtain ⟨entries, rfl⟩ := htables table mem_cons_self
    rw [itemsReadable] at hreadable
    rw [writeListTables] at herror ⊢
    obtain ⟨-, herror, htext⟩ := Written.then_eq herror
    obtain ⟨htable, hrest, htext'⟩ := Written.then_eq herror
    obtain ⟨d₁, hfirst⟩ :=
      (bodyTurns (.table entries) hreadable.1 rfl).exists_enters_list hname hopen htable
    rw [htext, htext', String.toList_append, String.toList_append, settleItems, settle, ← settleEntries]
    have hblank := moves_separator started d
    cases rest with
    | nil =>
      have hmoves := hblank.append (hfirst.moves.append (moves_nil d₁))
      exact ⟨d₁, _, _, { hfirst with moves := hmoves }, rfl⟩
    | cons next rest =>
      have htables' : ∀ table ∈ next :: rest, ∃ entries, table = .table entries :=
        fun table htable => htables table (mem_cons_of_mem _ htable)
      obtain ⟨d₂, items', last, hothers, hitems⟩ := exists_enters_items (next :: rest) (cons_ne_nil _ _)
        htables' hreadable.2 name part true hname (hfirst.isAt.openNextTable hfirst.entries) hrest
      exact ⟨d₂, items', last, ⟨hblank.append (hfirst.moves.append hothers.moves), hothers.isAt,
        hothers.entries, hfirst.grew.trans hothers.grew⟩, by rw [hitems, append_assoc]; rfl⟩

end

/-! ## Whole documents -/

theorem joinLineEnds_of_notMem (h : '\r' ∉ text) : joinLineEnds text = text := by
  induction text with
  | nil => rfl
  | cons c text ih =>
    rw [mem_cons, not_or] at h
    rw [joinLineEnds, ih h.2]
    rintro rest rfl
    exact absurd rfl h.1

/-- What the lines of a text make of the empty document is what is read. -/
theorem read_of_moves {text : String} {d : Document} (h : Moves text.toList .empty d) :
    read text = .ok d.entries := by
  have hlength : (text.toList ++ []).length < text.toList.length + 1 := by
    rw [append_nil]
    omega
  obtain ⟨fuel, hfuel, hrun⟩ := h.run hlength
  obtain ⟨fuel, rfl⟩ : ∃ n, fuel = n + 1 := ⟨fuel - 1, by omega⟩
  rw [append_nil] at hrun
  rw [read, joinLineEnds_of_notMem h.noReturn, hrun]
  rfl

/-- A document that is written in full reads back with its values as they are. -/
theorem read_write (hreadable : (Value.table entries).IsReadable)
    (herror : (write entries).error = none) :
    read (write entries).text = .ok (settleEntries entries) := by
  rw [write] at herror ⊢
  obtain ⟨started, hstarted, htext⟩ := writeTable_eq herror
  obtain ⟨d, hturns⟩ := bodyTurns _ hreadable rfl "" started rfl Document.at_empty (fun _ => rfl) hstarted
  have hentries : d.entries = settleEntries entries := hturns.entries (.inl rfl)
  have hchars : (writeTable "" false (.table entries)).text = (writtenBody "" started entries).text := by
    rw [htext]
    exact String.empty_append
  rw [hchars, read_of_moves hturns.moves, hentries]

end RobotKit.Config
