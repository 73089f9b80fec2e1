import RobotKit.Table

/-!
# Tables as finite maps

What each operation does to the value of a name: `get?` after `insert`, `update`, `map` and
`ofList`, and the names that a table holds. `HasKeys` says which names these are and that none of
them has two entries.
-/

namespace RobotKit.Table

open List

variable {name : String} {P : String → Prop}

variable {α β : Type}

@[simp] theorem get?_empty (name : String) : ({} : Table α).get? name = none := rfl

/-- An entry for another name does not count. -/
theorem lookup_cons_of_ne {name key : String} (h : name ≠ key) (v : α)
    (rest : List (String × α)) : ((key, v) :: rest).lookup name = rest.lookup name := by
  have hne : (name == key) = false := beq_eq_false_iff_ne.mpr h
  simp only [lookup_cons, hne]

theorem lookup_insertEntry (name other : String) (value : α) (entries : List (String × α)) :
    (insertEntry name value entries).lookup other
      = if other = name then some value else entries.lookup other := by
  induction entries <;> grind [insertEntry]

theorem mem_of_lookup {value : α} {entries : List (String × α)}
    (h : entries.lookup name = some value) : (name, value) ∈ entries := by
  obtain ⟨before, after, rfl, -⟩ := lookup_eq_some_iff.mp h
  exact mem_append_right _ mem_cons_self

theorem mem_of_mem_insertEntry {value : α} {entries : List (String × α)} {entry : String × α}
    (h : entry ∈ insertEntry name value entries) :
    entry = (name, value) ∨ entry ∈ entries := by
  induction entries <;> grind [insertEntry]

theorem lookup_eq_none_iff_notMem {entries : List (String × α)} :
    entries.lookup name = none ↔ name ∉ entries.map (·.1) := by
  rw [lookup_eq_none_iff, mem_map, not_exists]
  refine forall_congr' fun entry => ?_
  rw [bne_iff_ne, not_and]
  exact imp_congr_right fun _ => ne_comm

/-- A new name goes to the end. -/
theorem insertEntry_of_notMem {entries : List (String × α)} (h : name ∉ entries.map (·.1))
    (value : α) :
    insertEntry name value entries = entries ++ [(name, value)] := by
  induction entries <;> grind [insertEntry]

/-- To set a name to its value changes nothing. -/
theorem insertEntry_of_lookup {value : α} {entries : List (String × α)}
    (h : entries.lookup name = some value) : insertEntry name value entries = entries := by
  induction entries <;> grind [insertEntry]

/-- The last entry is replaced where it stands. -/
theorem insertEntry_last {entries : List (String × α)} (h : name ∉ entries.map (·.1))
    (old value : α) :
    insertEntry name value (entries ++ [(name, old)]) = entries ++ [(name, value)] := by
  induction entries <;> grind [insertEntry]

theorem lookup_last {entries : List (String × α)} (h : name ∉ entries.map (·.1)) (value : α) :
    (entries ++ [(name, value)]).lookup name = some value := by
  rw [← insertEntry_of_notMem h, lookup_insertEntry, if_pos rfl]

@[simp] theorem get?_insert (t : Table α) (name other : String) (value : α) :
    (t.insert name value).get? other = if other = name then some value else t.get? other :=
  lookup_insertEntry name other value t.entries

@[simp] theorem get?_update (t : Table α) (name other : String) (initial : α) (f : α → α) :
    (t.update name initial f).get? other
      = if other = name then some (f ((t.get? name).getD initial)) else t.get? other :=
  get?_insert t name other _

@[simp] theorem get?_map (f : α → β) (t : Table α) (name : String) :
    (t.map f).get? name = (t.get? name).map f := by
  obtain ⟨entries⟩ := t
  induction entries <;> grind [Table.map, get?]

/-- When every value is replaced by one that depends on its name alone, the names stay. -/
theorem get?_replace (f : String → β) (t : Table α) (name : String) :
    (Table.mk (t.entries.map fun entry => (entry.1, f entry.1))).get? name
      = (t.get? name).map fun _ => f name := by
  obtain ⟨entries⟩ := t
  induction entries <;> grind [get?]

/-- A table made from a list holds the last value that the list has for a name. -/
theorem get?_ofList (entries : List (String × α)) (name : String) :
    (ofList entries).get? name = entries.reverse.lookup name := by
  -- the fold is generalised over the table that it starts from
  suffices h : ∀ t : Table α,
      (entries.foldl (fun t entry => t.insert entry.1 entry.2) t).get? name
        = (entries.reverse.lookup name).or (t.get? name) by
    exact (h {}).trans (by simp)
  intro t
  induction entries generalizing t with
  | nil => simp
  | cons entry rest ih =>
    obtain ⟨key, v⟩ := entry
    rw [foldl_cons, ih, reverse_cons, lookup_append, Option.or_assoc]
    congr 1
    by_cases h : name = key
    · simp [h]
    · simp [lookup_cons_of_ne h, h]

theorem lookup_map_self (f : String → α) (names : List String) (name : String) :
    (names.map fun n => (n, f n)).lookup name = if name ∈ names then some (f name) else none := by
  induction names <;> grind

/-- A table in which the value of each name is made from the name. -/
theorem get?_ofList_map (f : String → α) (names : List String) (name : String) :
    (ofList (names.map fun n => (n, f n))).get? name
      = if name ∈ names then some (f name) else none := by
  rw [get?_ofList, ← map_reverse, lookup_map_self]
  simp

theorem contains_eq_isSome (t : Table α) (name : String) :
    t.contains name = (t.get? name).isSome := rfl

/-- The names of a table are those with a value. -/
theorem mem_keys_iff (t : Table α) (name : String) :
    name ∈ t.keys ↔ (t.get? name).isSome = true := by
  rw [get?, lookup_isSome_iff, keys, mem_map]
  constructor
  · rintro ⟨entry, hentry, rfl⟩
    exact ⟨entry, hentry, beq_self_eq_true _⟩
  · rintro ⟨entry, hentry, hname⟩
    exact ⟨entry, hentry, (beq_iff_eq.mp hname).symm⟩

@[simp] theorem mem_keys_insert (t : Table α) (name other : String) (value : α) :
    other ∈ (t.insert name value).keys ↔ other = name ∨ other ∈ t.keys := by
  rw [mem_keys_iff, mem_keys_iff, get?_insert]
  by_cases h : other = name <;> simp [h]

theorem mem_values_of_get? {t : Table α} {value : α} (h : t.get? name = some value) :
    value ∈ t.values := by
  obtain ⟨before, after, hentries, -⟩ := lookup_eq_some_iff.mp h
  rw [values, hentries]
  simp

/-! ## Tables with one entry for each name -/

theorem nodup_keys_insert {t : Table α} (h : t.keys.Nodup) (name : String) (value : α) :
    (t.insert name value).keys.Nodup := by
  obtain ⟨entries⟩ := t
  induction entries <;> grind [insert, insertEntry, keys, mem_keys_insert]

/-- The names of a table are those with a property, and each has one entry. -/
def HasKeys (t : Table α) (P : String → Prop) : Prop :=
  t.keys.Nodup ∧ ∀ name, name ∈ t.keys ↔ P name

theorem hasKeys_empty : ({} : Table α).HasKeys fun _ => False :=
  ⟨nodup_nil, fun _ => iff_of_false not_mem_nil id⟩

theorem HasKeys.insert {t : Table α} (h : t.HasKeys P) (name : String) (value : α) :
    (t.insert name value).HasKeys fun other => P other ∨ other = name := by
  refine ⟨nodup_keys_insert h.1 name value, fun other => ?_⟩
  rw [mem_keys_insert, h.2, or_comm]

/-- What adds the names of an item to a table adds the names of all items when it is repeated. -/
theorem HasKeys.foldl {γ : Type} {f : Table α → γ → Table α} {R : γ → String → Prop}
    (hf : ∀ (t : Table α) (P : String → Prop) (item : γ), t.HasKeys P → (f t item).HasKeys fun name => P name ∨ R item name)
    (items : List γ) {t : Table α} (h : t.HasKeys P) :
    (items.foldl f t).HasKeys fun name => P name ∨ ∃ item ∈ items, R item name := by
  induction items generalizing t P with
  | nil => simpa using h
  | cons item rest ih =>
    have hrest := ih (hf t P item h)
    simpa only [foldl_cons, mem_cons, exists_eq_or_imp, or_assoc] using hrest

theorem hasKeys_ofList (entries : List (String × α)) :
    (ofList entries).HasKeys fun name => ∃ entry ∈ entries, name = entry.1 := by
  have h := HasKeys.foldl (R := fun entry name => name = entry.1)
    (fun t P entry ht => ht.insert entry.1 entry.2) entries (hasKeys_empty (α := α))
  simp only [false_or] at h
  exact h

/-- The values stand in the order of their names. -/
theorem values_eq_map_keys {t : Table α} (h : t.keys.Nodup) (default : α) :
    t.values = t.keys.map fun name => (t.get? name).getD default := by
  obtain ⟨entries⟩ := t
  induction entries with
  | nil => rfl
  | cons entry rest ih =>
    obtain ⟨key, v⟩ := entry
    obtain ⟨hkey, hrest⟩ := nodup_cons.mp h
    have htail : rest.map Prod.snd
        = (rest.map Prod.fst).map fun name => (rest.lookup name).getD default := ih hrest
    show v :: rest.map Prod.snd = _ :: (rest.map Prod.fst).map _
    rw [htail]
    congr 1
    · simp [get?]
    · refine map_congr_left fun name hname => ?_
      have hne : name ≠ key := fun heq => hkey (heq ▸ hname)
      rw [get?, lookup_cons_of_ne hne]

end RobotKit.Table
