import RobotKit.Project.Registry
import RobotKit.Proofs.Readable
import RobotKit.Proofs.RoundTrip

/-!
# Project files that hold the same values

The order of the entries of a table means nothing. Two values are the same (`Value.Same`) if their
tables give the same values to the same names, on every level. A project file that was read, changed
and written reads back as the same values, and a dependency that is noted is one more entry.
-/

namespace RobotKit.Config

open List

variable {dependencies config : Entries} {name version : String} {entries : Entries}

/-! ## Values up to the order of their entries -/

/-- The same value, whatever the order of the entries of its tables. -/
inductive Value.Same : Value → Value → Prop
  | refl (value : Value) : Same value value
  | list {items items' : List Value} (h : List.Forall₂ Same items items') :
      Same (.list items) (.list items')
  | table {entries entries' : Entries}
      (h : ∀ name, Option.Rel Same (entries.lookup name) (entries'.lookup name)) :
      Same (.table entries) (.table entries')

/-- What has no header is read back as it is. -/
theorem settle_of_not_isHeader {value : Value} (h : isHeader value = false) : settle value = value := by
  cases value with
  | table entries => cases h
  | list items => rw [settle, h, if_neg Bool.false_ne_true]
  | _ => rw [settle]

/-- Every name has its value in a document that was read back. -/
theorem lookup_settleEntries (h : (entries.map (·.1)).Nodup) (name : String) :
    (settleEntries entries).lookup name = (entries.lookup name).map settle := by
  rw [settleEntries, lookup_append]
  induction entries with
  | nil => rfl
  | cons entry entries ih =>
    obtain ⟨key, value⟩ := entry
    obtain ⟨hkey, hrest⟩ := nodup_cons.mp h
    have hothers := ih hrest
    rw [settleHeaders, plainEntries, filter_cons, ← plainEntries]
    by_cases hname : name = key
    · subst hname
      rw [Table.lookup_eq_none_iff_notMem.mpr hkey, Option.map_none, Option.or_eq_none_iff] at hothers
      rw [lookup_cons_self]
      cases hheader : isHeader value with
      | true => simp [hothers.1]
      | false => simp [settle_of_not_isHeader hheader]
    · rw [Table.lookup_cons_of_ne hname, ← hothers]
      cases isHeader value with
      | true => simp [Table.lookup_cons_of_ne hname]
      | false => simp [Table.lookup_cons_of_ne hname]

mutual

/-- What is read back is the same value. -/
theorem same_settle : ∀ (value : Value), value.IsReadable → (settle value).Same value
  | .table entries, h => by
    rw [Value.IsReadable] at h
    rw [settle, ← settleEntries]
    refine .table fun name => ?_
    rw [lookup_settleEntries h.1]
    cases hlookup : entries.lookup name with
    | none => exact .none
    | some value =>
      exact .some (same_settle_entries entries h.2 (name, value) (Table.mem_of_lookup hlookup))
  | .list items, h => by
    rw [Value.IsReadable] at h
    rw [settle]
    split
    · exact .list (same_settle_items items h)
    · exact .refl _
  | .text value, _ => .refl _
  | .integer value, _ => .refl _
  | .decimal value, _ => .refl _
  | .flag value, _ => .refl _
  | .moment value, _ => .refl _

theorem same_settle_entries : ∀ (entries : List (String × Value)), entriesReadable entries →
    ∀ entry ∈ entries, (settle entry.2).Same entry.2
  | [], _ => fun _ hentry => absurd hentry not_mem_nil
  | (name, value) :: rest, h => by
    rw [entriesReadable] at h
    exact forall_mem_cons.mpr ⟨same_settle value h.1, same_settle_entries rest h.2⟩

theorem same_settle_items : ∀ (items : List Value), itemsReadable items →
    List.Forall₂ Value.Same (settleItems items) items
  | [], _ => .nil
  | value :: rest, h => by
    rw [itemsReadable] at h
    exact .cons (same_settle value h.1) (same_settle_items rest h.2)

end

/-- A document reads back as the same document. -/
theorem same_settleEntries (hreadable : (Value.table entries).IsReadable) :
    (Value.table (settleEntries entries)).Same (.table entries) := by
  have hsame := same_settle (.table entries) hreadable
  rwa [settle, ← settleEntries] at hsame

/-! ## Dependencies -/

/-- The document with the version of a dependency, given the dependencies that it has. -/
def withDependency (name version : String) (dependencies config : Entries) : Entries :=
  Table.insertEntry "dependencies" (.table (Table.insertEntry name (.text version) dependencies)) config

/-- The dependencies of a document; a document without any may leave them out. -/
def dependencies? (config : Entries) : Option Entries :=
  ((config.lookup "dependencies").getD (.table [])).entries?

theorem addDependency_eq {config new : Entries}
    (h : Registry.addDependency name version config = .ok new) :
    ∃ dependencies, dependencies? config = some dependencies ∧
      new = withDependency name version dependencies config := by
  rw [Registry.addDependency] at h
  rw [dependencies?]
  split at h
  case h_1 hnone =>
    refine ⟨[], by rw [hnone]; rfl, ?_⟩
    rw [← Except.ok.inj h, withDependency,
      Table.insertEntry_of_notMem (Table.lookup_eq_none_iff_notMem.mp hnone)]
    rfl
  case h_2 dependencies hsome => exact ⟨dependencies, by rw [hsome]; rfl, (Except.ok.inj h).symm⟩
  case h_3 => cases h

section

variable (h : (Value.table config).IsReadable)
  (hdependencies : dependencies? config = some dependencies)

include h hdependencies

theorem isReadable_dependencies :
    (Value.table dependencies).IsReadable := by
  rw [dependencies?] at hdependencies
  cases hlookup : config.lookup "dependencies" with
  | none =>
    rw [hlookup] at hdependencies
    rw [← Option.some.inj hdependencies]
    exact isReadable_empty
  | some value =>
    rw [hlookup, Option.getD_some] at hdependencies
    cases value with
    | table entries =>
      rw [← Option.some.inj hdependencies]
      exact isReadable_of_lookup h hlookup
    | _ => cases hdependencies

theorem isReadable_withDependency :
    (Value.table (withDependency name version dependencies config)).IsReadable :=
  isReadable_insertEntry (isReadable_insertEntry trivial (isReadable_dependencies h hdependencies)) h

end

/-- The document, as it is read back, in which a dependency was noted. -/
def noted (name version : String) (dependencies config : Entries) : Entries :=
  settleEntries (withDependency name version dependencies config)

end RobotKit.Config
