import RobotKit.Proofs.Literals

/-!
# What is read is readable

Every document that is read has the properties that its values need to be written and read back:
moments are within their bounds, one pattern stands for what is not a number, and no table has a
name twice. `Reader.Gives` says what a reader gives whenever it gives something.
-/

namespace RobotKit.Decimal.Binary64

open List

/-! ## Numbers that are read -/

theorem nearestNat_le {r : ℚ} {n : ℕ} (hr : 0 ≤ r) (h : r < n) : nearestNat r ≤ n := by
  have hfloor : ⌊r⌋₊ < n := (Nat.floor_lt hr).mpr h
  rw [nearestNat]
  split <;> omega

/-- What has an exponent below the highest one is a number. -/
theorem not_isNaN_of_bits {n : ℕ} (h : n < 2047 * 2 ^ 52) : (Binary64.mk n.toUInt64).isNaN = false := by
  have hbits : (n.toUInt64).toNat = n := by
    rw [Nat.toUInt64, UInt64.toNat_ofNat']
    omega
  have hfield : (Binary64.mk n.toUInt64).exponentField ≠ 2047 := by
    rw [exponentField_eq, hbits]
    omega
  rw [isNaN, decide_eq_false hfield, Bool.false_and]

theorem encode_eq_infinity {m : ℕ} {q : ℤ} (hlow : 2 ^ 52 ≤ m) (hhigh : m < 2 ^ 53)
    (hq : 2047 ≤ (q + 1075).toNat) : encode m q = infinity := by
  have hne : m ≠ twoTo 53 := by rw [twoTo_eq]; omega
  have hge : ¬ m < twoTo 52 := by rw [twoTo_eq]; omega
  simp only [encode, if_neg hne, if_neg hge, if_pos hq]

theorem not_isNaN_encode {m : ℕ} (h : m ≤ 2 ^ 53) (q : ℤ) : (encode m q).isNaN = false := by
  have hnormal : ∀ {m : ℕ} (q : ℤ), 2 ^ 52 ≤ m → m < 2 ^ 53 → (encode m q).isNaN = false := by
    intro m q hlow hhigh
    rcases Nat.lt_or_ge (q + 1075).toNat 2047 with hq | hq
    · rw [encode_of_le hlow hhigh hq]
      exact not_isNaN_of_bits (by omega)
    · rw [encode_eq_infinity hlow hhigh hq]
      decide
  rcases Nat.lt_or_ge m (2 ^ 52) with hlow | hlow
  · rw [encode_of_lt hlow]
    exact not_isNaN_of_bits (by omega)
  · rcases Nat.lt_or_ge m (2 ^ 53) with hhigh | hhigh
    · exact hnormal q hlow hhigh
    · obtain rfl : m = 2 ^ 53 := le_antisymm h hhigh
      have hcarry := encode_carry (q + 1)
      rw [Int.add_sub_cancel] at hcarry
      rw [hcarry]
      exact hnormal (q + 1) le_rfl (by decide)

theorem not_isNaN_ofDecimal (mantissa : ℕ) (exponent : ℤ) :
    (ofDecimal mantissa exponent).isNaN = false := by
  rw [ofDecimal_eq_ofRat]
  have hr : (0 : ℚ) ≤ mantissa * 10 ^ exponent := by positivity
  generalize (mantissa * 10 ^ exponent : ℚ) = r at hr
  rw [ofRat]
  split
  · decide
  split
  · decide
  split
  · decide
  · have hunit : (0 : ℚ) < 2 ^ unitExponent r := by positivity
    have hlt : r / 2 ^ unitExponent r < (2 ^ 53 : ℕ) := by
      have hlog : r < 2 ^ (Int.log 2 r + 1) := Int.lt_zpow_succ_log_self (by decide) r
      have hexponent : Int.log 2 r + 1 ≤ unitExponent r + 53 := by
        rw [unitExponent]
        omega
      have hpow : (2 : ℚ) ^ (Int.log 2 r + 1) ≤ 2 ^ (unitExponent r + 53) :=
        zpow_le_zpow_right₀ (by norm_num) hexponent
      rw [div_lt_iff₀ hunit, Nat.cast_pow, Nat.cast_ofNat]
      calc r < 2 ^ (unitExponent r + 53) := hlog.trans_le hpow
        _ = 2 ^ 53 * 2 ^ unitExponent r := by
          rw [zpow_add₀ (by norm_num), mul_comm]
          norm_num
    exact not_isNaN_encode (nearestNat_le (by positivity) hlt) _

theorem isNaN_neg (x : Binary64) : x.neg.isNaN = x.isNaN := by
  have hbits : x.neg.bits.toNat = x.bits.toNat ^^^ 2 ^ 63 := UInt64.toNat_xor _ _
  have hexponent : x.neg.exponentField = x.exponentField := by
    rw [exponentField_eq, exponentField_eq, hbits, Nat.xor_div_two_pow, Nat.xor_mod_two_pow,
      show 2 ^ 63 / 2 ^ 52 % 2 ^ 11 = 0 by decide, Nat.xor_zero]
  have hfraction : x.neg.fractionField = x.fractionField := by
    rw [fractionField_eq, fractionField_eq, hbits, Nat.xor_mod_two_pow,
      show 2 ^ 63 % 2 ^ 52 = 0 by decide, Nat.xor_zero]
  rw [isNaN, isNaN, hexponent, hfraction]

end RobotKit.Decimal.Binary64

namespace RobotKit.Config

open List RobotKit.Decimal Reader

variable {text rest : List Char} {value : Value} {name : String} {entries : Entries}
  {digits : List Char} {old new : Entries}

/-! ## What readers give -/

/-- Whatever the reader gives has the property. -/
def Reader.Gives {α : Type} (r : Reader α) (P : α → Prop) : Prop :=
  ∀ (s : List Char) (a : α) (t : List Char), r.run s = .ok (a, t) → P a

namespace Reader

variable {α β : Type} {P : α → Prop} {Q : β → Prop}

theorem gives_true (r : Reader α) : r.Gives fun _ => True := fun _ _ _ _ => trivial

theorem gives_pure {a : α} (h : P a) : (pure a : Reader α).Gives P := by
  intro s b t hrun
  obtain ⟨rfl, -⟩ := Prod.mk.inj (Except.ok.inj hrun)
  exact h

theorem Gives.bind {r : Reader α} {f : α → Reader β} (h : r.Gives P) (h' : ∀ a, P a → (f a).Gives Q) :
    (r >>= f).Gives Q := by
  intro s b t hrun
  rw [StateT.run_bind] at hrun
  obtain ⟨⟨a, u⟩, ha, hb⟩ := exists_of_bind_eq_ok hrun
  exact h' a (h s a u ha) u b t hb

/-- What a reader before gives does not matter. -/
theorem gives_bind {r : Reader α} {f : α → Reader β} (h : ∀ a, (f a).Gives Q) : (r >>= f).Gives Q :=
  (gives_true r).bind fun a _ => h a

/-- Two ways to go on after a first result. -/
theorem gives_if {r : Reader α} {c : α → Prop} {_ : DecidablePred c} {first second : Reader β}
    (hfirst : first.Gives Q) (hsecond : second.Gives Q) :
    (r >>= fun a => if c a then first else second).Gives Q := by
  refine gives_bind fun a => ?_
  split
  · exact hfirst
  · exact hsecond

theorem gives_refuse (problem : Problem) : (refuse problem : Reader α).Gives P := by
  intro s a t hrun
  rw [refuse, run_bind_of_ok run_get] at hrun
  cases hrun

theorem gives_refuse_bind (problem : Problem) (f : α → Reader β) : (refuse problem >>= f).Gives Q :=
  Gives.bind (gives_refuse problem : (refuse problem : Reader α).Gives fun _ => False) fun _ h => h.elim

theorem gives_liftM {x : Except Trouble α} (h : ∀ a, x = .ok a → P a) :
    (liftM x : Reader α).Gives P := by
  intro s a t hrun
  obtain ⟨b, hb, hpair⟩ := exists_of_bind_eq_ok hrun
  obtain ⟨rfl, -⟩ := Prod.mk.inj (Except.ok.inj hpair)
  exact h b hb

theorem gives_lift {x : Except Problem α} (h : ∀ a, x = .ok a → P a) : (lift x).Gives P := by
  cases x with
  | ok a => exact gives_pure (h a rfl)
  | error problem => exact gives_refuse problem

end Reader

/-! ## Plain values -/

theorem fixedDigits_bounds {count low high n : Nat}
    (h : fixedDigits count low high text = some (n, rest)) : low ≤ n ∧ n ≤ high := by
  rw [fixedDigits] at h
  split at h
  case isTrue hgood =>
    simp only [Bool.and_eq_true, decide_eq_true_eq] at hgood
    obtain ⟨rfl, -⟩ := Prod.mk.inj (Option.some.inj h)
    exact ⟨hgood.1.2, hgood.2⟩
  case isFalse => exact absurd h (by simp)

theorem dayText_year {d : Day} (h : dayText text = some (d, rest)) :
    d.year ≤ 9999 := by
  simp only [dayText, Option.bind_eq_bind, Option.bind_eq_some_iff, Prod.exists] at h
  obtain ⟨year, _, hyear, -, -, month, _, -, -, -, day, _, -, hd⟩ := h
  obtain ⟨rfl, -⟩ := Prod.mk.inj (Option.some.inj hd)
  exact (fixedDigits_bounds hyear).2

theorem digitsValue_lt (h : IsDigits digits) : digitsValue digits < 10 ^ digits.length := by
  induction digits using List.reverseRecOn with
  | nil => decide
  | append_singleton digits c ih =>
    have hdigits : IsDigits digits := fun d hd => h d (mem_append_left _ hd)
    have hc : c.toNat - '0'.toNat < 10 := by
      have hdigit := h c (mem_append_right _ mem_cons_self)
      simp only [Char.isDigit, Bool.and_eq_true, decide_eq_true_eq] at hdigit
      have hlast : c.toNat ≤ '9'.toNat := hdigit.2
      have hzero : '0'.toNat = 48 := rfl
      have hnine : '9'.toNat = 57 := rfl
      omega
    have hlast : digitsValue [c] = c.toNat - '0'.toNat := Nat.zero_add _
    rw [digitsValue_append, hlast, length_append, length_singleton, Nat.pow_succ]
    have hbefore := ih hdigits
    omega

theorem microsOf_lt (h : IsDigits digits) : microsOf digits < 1000000 := by
  have hsix : IsDigits ((digits ++ List.replicate 6 '0').take 6) := fun c hc =>
    h.append (isDigits_replicate 6) c (take_subset _ _ hc)
  have hlength : ((digits ++ List.replicate 6 '0').take 6).length = 6 := by
    rw [length_take, length_append, length_replicate]
    omega
  have hlt := digitsValue_lt hsix
  rw [hlength] at hlt
  exact hlt

theorem clockText_readable {c : Clock} (h : clockText text = some (c, rest)) :
    c.IsReadable := by
  simp only [clockText, Option.bind_eq_bind, Option.bind_eq_some_iff, Prod.exists] at h
  obtain ⟨hour, _, hhour, _, -, minute, _, hminute, _, -, second, after, hsecond, hc⟩ := h
  have hbounds : hour ≤ 23 ∧ minute ≤ 59 ∧ second ≤ 59 :=
    ⟨(fixedDigits_bounds hhour).2, (fixedDigits_bounds hminute).2, (fixedDigits_bounds hsecond).2⟩
  split at hc
  case isTrue =>
    obtain ⟨rfl, -⟩ := Prod.mk.inj (Option.some.inj hc)
    exact ⟨hbounds.1, hbounds.2.1, hbounds.2.2, Nat.succ_pos _⟩
  case isFalse =>
    obtain ⟨rfl, -⟩ := Prod.mk.inj (Option.some.inj hc)
    exact ⟨hbounds.1, hbounds.2.1, hbounds.2.2, microsOf_lt fun d => mem_takeWhile_imp⟩

theorem zoneText_bounds {offset : Option Int} (h : zoneText text = (offset, rest)) :
    ∀ minutes ∈ offset, minutes.natAbs < 1440 := by
  intro minutes hminutes
  rw [zoneText.eq_def] at h
  split at h
  case h_1 =>
    obtain ⟨rfl, -⟩ := Prod.mk.inj h
    rw [← Option.mem_some_iff.mp hminutes]
    decide
  case h_2 =>
    obtain ⟨rfl, -⟩ := Prod.mk.inj h
    rw [← Option.mem_some_iff.mp hminutes]
    decide
  case h_3 sign after _ _ =>
    dsimp only at h
    split at h
    case h_1 total _ hzone =>
      obtain ⟨rfl, -⟩ := Prod.mk.inj h
      obtain rfl := Option.mem_some_iff.mp hminutes
      split at hzone
      case isTrue => exact absurd hzone (by simp)
      case isFalse =>
        simp only [Option.bind_eq_bind, Option.bind_eq_some_iff, Prod.exists] at hzone
        obtain ⟨hours, _, hhours, _, -, late, _, hlate, htotal⟩ := hzone
        have hhoursMax := (fixedDigits_bounds hhours).2
        have hlateMax := (fixedDigits_bounds hlate).2
        obtain ⟨rfl, -⟩ := Prod.mk.inj (Option.some.inj htotal)
        split <;> omega
    case h_2 =>
      obtain ⟨rfl, -⟩ := Prod.mk.inj h
      exact absurd hminutes (Option.not_mem_none _)
  case h_4 =>
    obtain ⟨rfl, -⟩ := Prod.mk.inj h
    exact absurd hminutes (Option.not_mem_none _)

theorem instantText_readable {m : Moment} (h : instantText text = some (m, rest))
    (hvalid : m.isValid = true) : m.IsReadable := by
  simp only [instantText, Option.bind_eq_bind, Option.bind_eq_some_iff, Prod.exists] at h
  obtain ⟨d, after, hday, h⟩ := h
  have hyear := dayText_year hday
  split at h
  case h_1 =>
    obtain ⟨rfl, -⟩ := Prod.mk.inj (Option.some.inj h)
    exact ⟨hvalid, hyear⟩
  case h_2 clock left hclock =>
    obtain ⟨rfl, -⟩ := Prod.mk.inj (Option.some.inj h)
    obtain ⟨text', -, hclock⟩ := Option.bind_eq_some_iff.mp hclock
    exact ⟨⟨hvalid, hyear⟩, clockText_readable hclock, zoneText_bounds rfl⟩

theorem numberText_value_readable {n : NumberText} (h : n.value = .ok value) :
    value.IsReadable := by
  rw [NumberText.value] at h
  split at h
  case h_1 digits power _ =>
    rw [← Except.ok.inj h, Value.IsReadable]
    intro hnan
    have hnot := Binary64.not_isNaN_ofDecimal (digitsValue (n.whole ++ digits)) (power - digits.length)
    split at hnan
    · rw [Binary64.isNaN_neg, hnot] at hnan
      exact absurd hnan Bool.false_ne_true
    · rw [hnot] at hnan
      exact absurd hnan Bool.false_ne_true
  case h_2 =>
    split at h
    · exact absurd h (by simp)
    · rw [← Except.ok.inj h, Value.IsReadable]
      trivial

theorem wordValues_readable : ∀ word ∈ wordValues, word.2.IsReadable := by
  have hinfinity : (Value.decimal Binary64.infinity).IsReadable := fun h => absurd h (by decide)
  have hnegative : (Value.decimal Binary64.infinity.neg).IsReadable := fun h => absurd h (by decide)
  have hnan : (Value.decimal ⟨0x7FF8000000000000⟩).IsReadable := fun _ => rfl
  simp only [wordValues, forall_mem_cons]
  exact ⟨hinfinity, hnan, hnegative, hinfinity, hnan, hnan, fun _ h => absurd h not_mem_nil⟩

theorem gives_plainValue : plainValue.Gives Value.IsReadable := by
  refine gives_bind fun text => ?_
  split
  case h_1 moment rest hmoment =>
    have hgives : moment.isValid = true →
        (do set rest; return .moment moment : Reader Value).Gives Value.IsReadable :=
      fun hvalid => gives_bind fun _ => gives_pure (instantText_readable hmoment hvalid)
    split
    case isTrue => exact gives_refuse_bind _ _
    case isFalse hvalid => exact hgives (by simpa using hvalid)
  split
  case h_1 clock rest hclock => exact gives_bind fun _ => gives_pure (clockText_readable hclock)
  split
  case h_1 => exact gives_bind fun _ => gives_pure trivial
  split
  case h_1 n rest _ =>
    exact gives_bind fun _ => gives_liftM fun _ => numberText_value_readable
  split
  case h_1 word value hword =>
    exact gives_bind fun _ => gives_pure (wordValues_readable _ (mem_of_find?_eq_some hword))
  case h_2 => exact gives_refuse _

/-! ## Tables -/

theorem isReadable_insertEntry (hvalue : value.IsReadable) (h : (Value.table entries).IsReadable) :
    (Value.table (Table.insertEntry name value entries)).IsReadable := by
  rw [isReadable_table_iff] at h ⊢
  refine ⟨Table.nodup_keys_insert (t := ⟨entries⟩) h.1 name value, fun entry hentry => ?_⟩
  rcases Table.mem_of_mem_insertEntry hentry with rfl | hentry
  · exact hvalue
  · exact h.2 entry hentry

theorem isReadable_append (hvalue : value.IsReadable) (h : (Value.table entries).IsReadable)
    (hname : entries.lookup name = none) :
    (Value.table (entries ++ [(name, value)])).IsReadable := by
  rw [← Table.insertEntry_of_notMem (Table.lookup_eq_none_iff_notMem.mp hname)]
  exact isReadable_insertEntry hvalue h

theorem isReadable_of_lookup (h : (Value.table entries).IsReadable)
    (hlookup : entries.lookup name = some value) :
    value.IsReadable :=
  (isReadable_table_iff.mp h).2 (name, value) (Table.mem_of_lookup hlookup)

theorem isReadable_empty : (Value.table []).IsReadable :=
  isReadable_table_iff.mpr ⟨nodup_nil, fun _ hentry => absurd hentry not_mem_nil⟩

/-- A change that keeps tables readable does so wherever it is made. -/
theorem isReadable_changeAt {intoLists : Bool} {change : Entries → Except Problem Entries}
    (hchange : ∀ {old new}, (Value.table old).IsReadable → change old = .ok new →
      (Value.table new).IsReadable) :
    ∀ {key : Key} {entries new : Entries}, (Value.table entries).IsReadable →
      changeAt intoLists change key entries = .ok new → (Value.table new).IsReadable
  | [], entries, new, h, hnew => hchange h hnew
  | name :: rest, entries, new, h, hnew => by
    rw [changeAt] at hnew
    split at hnew
    case h_1 =>
      obtain ⟨inner, hinner, hnew⟩ := exists_of_bind_eq_ok hnew
      rw [← Except.ok.inj hnew]
      exact isReadable_insertEntry (isReadable_changeAt hchange isReadable_empty hinner) h
    case h_2 hlookup =>
      obtain ⟨inner, hinner, hnew⟩ := exists_of_bind_eq_ok hnew
      rw [← Except.ok.inj hnew]
      exact isReadable_insertEntry (isReadable_changeAt hchange (isReadable_of_lookup h hlookup) hinner) h
    case h_3 items hlookup =>
      have hitems := isReadable_list_iff.mp (isReadable_of_lookup h hlookup)
      split at hnew
      case h_1 last hlast =>
        obtain ⟨inner, hinner, hnew⟩ := exists_of_bind_eq_ok hnew
        rw [← Except.ok.inj hnew]
        have htable := hitems _ (mem_of_getLast? hlast)
        refine isReadable_insertEntry (isReadable_list_iff.mpr fun item hitem => ?_) h
        rcases mem_append.mp hitem with hitem | hitem
        · exact hitems item (mem_of_mem_dropLast hitem)
        · rw [mem_singleton.mp hitem]
          exact isReadable_changeAt hchange htable hinner
      case h_2 => cases hnew
    case h_4 => cases hnew

theorem isReadable_addEntry {taken : Problem} (hvalue : value.IsReadable)
    (h : (Value.table old).IsReadable) (hnew : addEntry taken name value old = .ok new) :
    (Value.table new).IsReadable := by
  rw [addEntry] at hnew
  split at hnew
  case isTrue => cases hnew
  case isFalse hnone =>
    rw [← Except.ok.inj hnew]
    exact isReadable_append hvalue h (Option.not_isSome_iff_eq_none.mp hnone)

theorem isReadable_appendTable (h : (Value.table old).IsReadable)
    (hnew : appendTable name old = .ok new) : (Value.table new).IsReadable := by
  rw [appendTable] at hnew
  split at hnew
  case h_1 hnone =>
    rw [← Except.ok.inj hnew]
    refine isReadable_append (isReadable_list_iff.mpr fun item hitem => ?_) h hnone
    rw [mem_singleton.mp hitem]
    exact isReadable_empty
  case h_2 items hsome =>
    rw [← Except.ok.inj hnew]
    refine isReadable_insertEntry (isReadable_list_iff.mpr fun item hitem => ?_) h
    rcases mem_append.mp hitem with hitem | hitem
    · exact isReadable_list_iff.mp (isReadable_of_lookup h hsome) item hitem
    · rw [mem_singleton.mp hitem]
      exact isReadable_empty
  case h_3 => cases hnew

theorem InlineTable.isReadable_set {t t' : InlineTable} {key : Key} (hvalue : value.IsReadable)
    (h : (Value.table t.entries).IsReadable) (ht : t.set key value = .ok t') :
    (Value.table t'.entries).IsReadable := by
  rw [InlineTable.set] at ht
  split at ht
  case isTrue => cases ht
  case isFalse =>
    obtain ⟨entries, hentries, ht⟩ := exists_of_bind_eq_ok ht
    rw [← Except.ok.inj ht]
    exact isReadable_changeAt (isReadable_addEntry hvalue) h hentries

namespace Document

/-- The property of documents is kept whatever a statement does. -/
structure Kept (I : Document → Prop) : Prop where
  openTable : ∀ {d d' : Document} {key : Key}, I d → d.openTable key = .ok d' → I d'
  openListTable : ∀ {d d' : Document} {key : Key}, I d → d.openListTable key = .ok d' → I d'
  set : ∀ {d d' : Document} {key : Key} {value : Value}, value.IsReadable → I d →
    d.set key value = .ok d' → I d'

/-- A statement does one of three changes to the entries of a document. -/
theorem kept_of {J : Entries → Prop}
    (hopen : ∀ {key entries new}, J entries → changeAt true .ok key entries = .ok new → J new)
    (happend : ∀ {name key entries new}, J entries →
      changeAt true (appendTable name) key entries = .ok new → J new)
    (hadd : ∀ {taken name value key entries new}, value.IsReadable → J entries →
      changeAt true (addEntry taken name value) key entries = .ok new → J new) :
    Kept fun d => J d.entries where
  openTable := by
    intro d d' key h hd
    rw [openTable] at hd
    split at hd
    case isTrue => cases hd
    case isFalse =>
      obtain ⟨entries, hentries, hd⟩ := exists_of_bind_eq_ok hd
      rw [← Except.ok.inj hd]
      exact hopen h hentries
  openListTable := by
    intro d d' key h hd
    rw [openListTable] at hd
    split at hd
    case isTrue => cases hd
    case isFalse =>
      obtain ⟨entries, hentries, hd⟩ := exists_of_bind_eq_ok hd
      rw [← Except.ok.inj hd]
      exact happend h hentries
  set := by
    intro d d' key value hvalue h hd
    rw [set] at hd
    split at hd
    case h_1 => cases hd
    case h_2 =>
      split at hd
      case isTrue => cases hd
      case isFalse =>
        obtain ⟨entries, hentries, hd⟩ := exists_of_bind_eq_ok hd
        rw [← Except.ok.inj hd]
        exact hadd hvalue h hentries

theorem kept_isReadable : Kept fun d => (Value.table d.entries).IsReadable :=
  kept_of (isReadable_changeAt fun hold hnew => Except.ok.inj hnew ▸ hold)
    (isReadable_changeAt isReadable_appendTable)
    fun hvalue => isReadable_changeAt (isReadable_addEntry hvalue)

end Document

/-! ## Values and statements -/

/-- The readers of values, one inside the other, give readable values. -/
theorem gives_values (fuel : Nat) : (valueOf fuel).Gives Value.IsReadable ∧
    (∀ taken, (Value.list taken).IsReadable → (listRest fuel taken).Gives Value.IsReadable) ∧
    ∀ table, (Value.table table.entries).IsReadable → (tableRest fuel table).Gives Value.IsReadable := by
  induction fuel with
  | zero => exact ⟨gives_refuse _, fun _ _ => gives_refuse _, fun _ _ => gives_refuse _⟩
  | succ fuel ih =>
    obtain ⟨hvalue, hlist, htable⟩ := ih
    refine ⟨?_, fun taken htaken => ?_, fun table hentries => ?_⟩
    · rw [valueOf]
      refine gives_bind fun text => ?_
      split
      case h_1 => exact gives_bind fun _ => gives_pure trivial
      case h_2 => exact gives_bind fun _ => gives_pure trivial
      case h_3 rest =>
        exact gives_bind fun _ => gives_bind fun _ =>
          gives_if (gives_pure trivial) (hlist [] trivial)
      case h_4 rest =>
        exact gives_bind fun _ => gives_bind fun _ =>
          gives_if (gives_pure isReadable_empty) (htable ⟨[], []⟩ isReadable_empty)
      case h_5 =>
        exact gives_if (gives_pure trivial) (gives_if (gives_pure trivial) gives_plainValue)
    · rw [listRest]
      refine hvalue.bind fun value hreadable => ?_
      have hmore : (Value.list (taken ++ [value])).IsReadable := by
        rw [isReadable_list_iff] at htaken ⊢
        intro item hitem
        rcases mem_append.mp hitem with hitem | hitem
        · exact htaken item hitem
        · rw [mem_singleton.mp hitem]
          exact hreadable
      refine gives_bind fun _ => gives_bind fun _ => gives_if (gives_pure hmore) ?_
      refine gives_if (gives_refuse_bind _ _) ?_
      exact gives_bind fun _ => gives_bind fun _ => gives_if (gives_pure hmore) (hlist _ hmore)
    · rw [tableRest]
      refine gives_bind fun key => gives_if (gives_refuse_bind _ _) ?_
      refine gives_bind fun _ => hvalue.bind fun value hreadable => ?_
      refine (gives_lift fun _ => InlineTable.isReadable_set hreadable hentries).bind
        fun table hentries => ?_
      refine gives_bind fun _ => gives_if (gives_pure hentries) ?_
      exact gives_if (gives_refuse_bind _ _) (gives_bind fun _ => htable table hentries)

section Statements

variable {I : Document → Prop} (hI : Document.Kept I)

include hI

theorem gives_statement {d : Document} (h : I d) (first : Char) : (statement first d).Gives I := by
  rw [statement]
  split
  case isTrue =>
    refine gives_if ?_ ?_
    · refine gives_bind fun _ => gives_bind fun key => ?_
      exact (gives_lift fun _ => hI.openListTable h).bind fun d' hd' =>
        gives_if (gives_refuse_bind _ _) (gives_pure hd')
    · refine gives_bind fun _ => gives_bind fun _ => gives_bind fun key => ?_
      exact (gives_lift fun _ => hI.openTable h).bind fun d' hd' =>
        gives_if (gives_refuse_bind _ _) (gives_pure hd')
  split
  case isTrue =>
    refine gives_bind fun key => gives_if (gives_refuse_bind _ _) ?_
    refine gives_bind fun _ => gives_bind fun text => ?_
    exact (gives_values _).1.bind fun value hvalue => gives_lift fun _ => hI.set hvalue h
  split
  · exact gives_pure h
  · exact gives_refuse _

theorem gives_statements (fuel : Nat) : ∀ {d : Document}, I d → (statements fuel d).Gives I := by
  induction fuel with
  | zero => exact fun h => gives_pure h
  | succ fuel ih =>
    intro d h
    rw [statements]
    refine gives_bind fun _ => gives_bind fun text => ?_
    split
    case h_1 => exact gives_pure h
    case h_2 => exact gives_bind fun _ => ih h
    case h_3 first _ _ =>
      refine (gives_statement hI h first).bind fun d' hd' => ?_
      refine gives_bind fun _ => gives_bind fun _ => gives_bind fun rest => ?_
      split
      case h_1 => exact gives_pure hd'
      case h_2 => exact gives_bind fun _ => ih hd'
      case h_3 => exact gives_refuse _

end Statements

/-- Every document that is read can be read. -/
theorem isReadable_read {text : String} (h : read text = .ok entries) :
    (Value.table entries).IsReadable := by
  rw [read] at h
  split at h
  case h_1 d rest hrun =>
    rw [← Except.ok.inj h]
    exact gives_statements Document.kept_isReadable _ isReadable_empty _ d rest hrun
  case h_2 => cases h
  case h_3 => cases h

end RobotKit.Config
