import RobotKit.Device.Library
import RobotKit.Proofs.Table

/-!
# How long a motor group waits

A motor group that waits for its motors pauses as often as it finds one of them spinning, but at most
once for each ten milliseconds of its timeout, so it always comes back. But each of its pauses is one
of ten on a clock that counts seconds: the wait may last a thousand times as long as the timeout.
-/

namespace RobotKit.Device

open List

variable {α β : Type} {w w' : World} {id depth m n : Nat} {p : Part} {edition : Edition}
  {name kind : String} {arguments : List Value} {named : List (String × Value)} {bound : Arguments}
  {operation : Operation} {parts : Array Part}

/-! ## Actions that return -/

/-- The durations of the pauses so far. -/
def World.pauses (w : World) : List Value :=
  w.log.toList.filterMap fun
    | .pause duration => some duration
    | .call .. => none

/-- What is known of the parts and the answers of a world. -/
abbrev Facts := Array Part → Table (List Value) → Prop

/-- Does the action return from every world without a limit on pauses of which the first facts are
known, after exactly so many pauses of ten, and are the second facts known of the world then? -/
def Runs (I : Facts) (n : Nat) (act : Act α) (J : α → Facts) : Prop :=
  ∀ w, w.pausesLeft = none → I w.parts w.answers → ∃ a w', act.run.run w = (.ok a, w')
    ∧ w'.pausesLeft = none ∧ J a w'.parts w'.answers
    ∧ w'.pauses = w.pauses ++ List.replicate n (.integer 10)

section Runs

variable {act : Act α} {next : α → Act β} {a : α} {I I' : Facts} {J : α → Facts} {K : β → Facts}

theorem run_bind_of_run (h : act.run.run w = (.ok a, w')) :
    (act >>= next).run.run w = (next a).run.run w' := by
  rw [ExceptT.run_bind, StateT.run_bind, h]
  rfl

theorem run_get_bind (f : World → Act α) : (get >>= f).run.run w = (f w).run.run w := rfl

theorem runs_pure (h : ∀ parts answers, I parts answers → J a parts answers) :
    Runs I 0 (pure a) J :=
  fun w hclock hI => ⟨a, w, rfl, hclock, h _ _ hI, by simp⟩

theorem runs_bind (h : Runs I m act J) (hnext : ∀ a, Runs (J a) n (next a) K) :
    Runs I (n + m) (act >>= next) K := by
  intro w hclock hI
  obtain ⟨a, w', hrun, hclock', hJ, hpauses⟩ := h w hclock hI
  obtain ⟨b, w'', hrun', hclock'', hK, hpauses'⟩ := hnext a w' hclock' hJ
  refine ⟨b, w'', (run_bind_of_run hrun).trans hrun', hclock'', hK, ?_⟩
  rw [hpauses', hpauses, append_assoc, replicate_append_replicate, Nat.add_comm]

/-- The result of the first action may be known. -/
theorem runs_eq_bind (h : Runs I 0 act fun b parts answers => b = a ∧ I' parts answers)
    (hnext : Runs I' n (next a) K) : Runs I n (act >>= next) K := by
  refine runs_bind h fun b w hclock hb => ?_
  obtain ⟨rfl, hI'⟩ := hb
  exact hnext w hclock hI'

/-- An action that only looks at the world can be passed over. -/
theorem runs_look_bind (h : ∀ w, I w.parts w.answers → act.run.run w = (.ok a, w))
    (hnext : Runs I n (next a) K) : Runs I n (act >>= next) K := by
  intro w hclock hI
  rw [run_bind_of_run (h w hI)]
  exact hnext w hclock hI

end Runs

/-! ## Calls of operations -/

/-- The library as it is for calls that may nest so deeply. -/
def libraryAt (edition : Edition) (depth : Nat) : Library :=
  { look := look, call := fun value arguments => call edition depth value arguments [] }

/-- Calls an operation of a value. -/
def callOn (edition : Edition) (depth : Nat) (receiver : Value) (name : String)
    (arguments : List Value) (named : List (String × Value)) : Act Value := do
  call edition depth (← look receiver name) arguments named

/-- Does a kind have this operation under a name? -/
structure Has (edition : Edition) (kind name : String) (operation : Operation) : Prop where
  member : member? kind name = some (.action kind operation)
  found : operation? edition kind name = some operation
  called : operation.name = name
  ofPart : operation.isShared = false

theorem run_part (hp : w.parts[id]? = some p) : (part id).run.run w = (.ok p, w) := by
  simp only [part, run_get_bind, hp]
  rfl

theorem run_look (hp : w.parts[id]? = some p) {value : Value}
    (h : (p.attributes.get? name <|> (member? p.kind name).map (Member.ofPart id)) = some value) :
    (look (.part id) name).run.run w = (.ok value, w) := by
  refine (run_bind_of_run (run_part hp)).trans ?_
  rw [h]
  rfl

/-- What an operation of the parts with a label is told to answer. -/
def told (answers : Table (List Value)) (label name : String) : List Value :=
  (answers.get? (label ++ "." ++ name)).getD []

theorem told_insert (answers : Table (List Value)) (label name other otherName : String)
    (rest : List Value) :
    told (answers.insert (label ++ "." ++ name) rest) other otherName
      = if other ++ "." ++ otherName = label ++ "." ++ name then rest
        else told answers other otherName := by
  unfold told
  rw [Table.get?_insert]
  split <;> rfl

theorem run_takeAnswer (w : World) (p : Part) (name : String) :
    told w.answers p.label name = [] ∧ (takeAnswer p name).run.run w = (.ok none, w)
    ∨ ∃ answer rest, told w.answers p.label name = answer :: rest
      ∧ (takeAnswer p name).run.run w
        = (.ok (some answer), { w with answers := w.answers.insert (p.label ++ "." ++ name) rest }) := by
  simp only [takeAnswer, run_get_bind, told]
  split
  · rename_i answer rest htold
    exact .inr ⟨answer, rest, by rw [htold]; rfl, rfl⟩
  · rename_i hnone
    refine .inl ⟨?_, rfl⟩
    cases hget : w.answers.get? (p.label ++ "." ++ name) with
    | none => rfl
    | some answers =>
      cases answers with
      | nil => rfl
      | cons answer rest => exact absurd hget (hnone answer rest)

/-- A call of an operation of a part may be logged. Then it gives the answer that it was told, or runs
the body of the operation. -/
theorem run_callOn (hp : w.parts[id]? = some p) (hfree : p.attributes.get? name = none)
    (hhas : Has edition p.kind name operation)
    (hbind : bind operation.parameters (.part id :: arguments) named = .ok bound) :
    ∃ log, ({ w with log } : World).pauses = w.pauses
      ∧ (told w.answers p.label name = []
          ∧ (callOn edition (depth + 1) (.part id) name arguments named).run.run w
            = (operation.body (libraryAt edition depth) bound).run.run { w with log }
        ∨ ∃ answer rest, told w.answers p.label name = answer :: rest
          ∧ (callOn edition (depth + 1) (.part id) name arguments named).run.run w
            = (.ok answer,
              { w with log, answers := w.answers.insert (p.label ++ "." ++ name) rest })) := by
  have hlook : (p.attributes.get? name <|> (member? p.kind name).map (Member.ofPart id))
      = some (.routine p.kind name (some id)) := by
    rw [hfree, hhas.member]
    simp [Member.ofPart, hhas.called, hhas.ofPart]
  obtain ⟨log, hlog, hnote⟩ : ∃ log, ({ w with log } : World).pauses = w.pauses
      ∧ ∀ rest : Act Value, (if p.watchedAs.isSome && decide (name ≠ "__init__") then do
          let _ ← note (.call id name arguments named none)
          rest
        else rest).run.run w = rest.run.run { w with log } := by
    split
    · exact ⟨w.log.push (.call id name arguments named none), by simp [World.pauses], fun _ => rfl⟩
    · exact ⟨w.log, rfl, fun _ => rfl⟩
  refine ⟨log, hlog, ?_⟩
  rw [callOn, run_bind_of_run (run_look hp hlook)]
  unfold call
  simp only [hhas.found]
  rw [runOfPart, run_bind_of_run (run_part hp)]
  simp only [hhas.called, Operation.run, hbind, hnote]
  obtain ⟨hnone, htake⟩ | ⟨answer, rest, htold, htake⟩ := run_takeAnswer { w with log } p name
  · exact .inl ⟨hnone, (run_bind_of_run htake).trans rfl⟩
  · exact .inr ⟨answer, rest, htold, (run_bind_of_run htake).trans rfl⟩

/-- The function that pauses is given ten milliseconds, and gives ten to the clock. -/
theorem runs_sleep {I : Facts} :
    Runs I 1 (call edition (depth + 1) (.routine "" "sleep" none) [.integer 10] []) fun _ => I := by
  intro w hclock hI
  refine ⟨.nothing, { w with log := w.log.push (.pause (.integer 10)) }, ?_, hclock, hI,
    by simp [World.pauses]⟩
  have hsleep : (call edition (depth + 1) (.routine "" "sleep" none) [.integer 10] []).run.run w
      = (do pause (.integer 10); return Value.nothing : Act Value).run.run w := by
    cases edition <;> rfl
  rw [hsleep]
  refine (run_bind_of_run (a := ()) ?_).trans rfl
  simp only [pause, run_get_bind, hclock]
  rfl

theorem runs_tellAll {I : Facts} {ids : List Nat}
    (h : ∀ id ∈ ids, Runs I 0 (callOn edition depth (.part id) name arguments []) fun _ => I) :
    Runs I 0 (MotorGroup.tellAll (libraryAt edition depth) name arguments (ids.map .part))
      fun _ => I := by
  induction ids with
  | nil => exact runs_pure fun _ _ hI => hI
  | cons id rest ih =>
    obtain ⟨hid, hrest⟩ := forall_mem_cons.mp h
    exact runs_bind hid fun _ => ih hrest

/-! ## What motors answer -/

/-- What motors are told to answer when they are asked whether they spin, by their labels. -/
def spinsIn (answers : Table (List Value)) (label : String) : List Value :=
  told answers label "is_spinning"

/-- What a motor with this label answers when it is asked whether it spins, and what is left to answer
then. A motor that is told nothing spins. -/
def answerOf (spins : String → List Value) (label : String) : Value × (String → List Value) :=
  match spins label with
  | [] => (.flag true, spins)
  | answer :: rest => (answer, fun other => if other = label then rest else spins other)

/-- The first true answer of motors, or else the last one. -/
def ask : List String → (String → List Value) → Value → Value × (String → List Value)
  | [], spins, found => (found, spins)
  | label :: rest, spins, found =>
    if found.isTrue then (found, spins)
    else ask rest (answerOf spins label).2 (answerOf spins label).1

/-- How often in a row motors are found spinning, if they are asked so often at most. -/
def spinsFor (labels : List String) : Nat → (String → List Value) → Nat
  | 0, _ => 0
  | rounds + 1, spins =>
    if (ask labels spins (.flag false)).1.isTrue then
      spinsFor labels rounds (ask labels spins (.flag false)).2 + 1
    else 0

theorem spinsFor_le (labels : List String) (rounds : Nat) (spins : String → List Value) :
    spinsFor labels rounds spins ≤ rounds := by
  induction rounds generalizing spins with
  | zero => exact Nat.le_refl 0
  | succ rounds ih =>
    rw [spinsFor]
    split
    · exact Nat.succ_le_succ (ih _)
    · exact Nat.zero_le _

/-! ## Motors and their groups -/

/-- Is there a motor with this label, and with no attribute that hides one of its operations? -/
def MotorAt (parts : Array Part) (id : Nat) (label : String) : Prop :=
  ∃ p, parts[id]? = some p ∧ p.kind = "Motor" ∧ p.label = label
    ∧ ∀ name, (member? "Motor" name).isSome → p.attributes.get? name = none

theorem MotorAt.push {label : String} (h : MotorAt parts id label) (p : Part) :
    MotorAt (parts.push p) id label := by
  obtain ⟨q, hq, hmotor⟩ := h
  exact ⟨q, by grind, hmotor⟩

/-- The parts after one of them was given a timeout. -/
def withTimeout (parts : Array Part) (id : Nat) (timeout : Value) : Array Part :=
  parts.modify id fun p => { p with attributes := p.attributes.insert "_timeout" timeout }

theorem MotorAt.withTimeout {label : String} (h : MotorAt parts id label) (other : Nat)
    (timeout : Value) : MotorAt (withTimeout parts other timeout) id label := by
  obtain ⟨p, hp, hkind, hlabel, hfree⟩ := h
  rw [MotorAt, Device.withTimeout, Array.getElem?_modify, hp]
  split
  · refine ⟨_, rfl, hkind, hlabel, fun name hname => ?_⟩
    rw [Table.get?_insert, if_neg, hfree name hname]
    rintro rfl
    exact absurd hname (by decide)
  · exact ⟨p, rfl, hkind, hlabel, hfree⟩

/-- A motor group: its place among the parts, its number among the groups, its motors with their
labels, and its timeout in milliseconds. -/
structure Group where
  id : Nat
  number : Nat
  motors : List Nat
  label : Nat → String
  timeout : Int

namespace Group

def part (g : Group) : Part :=
  ⟨"MotorGroup", g.number,
    ⟨[("_motors", .list (g.motors.map .part)), ("_timeout", .integer g.timeout)]⟩, none⟩

/-- Are the group and its motors among these parts, is the group told nothing, and are the motors told
this when they are asked whether they spin? -/
structure In (g : Group) (spins : String → List Value) (parts : Array Part)
    (answers : Table (List Value)) : Prop where
  self : parts[g.id]? = some g.part
  motors : ∀ id ∈ g.motors, MotorAt parts id (g.label id)
  untold : ∀ name, told answers g.part.label name = []
  spins_eq : ∀ label, spinsIn answers label = spins label

/-- Are the group and its motors there, whatever is told? -/
def Stays (g : Group) : Facts := fun parts answers => ∃ spins, g.In spins parts answers

/-- How often the group pauses when it waits. -/
def pauseCount (g : Group) (spins : String → List Value) : Nat :=
  spinsFor (g.motors.map g.label) ((g.timeout.toNat + 9) / 10) spins

theorem pauseCount_le (g : Group) (spins : String → List Value) :
    g.pauseCount spins ≤ (g.timeout.toNat + 9) / 10 :=
  spinsFor_le _ _ _

/-- What the motors answer to the question whether they spin, and what is left to answer then. -/
def asked (g : Group) (spins : String → List Value) : Value × (String → List Value) :=
  ask (g.motors.map g.label) spins (.flag false)

/-- Does the action return without a pause, and leave the group and what its motors are told as they
are? -/
abbrev Keeps (g : Group) (spins : String → List Value) (act : Act α) : Prop :=
  Runs (g.In spins) 0 act fun _ => g.In spins

variable {g : Group} {spins : String → List Value} {answers : Table (List Value)}

theorem runs_exists {act : Act α} {J : α → Facts}
    (h : ∀ spins, Runs (g.In spins) n act J) :
    Runs g.Stays n act J := by
  rintro w hclock ⟨spins, hin⟩
  exact h spins w hclock hin

/-- A motor that remembers a timeout is not the group. -/
theorem In.withTimeout (h : g.In spins parts answers) (hid : id ∈ g.motors) (timeout : Value) :
    g.In spins (withTimeout parts id timeout) answers := by
  refine ⟨?_, fun other hother => (h.motors other hother).withTimeout id timeout, h.untold,
    h.spins_eq⟩
  obtain ⟨p, hp, hkind, -⟩ := h.motors id hid
  rw [Device.withTimeout, Array.getElem?_modify, if_neg, h.self]
  rintro rfl
  obtain rfl := Option.some.inj (hp.symm.trans h.self)
  exact absurd hkind (show ¬"MotorGroup" = "Motor" by decide)

/-- An answer that was given is none that the group was told. -/
theorem In.insert {label : String} {answer : Value} {rest : List Value}
    {spins' : String → List Value} (h : g.In spins parts answers)
    (htold : told answers label name = answer :: rest)
    (hspins : ∀ other, spinsIn (answers.insert (label ++ "." ++ name) rest) other = spins' other) :
    g.In spins' parts (answers.insert (label ++ "." ++ name) rest) := by
  refine ⟨h.self, h.motors, fun other => ?_, hspins⟩
  rw [told_insert, if_neg, h.untold]
  intro hkey
  have hnone := h.untold other
  rw [told, hkey, ← told, htold] at hnone
  cases hnone

/-- A motor may be told what to answer to anything but the question whether it spins. -/
theorem keeps_motor (hid : id ∈ g.motors) (hlast : name.toList.getLast?.getD '.' ≠ 'g')
    (hhas : Has edition "Motor" name operation)
    (hbind : bind operation.parameters (.part id :: arguments) [] = .ok bound)
    (hbody : g.Keeps spins (operation.body (libraryAt edition depth) bound)) :
    g.Keeps spins (callOn edition (depth + 1) (.part id) name arguments []) := by
  intro w hclock h
  obtain ⟨p, hp, hkind, hlabel, hfree⟩ := h.motors id hid
  obtain ⟨log, hlog, ⟨-, hrun⟩ | ⟨answer, rest, htold, hrun⟩⟩ := run_callOn hp
    (hfree name (by rw [hhas.member]; rfl)) (by rw [hkind]; exact hhas) hbind
  · rw [hrun, ← hlog]
    exact hbody _ hclock h
  · refine ⟨answer, _, hrun, hclock, h.insert htold fun other => ?_, hlog.trans (by simp)⟩
    rw [spinsIn, told_insert, if_neg, ← spinsIn, h.spins_eq]
    -- the two keys end in different letters
    intro hkey
    have hends := congrArg (fun key => key.toList.getLast?) hkey
    simp [getLast?_append, getLast?_cons] at hends
    exact hlast hends.symm

/-- What a motor answers to the question whether it spins. -/
theorem runs_isSpinning_motor (hid : id ∈ g.motors) :
    Runs (g.In spins) 0 (callOn edition (depth + 1) (.part id) "is_spinning" [] [])
      fun answer parts answers => answer = (answerOf spins (g.label id)).1
        ∧ g.In (answerOf spins (g.label id)).2 parts answers := by
  intro w hclock h
  obtain ⟨p, hp, hkind, hlabel, hfree⟩ := h.motors id hid
  have hhas : Has edition "Motor" "is_spinning" _ := ⟨rfl, rfl, rfl, rfl⟩
  have hbind : bind (yes "is_spinning").parameters [.part id] [] = .ok ⟨[("self", .part id)], []⟩ := rfl
  have htells := h.spins_eq (g.label id)
  obtain ⟨log, hlog, ⟨hnone, hrun⟩ | ⟨answer, rest, htold, hrun⟩⟩ := run_callOn hp
    (hfree "is_spinning" (by rw [hhas.member]; rfl)) (by rw [hkind]; exact hhas) hbind
  · rw [← hlabel, spinsIn, hnone] at htells
    refine ⟨.flag true, _, hrun, hclock, ?_, hlog.trans (by simp)⟩
    rw [answerOf, ← hlabel, ← htells]
    exact ⟨rfl, h⟩
  · rw [← hlabel, spinsIn, htold] at htells
    refine ⟨answer, _, hrun, hclock, ?_, hlog.trans (by simp)⟩
    rw [answerOf, ← hlabel, ← htells]
    refine ⟨rfl, h.insert htold fun other => ?_⟩
    dsimp only
    rw [spinsIn, told_insert, ← spinsIn, h.spins_eq]
    by_cases hother : other = p.label
    · rw [if_pos hother, if_pos (by rw [hother])]
    · rw [if_neg hother, if_neg]
      intro hkey
      exact hother (by simpa [String.ext_iff] using hkey)

theorem runs_anyMotor {ids : List Nat} (hids : ids ⊆ g.motors) (found : Value) :
    Runs (g.In spins) 0 (MotorGroup.anyMotor (libraryAt edition (depth + 1)) "is_spinning" found
        (ids.map .part))
      fun answer parts answers => answer = (ask (ids.map g.label) spins found).1
        ∧ g.In (ask (ids.map g.label) spins found).2 parts answers := by
  induction ids generalizing found spins with
  | nil => exact runs_pure fun _ _ h => ⟨rfl, h⟩
  | cons id rest ih =>
    obtain ⟨hid, hrest⟩ := cons_subset.mp hids
    rw [map_cons, map_cons, MotorGroup.anyMotor, ask]
    split
    · exact runs_pure fun _ _ h => ⟨rfl, h⟩
    · exact runs_eq_bind (runs_isSpinning_motor hid) (ih hrest _)

/-- A group is told nothing, so its operations run. -/
theorem runs_callOn {J : Value → Facts}
    (hhas : Has edition "MotorGroup" name operation) (hfree : g.part.attributes.get? name = none)
    (hbind : bind operation.parameters (.part g.id :: arguments) named = .ok bound)
    (hbody : Runs (g.In spins) n (operation.body (libraryAt edition depth) bound) J) :
    Runs (g.In spins) n (callOn edition (depth + 1) (.part g.id) name arguments named) J := by
  intro w hclock h
  obtain ⟨log, hlog, ⟨-, hrun⟩ | ⟨answer, rest, htold, -⟩⟩ := run_callOn h.self hfree hhas hbind
  · rw [hrun, ← hlog]
    exact hbody _ hclock h
  · rw [h.untold] at htold
    cases htold

theorem runs_motors {J : α → Facts} {next : List Value → Act α}
    (h : Runs (g.In spins) n (next (g.motors.map .part)) J) :
    Runs (g.In spins) n (MotorGroup.motors (libraryAt edition depth) (.part g.id) >>= next) J :=
  runs_look_bind (fun _ hw => (run_bind_of_run (run_look hw.self rfl)).trans rfl) h

theorem runs_isSpinning :
    Runs (g.In spins) 0 (callOn edition (depth + 2) (.part g.id) "is_spinning" [] [])
      fun answer parts answers =>
        answer = (g.asked spins).1 ∧ g.In (g.asked spins).2 parts answers :=
  runs_callOn ⟨rfl, rfl, rfl, rfl⟩ rfl rfl
    (runs_motors (runs_anyMotor (Subset.refl _) (.flag false)))

theorem runs_isDone :
    Runs (g.In spins) 0 (callOn edition (depth + 3) (.part g.id) "is_done" [] [])
      fun answer parts answers =>
        answer = .flag !(g.asked spins).1.isTrue ∧ g.In (g.asked spins).2 parts answers :=
  runs_callOn ⟨rfl, rfl, rfl, rfl⟩ rfl rfl
    (runs_eq_bind runs_isSpinning (runs_pure fun _ _ h => ⟨rfl, h⟩))

theorem keeps_stop : g.Keeps spins (callOn edition (depth + 2) (.part g.id) "stop" [] []) :=
  runs_callOn ⟨rfl, rfl, rfl, rfl⟩ rfl rfl (runs_motors (runs_bind (runs_tellAll fun _ hid =>
    by exact keeps_motor hid (by decide) ⟨rfl, rfl, rfl, rfl⟩ rfl (runs_pure fun _ _ h => h))
      fun _ => runs_pure fun _ _ h => h))

/-! ## Waiting -/

theorem order_integer (a b : Int) :
    (Value.integer a).order (.integer b) = .ok (some (compare a b)) := by
  simp [Value.order, Value.number?, Number.order?]

theorem greater_integer (a b : Int) :
    (Value.integer a).greater (.integer b) = .ok (decide (b < a)) := by
  simp [Value.greater, order_integer, Bind.bind, Except.bind, pure, Except.pure, Int.compare_eq_gt]

/-- A group pauses each time that it finds a motor spinning, at most once for each ten milliseconds
that are left. -/
theorem runs_poll {rounds : Nat} {left : Int} (hrounds : left.toNat < rounds) :
    Runs (g.In spins) (spinsFor (g.motors.map g.label) ((left.toNat + 9) / 10) spins)
      (MotorGroup.poll (libraryAt edition (depth + 2)) (.part g.id) rounds (.integer left))
      fun _ => g.Stays := by
  induction rounds generalizing left spins with
  | zero => exact absurd hrounds (by omega)
  | succ rounds ih =>
    rw [MotorGroup.poll, greater_integer]
    refine runs_look_bind (fun _ _ => rfl) ?_
    by_cases hleft : 0 < left
    · have hnext : (left - 10).toNat < rounds := by omega
      have hcount : (left.toNat + 9) / 10 = ((left - 10).toNat + 9) / 10 + 1 := by omega
      rw [if_pos (by simpa using hleft), hcount, spinsFor]
      refine runs_eq_bind runs_isSpinning ?_
      rw [asked]
      by_cases hspins : (ask (g.motors.map g.label) spins (.flag false)).1.isTrue
      · rw [if_pos hspins, if_pos hspins]
        exact runs_look_bind (fun _ _ => rfl) (runs_bind runs_sleep fun _ => ih hnext)
      · rw [if_neg hspins, if_neg hspins]
        exact runs_pure fun _ _ h => ⟨_, h⟩
    · have hcount : (left.toNat + 9) / 10 = 0 := by omega
      rw [if_neg (by simpa using hleft), hcount]
      exact runs_pure fun _ _ h => ⟨_, h⟩

/-- A group that waits comes back when its motors are at rest or its time is up. -/
theorem runs_wait : Runs (g.In spins)
    (g.pauseCount spins)
    (callOn edition (depth + 4) (.part g.id) "_MotorGroup__waitForCompletionAll" [] [])
    fun _ => g.Stays := by
  refine runs_callOn ⟨rfl, rfl, rfl, rfl⟩ rfl rfl ?_
  refine runs_look_bind (fun _ h => run_look h.self rfl) ?_
  rw [← Nat.zero_add (g.pauseCount spins)]
  refine runs_bind (runs_poll (Nat.lt_succ_self _)) fun _ => runs_exists fun spins' => ?_
  refine runs_eq_bind runs_isDone ?_
  split
  · exact runs_pure fun _ _ h => ⟨_, h⟩
  · exact runs_bind keeps_stop fun _ => runs_pure fun _ _ h => ⟨_, h⟩

/-- An operation of a part gets the part. -/
theorem get_self_of_bind {parameters : List Parameter} {self : Value}
    (h : bind (.need "self" :: parameters) (self :: arguments) named = .ok bound) :
    bound.get "self" = self := by
  unfold bind choose at h
  dsimp only [Bind.bind, Except.bind] at h
  split at h
  · cases h
  · split at h
    · cases h
    · obtain rfl := Except.ok.inj h
      grind [Arguments.get]

/-- The motors are told to spin, and then waited for. -/
theorem runs_tell_and_wait (hself : bound.get "self" = .part g.id)
    (hwait : (bound.get "wait").isTrue)
    (htell : ∀ id ∈ g.motors,
      g.Keeps spins (callOn edition (depth + 4) (.part id) name arguments [])) :
    Runs (g.In spins) (g.pauseCount spins) (do
        MotorGroup.tellAll (libraryAt edition (depth + 4)) name arguments
          (← MotorGroup.motors (libraryAt edition (depth + 4)) (bound.get "self"))
        MotorGroup.waitIf (libraryAt edition (depth + 4)) bound)
      fun _ => g.Stays := by
  rw [MotorGroup.waitIf, if_pos hwait, hself]
  exact runs_motors (runs_bind (runs_tellAll htell) fun _ => runs_wait)

/-- Both ways to spin by a rotation end in a wait. -/
theorem runs_spin (hname : name ∈ ["spin_to_position", "spin_for"])
    (hoperation : operation? edition "MotorGroup" name = some operation)
    (hbind : bind operation.parameters (.part g.id :: arguments) named = .ok bound)
    (hwait : (bound.get "wait").isTrue) {rotation : String}
    (hunits : bound.get "units" = unit ("RotationUnits." ++ rotation)) :
    Runs (g.In spins) (g.pauseCount spins)
      (callOn edition (depth + 6) (.part g.id) name arguments named)
      fun _ => g.Stays := by
  simp only [mem_cons, not_mem_nil, or_false] at hname
  obtain rfl | rfl := hname
  · have hhas : Has edition "MotorGroup" "spin_to_position" _ := ⟨rfl, rfl, rfl, rfl⟩
    obtain rfl := Option.some.inj (hhas.found.symm.trans hoperation)
    exact runs_callOn hhas rfl hbind (runs_tell_and_wait (get_self_of_bind hbind) hwait
      fun _ hid => keeps_motor hid (by decide) ⟨rfl, rfl, rfl, rfl⟩ rfl (runs_pure fun _ _ h => h))
  · have hhas : Has edition "MotorGroup" "spin_for" _ := ⟨rfl, rfl, rfl, rfl⟩
    obtain rfl := Option.some.inj (hhas.found.symm.trans hoperation)
    have hdistance : Runs (g.In spins)
        (g.pauseCount spins)
        (callOn edition (depth + 5) (.part g.id) "_MotorGroup__spin_for_distance"
          (["direction", "rotation", "units", "velocity", "units_v"].map bound.get
            ++ [bound.get "wait"]) []) fun _ => g.Stays :=
      runs_callOn ⟨rfl, rfl, rfl, rfl⟩ rfl rfl (runs_tell_and_wait (by rfl) (by exact hwait)
        fun _ hid => keeps_motor hid (by decide) ⟨rfl, rfl, rfl, rfl⟩ rfl (runs_pure fun _ _ h => h))
    refine runs_callOn hhas rfl hbind ?_
    show Runs _ _ (do if ← isOfKind (bound.get "units") "TimeUnits" then _ else _) _
    rw [hunits]
    refine runs_look_bind (fun _ _ => rfl) ?_
    show Runs _ _ (callOn _ _ (bound.get "self") "_MotorGroup__spin_for_distance" _ [] >>= _) _
    rw [get_self_of_bind hbind, ← Nat.zero_add (g.pauseCount spins)]
    exact runs_bind hdistance fun _ => runs_pure fun _ _ h => h

/-! ## Making a group -/

/-- A timeout in milliseconds. -/
def inMilliseconds (timeout : Int) (units : Value) : Int :=
  if isSeconds units then 1000 * timeout else timeout

/-- The timeout that a group keeps: of a timeout in seconds, at most a hundred thousand of them. -/
def keptTimeout (timeout : Int) (units : Value) : Int :=
  if isSeconds units then inMilliseconds (min timeout 100000) units else timeout

theorem exists_timeouts {timeout : Int} (h : 0 < timeout) (units : Value) :
    ∃ told, MotorGroup.timeouts (.integer timeout) units
      = .ok (.integer (keptTimeout timeout units), told) := by
  have hnot : (Value.integer timeout).atMost (.integer 0) = .ok false := by
    rw [Value.atMost, order_integer, Int.compare_eq_gt.mpr h]
    rfl
  unfold MotorGroup.timeouts keptTimeout inMilliseconds MotorGroup.longestTimeout
  cases isSeconds units with
  | false => exact ⟨.integer timeout, by simp [hnot]; rfl⟩
  | true =>
    simp only [↓reduceIte, greater_integer, h, decide_true]
    by_cases hlong : 100000 < timeout
    · rw [Int.min_eq_right (Int.le_of_lt hlong)]
      exact ⟨.integer 100000, by simp [hlong]; rfl⟩
    · rw [Int.min_eq_left (by omega), Int.mul_comm]
      exact ⟨.integer timeout, by simp [hlong]; rfl⟩

theorem runs_setTimeout (edition : Edition) (depth : Nat) (bound : Arguments) {kept : Int}
    {new : Value} (hself : bound.get "self" = .part g.id)
    (hkept : MotorGroup.timeouts (bound.get "timeout") (bound.get "units")
      = .ok (.integer kept, new)) :
    Runs (g.In spins) 0 (MotorGroup.setTimeout (libraryAt edition (depth + 1)) bound)
      fun _ => ({ g with timeout := kept } : Group).In spins := by
  unfold MotorGroup.setTimeout
  dsimp only
  rw [hself, hkept]
  refine runs_look_bind (fun _ _ => rfl) ?_
  refine runs_bind (m := 0) (J := fun _ => ({ g with timeout := kept } : Group).In spins)
    (fun w hclock h => ?_) fun _ => runs_motors (g := { g with timeout := kept })
      (runs_bind (runs_tellAll fun id hid => ?_) fun _ => runs_pure fun _ _ h => h)
  · refine ⟨(), { w with parts := withTimeout w.parts g.id (.integer kept) }, rfl, hclock, ⟨?_,
      fun id hid => (h.motors id hid).withTimeout _ _, h.untold, h.spins_eq⟩, by simp [World.pauses]⟩
    rw [withTimeout, Array.getElem?_modify, if_pos rfl, h.self]
    rfl
  · refine keeps_motor hid (by decide) ⟨rfl, rfl, rfl, rfl⟩ rfl fun w hclock h => ?_
    exact ⟨_, { w with parts := withTimeout w.parts id new }, rfl, hclock, h.withTimeout hid new,
      by simp [World.pauses]⟩

/-- Makes a group of motors with a timeout. -/
def groupWith (edition : Edition) (depth : Nat) (motors : List Nat) (timeout : Int)
    (units : Value) : Act Value := do
  let group ← call edition depth (.kind "MotorGroup") (motors.map .part) []
  let _ ← callOn edition depth group "set_timeout" [.integer timeout, units] []
  return group

/-- The label of a part. -/
def labelOf (parts : Array Part) (id : Nat) : String := (parts[id]?.map Part.label).getD ""

/-- The group that is made next of these motors. -/
def next (w : World) (motors : List Nat) : Group :=
  ⟨w.parts.size, (w.parts.filter fun p => p.kind = "MotorGroup").size, motors, labelOf w.parts,
    9223372036854775807⟩

/-- Are these motors of which a group can be made, by a program that may pause as often as it
needs? Nothing tells the group what to answer; its motors may be told to answer anything. -/
structure Ready (w : World) (ids : List Nat) : Prop where
  clock : w.pausesLeft = none
  motors : ∀ id ∈ ids, MotorAt w.parts id (labelOf w.parts id)
  untold : ∀ name, told w.answers (next w ids).part.label name = []

theorem run_onlyMotors {motors : List Nat} {label : Nat → String}
    (h : ∀ id ∈ motors, MotorAt w.parts id (label id)) :
    (MotorGroup.onlyMotors (motors.map .part)).run.run w = (.ok (motors.map .part), w) := by
  induction motors with
  | nil => rfl
  | cons id rest ih =>
    obtain ⟨⟨p, hp, hkind, -⟩, hrest⟩ := forall_mem_cons.mp h
    have hmotor : (isOfKind (.part id) "Motor").run.run w = (.ok true, w) := by
      refine (run_bind_of_run (run_part hp)).trans ?_
      rw [hkind]
      rfl
    rw [map_cons, MotorGroup.onlyMotors, run_bind_of_run hmotor]
    exact (run_bind_of_run (ih hrest)).trans rfl

variable {motors : List Nat} {timeout : Int}

theorem Ready.run_call (h : Ready w motors) :
    (call edition (depth + 1) (.kind "MotorGroup") (motors.map .part) []).run.run w
      = (.ok (.part w.parts.size), { w with parts := w.parts.push (next w motors).part }) := by
  let p : Part := { (next w motors).part with attributes := {} }
  have hp : (w.parts.push p)[w.parts.size]? = some p := by simp
  have hset (p : Part) (f : Part → Part) :
      (w.parts.push p).modify w.parts.size f = w.parts.push (f p) := by grind
  obtain ⟨-, htake⟩ | ⟨answer, rest, htold, -⟩ :=
    run_takeAnswer { w with parts := w.parts.push p } p "__init__"
  · unfold call
    refine (run_bind_of_run rfl).trans ((run_bind_of_run (run_part hp)).trans ?_)
    refine (run_bind_of_run htake).trans ((run_bind_of_run (a := .nothing) ?_).trans rfl)
    refine (run_bind_of_run rfl).trans
      ((run_bind_of_run (run_onlyMotors fun id hid => (h.motors id hid).push p)).trans ?_)
    refine (run_bind_of_run (a := ()) rfl).trans ((run_bind_of_run (a := ()) rfl).trans ?_)
    dsimp only
    rw [hset, hset]
    rfl
  · exact absurd (htold.symm.trans (h.untold "__init__")) (cons_ne_nil _ _)

/-- The group that is made of these motors and given a timeout. -/
def made (w : World) (motors : List Nat) (timeout : Int) (units : Value) : Group :=
  { next w motors with timeout := keptTimeout timeout units }

theorem Ready.exists_run_groupWith (h : Ready w motors) (htimeout : 0 < timeout) (units : Value) :
    ∃ w', w'.pausesLeft = none
      ∧ (groupWith edition (depth + 2) motors timeout units).run.run w
        = (.ok (.part w.parts.size), w')
      ∧ (made w motors timeout units).In (spinsIn w.answers) w'.parts w'.answers := by
  obtain ⟨new, hkept⟩ := exists_timeouts htimeout units
  have hin : (next w motors).In (spinsIn w.answers) (w.parts.push (next w motors).part) w.answers :=
    ⟨by simp [next], fun id hid => (h.motors id hid).push _, h.untold, fun _ => rfl⟩
  have hset : Runs ((next w motors).In (spinsIn w.answers)) 0 (callOn edition (depth + 2)
        (.part w.parts.size) "set_timeout" [.integer timeout, units] [])
      fun _ => (made w motors timeout units).In (spinsIn w.answers) :=
    runs_callOn (g := next w motors) ⟨rfl, rfl, rfl, rfl⟩ rfl rfl
      (runs_setTimeout edition depth ⟨[("self", .part w.parts.size), ("timeout", .integer timeout),
        ("units", units)], []⟩ rfl hkept)
  obtain ⟨a, w', hrun, hclock, hin', -⟩ :=
    hset { w with parts := w.parts.push (next w motors).part } h.clock hin
  refine ⟨w', hclock, ?_, hin'⟩
  rw [groupWith, run_bind_of_run h.run_call]
  exact (run_bind_of_run hrun).trans rfl

/-! ## How long a group waits -/

/-- A number of milliseconds rounded up to tens. -/
def roundedUp (time : Int) : Int := (time + 9) / 10 * 10

/-- How long pauses of whole seconds are together, in milliseconds. -/
def lasting : List Value → Int
  | [] => 0
  | duration :: rest => 1000 * duration.integer?.getD 0 + lasting rest

/-- A group of motors with a timeout that spins by a rotation and waits comes back. It pauses exactly
as often as its motors say, one question after the other, that they spin, and at most once for each
ten milliseconds of its timeout. All its pauses are of ten seconds. So together they are at most a
thousand times as long as the timeout, rounded up to ten milliseconds, and they keep it exactly if a
thousand times their number is at most the number of its tens. -/
theorem wait_of_group_ends (h : Ready w motors) (htimeout : 0 < timeout) (units : Value)
    (edition : Edition) (depth : Nat) :
    ∃ group w', (groupWith edition (depth + 6) motors timeout units).run.run w = (.ok group, w')
      ∧ ∀ name ∈ ["spin_to_position", "spin_for"], ∀ operation,
        operation? edition "MotorGroup" name = some operation →
      ∀ arguments named bound,
        bind operation.parameters (group :: arguments) named = .ok bound →
        (bound.get "wait").isTrue → ∀ rotation,
        bound.get "units" = unit ("RotationUnits." ++ rotation) →
      ∃ result w'', (callOn edition (depth + 6) group name arguments named).run.run w'
          = (.ok result, w'')
        ∧ ∃ new, w''.pauses = w'.pauses ++ new ∧ (∀ duration ∈ new, duration = .integer 10)
          ∧ new.length = (made w motors timeout units).pauseCount (spinsIn w.answers)
          ∧ lasting new ≤ 1000 * roundedUp (inMilliseconds timeout units)
          ∧ (lasting new ≤ roundedUp (inMilliseconds timeout units)
            ↔ 1000 * new.length ≤ (inMilliseconds timeout units + 9) / 10) := by
  obtain ⟨w', hclock, hgroup, hin⟩ := h.exists_run_groupWith htimeout units
  refine ⟨_, w', hgroup, ?_⟩
  intro name hname operation hoperation arguments named bound hbind hwait rotation hunits
  obtain ⟨result, w'', hcall, -, -, hpauses⟩ :=
    runs_spin (g := made w motors timeout units) hname hoperation hbind hwait hunits w' hclock hin
  refine ⟨result, w'', hcall, _, hpauses, fun _ => eq_of_mem_replicate, length_replicate, ?_⟩
  have hlasting (m : Nat) : lasting (List.replicate m (.integer 10)) = 1000 * (10 * m) := by
    induction m with
    | zero => rfl
    | succ m ih =>
      rw [replicate_succ, lasting, ih]
      simp only [Value.integer?, Option.getD_some]
      omega
  have hkept : 0 < (made w motors timeout units).timeout
      ∧ (made w motors timeout units).timeout ≤ inMilliseconds timeout units := by
    show 0 < keptTimeout timeout units ∧ keptTimeout timeout units ≤ _
    unfold keptTimeout inMilliseconds
    split <;> omega
  have hcount := (made w motors timeout units).pauseCount_le (spinsIn w.answers)
  rw [hlasting, length_replicate, roundedUp]
  omega

/-- A world with one motor. -/
def oneMotor : World := { World.empty with parts := #[⟨"Motor", 0, {}, none⟩] }

/-- A group of one motor with a timeout of a hundred milliseconds comes back. -/
theorem wait_of_one_motor_ends :
    ∃ group w', (groupWith .current 6 [0] 100 (unit "TimeUnits.MSEC")).run.run oneMotor
        = (.ok group, w')
      ∧ ∃ result w'', (callOn .current 6 group "spin_to_position" [.integer 90] []).run.run w'
          = (.ok result, w'')
        ∧ ∃ new, w''.pauses = w'.pauses ++ new ∧ (∀ duration ∈ new, duration = .integer 10)
          ∧ new.length = 10 ∧ lasting new ≤ 1000 * roundedUp 100
          ∧ (lasting new ≤ roundedUp 100 ↔ 1000 * new.length ≤ ((100 : Int) + 9) / 10) := by
  have hready : Ready oneMotor [0] :=
    ⟨rfl, forall_mem_singleton.mpr ⟨⟨"Motor", 0, {}, none⟩, rfl, rfl, rfl, fun _ _ => rfl⟩,
      fun _ => rfl⟩
  obtain ⟨group, w', hgroup, hspin⟩ := wait_of_group_ends hready (show (0 : Int) < 100 by decide)
    (unit "TimeUnits.MSEC") .current 0
  exact ⟨group, w', hgroup, hspin "spin_to_position" (by decide) _ rfl [.integer 90] [] _ rfl rfl
    "DEG" rfl⟩

/-- A group of one motor turns it by a right angle. -/
def quarterTurn (timeout : Int) : Act Value := do
  let group ← groupWith .current 6 [0] timeout (unit "TimeUnits.MSEC")
  callOn .current 6 group "spin_to_position" [.integer 90] []

/-- A wait may last longer than the timeout: a motor that still spins after a hundred milliseconds
is waited for a hundred seconds. -/
theorem wait_outlasts_timeout :
    ((quarterTurn 100).run.run oneMotor).1.isOk
    ∧ roundedUp 100 < lasting ((quarterTurn 100).run.run oneMotor).2.pauses := by
  decide +kernel

end Group

end RobotKit.Device
