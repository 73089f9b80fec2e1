import RobotKit.Host.Basic

/-!
# Actions that end well

`Ends action s Q` says that an action ends without a failure from the state `s`, with a result and
a state that have the property `Q`. `Results action s Q` says the same of every way to end, failures
included, and `Fails action s E` says what holds of every failure. `Upholds I action P` says that the
action keeps the property `I` of the host however it ends, and that its result has the property `P`.
One rule for each way to build an action takes such a statement apart, so `simp` can run an action
symbolically.
-/

namespace RobotKit.Host

open List

variable {text : String} {f : State → State} {failure : Failure}
  {Q : Except Failure PUnit → State → Prop} {t : State} {s' : State} {lines : List String}

theorem exists_eq_ok_of_isSome {ε α : Type} {x : Except ε α} (h : x.toOption.isSome) :
    ∃ a, x = .ok a := by
  cases x with
  | error e => exact nomatch h
  | ok a => exact ⟨a, rfl⟩

theorem toOption_eq_some_iff {ε α : Type} {x : Except ε α} {a : α} :
    x.toOption = some a ↔ x = .ok a := by
  cases x with
  | error e => simp [Except.toOption]
  | ok b => simp [Except.toOption]

/-- A text is shown if its markup can be read. -/
theorem exists_render_eq_ok (h : (Console.plainText text).toOption.isSome) :
    ∃ lines, Console.render text = .ok lines := by
  obtain ⟨plain, hplain⟩ := exists_eq_ok_of_isSome h
  rw [Console.render, hplain]
  exact ⟨_, rfl⟩

variable {α β : Type} {action : Action α} {s : State}

/-- Does the action end well from a state, with a result and a state that have the property? -/
def Ends (action : Action α) (s : State) (Q : α → State → Prop) : Prop :=
  ∃ a s', action.run.run s = (.ok a, s') ∧ Q a s'

theorem ends_iff_of_run_eq {a : α} (h : action.run.run s = (.ok a, s')) {Q : α → State → Prop} :
    Ends action s Q ↔ Q a s' := by
  unfold Ends
  rw [h]
  constructor
  · rintro ⟨b, t, heq, hQ⟩
    obtain ⟨hresult, rfl⟩ := Prod.mk.inj heq
    obtain rfl := Except.ok.inj hresult
    exact hQ
  · exact fun hQ => ⟨a, s', rfl, hQ⟩

theorem ends_true_iff :
    Ends action s (fun _ _ => True) ↔ ∃ a, (action.run.run s).1 = .ok a := by
  constructor
  · rintro ⟨a, t, hrun, -⟩
    exact ⟨a, congrArg Prod.fst hrun⟩
  · rintro ⟨a, ha⟩
    exact ⟨a, _, Prod.ext ha rfl, trivial⟩

theorem ends_of_run_eq {a : α} (h : action.run.run s = (.ok a, t)) :
    Ends action s fun b u => b = a ∧ u = t :=
  ⟨a, t, h, rfl, rfl⟩

theorem run_eq_of_ends {a : α} (h : Ends action s fun b u => b = a ∧ u = t) :
    action.run.run s = (.ok a, t) := by
  obtain ⟨b, u, hrun, rfl, rfl⟩ := h
  exact hrun

@[simp] theorem ends_pure {a : α} {Q : α → State → Prop} : Ends (pure a) s Q ↔ Q a s :=
  ends_iff_of_run_eq rfl

theorem run_bind (action : Action α) (next : α → Action β) (s : State) :
    (action >>= next).run.run s = match action.run.run s with
      | (.ok a, s') => (next a).run.run s'
      | (.error e, s') => (.error e, s') := by
  show StateT.bind action.run (ExceptT.bindCont next) s = _
  unfold StateT.bind
  show (match action.run.run s with | (a, s') => ExceptT.bindCont next a s' : Id _) = _
  rcases action.run.run s with ⟨a | a, s'⟩ <;> rfl

theorem run_get (s : State) : (get : Action State).run.run s = (.ok s, s) := rfl

@[simp] theorem ends_bind {next : α → Action β} {Q : β → State → Prop} :
    Ends (action >>= next) s Q ↔ Ends action s fun a s' => Ends (next a) s' Q := by
  constructor
  · rintro ⟨b, t, h, hQ⟩
    rw [run_bind] at h
    split at h
    · rename_i a s' haction
      exact ⟨a, s', haction, b, t, h, hQ⟩
    · exact nomatch (Prod.mk.inj h).1
  · rintro ⟨a, s', haction, b, t, h, hQ⟩
    refine ⟨b, t, ?_, hQ⟩
    rw [run_bind, haction]
    exact h

@[simp] theorem ends_map {f : α → β} {Q : β → State → Prop} :
    Ends (f <$> action) s Q ↔ Ends action s fun a s' => Q (f a) s' := by
  rw [map_eq_pure_bind, ends_bind]
  simp only [ends_pure]

@[simp] theorem ends_get {Q : State → State → Prop} : Ends get s Q ↔ Q s s :=
  ends_iff_of_run_eq rfl

@[simp] theorem ends_modify {Q : PUnit → State → Prop} :
    Ends (modify f) s Q ↔ Q () (f s) :=
  ends_iff_of_run_eq rfl

@[simp] theorem not_ends_fail {Q : α → State → Prop} :
    ¬ Ends (fail failure) s Q := by
  rintro ⟨a, s', h, -⟩
  exact nomatch (Prod.mk.inj h).1

@[simp] theorem ends_print {Q : Unit → State → Prop} :
    Ends (print text) s Q ↔ Q () { s with output := s.output ++ text } :=
  ends_iff_of_run_eq rfl

@[simp] theorem ends_say {Q : Unit → State → Prop} :
    Ends (say text) s Q
      ↔ ∃ lines, Console.render text = .ok lines ∧ Q () { s with output := s.output ++ lines } := by
  unfold say
  cases Console.render text with
  | ok lines => simp
  | error e => simp

/-! ## All ways to end -/

/-- Does the action end from a state, well or not, with a result and a state that have the
property? -/
def Results (action : Action α) (s : State) (Q : Except Failure α → State → Prop) : Prop :=
  Q (action.run.run s).1 (action.run.run s).2

theorem results_iff_of_run_eq {result : Except Failure α} (h : action.run.run s = (result, s'))
    {Q : Except Failure α → State → Prop} :
    Results action s Q ↔ Q result s' := by
  rw [Results, h]

@[simp] theorem results_pure {a : α} {Q : Except Failure α → State → Prop} :
    Results (pure a) s Q ↔ Q (.ok a) s :=
  results_iff_of_run_eq rfl

@[simp] theorem results_fail {Q : Except Failure α → State → Prop} :
    Results (fail failure) s Q ↔ Q (.error failure) s :=
  results_iff_of_run_eq rfl

/-- A failure of the first action is one of both. -/
@[simp] theorem results_bind {next : α → Action β} {Q : Except Failure β → State → Prop} :
    Results (action >>= next) s Q ↔ Results action s fun result s' => match result with
      | .ok a => Results (next a) s' Q
      | .error e => Q (.error e) s' := by
  unfold Results
  rw [run_bind]
  rcases action.run.run s with ⟨e | a, s'⟩ <;> rfl

@[simp] theorem results_get {Q : Except Failure State → State → Prop} :
    Results get s Q ↔ Q (.ok s) s :=
  results_iff_of_run_eq rfl

@[simp] theorem results_modify :
    Results (modify f) s Q ↔ Q (.ok ()) (f s) :=
  results_iff_of_run_eq rfl

@[simp] theorem results_print {Q : Except Failure Unit → State → Prop} :
    Results (print text) s Q ↔ Q (.ok ()) { s with output := s.output ++ text } :=
  results_iff_of_run_eq rfl

theorem results_say {Q : Except Failure Unit → State → Prop} :
    Results (say text) s Q ↔ match Console.render text with
      | .ok lines => Q (.ok ()) { s with output := s.output ++ lines }
      | .error e => Q (.error (.markup e)) s := by
  unfold say
  cases Console.render text with
  | ok lines => simp
  | error e => simp

/-- Printing lines changes nothing but the output. -/
@[simp] theorem results_forM_printLine :
    Results (forM lines printLine) s Q
      ↔ Q (.ok ()) { s with
          output := lines.foldl (fun text line => text ++ (line ++ "\n")) s.output } := by
  induction lines generalizing s with
  | nil => exact results_pure
  | cons line rest ih => simp only [forM_cons, results_bind, printLine, results_print, ih,
      foldl_cons]

/-! ## Failures -/

/-- Does every failure of the action from a state, with the state that it leaves, have the
property? -/
def Fails (action : Action α) (s : State) (E : Failure → State → Prop) : Prop :=
  ∀ e s', action.run.run s = (.error e, s') → E e s'

variable {E : Failure → State → Prop}

theorem fails_pure (a : α) : Fails (pure a) s E := by
  intro e t hrun
  cases (Prod.mk.inj hrun).1

theorem fails_fail (h : E failure s) : Fails (fail failure : Action α) s E := by
  intro e t hrun
  obtain ⟨hresult, rfl⟩ := Prod.mk.inj hrun
  obtain rfl := Except.error.inj hresult
  exact h

/-- A sequence fails in its first action, or after it. -/
theorem fails_bind {next : α → Action β} (h : Fails action s E)
    (hnext : ∀ a t, action.run.run s = (.ok a, t) → Fails (next a) t E) :
    Fails (action >>= next) s E := by
  intro e t hrun
  rw [run_bind] at hrun
  split at hrun
  · rename_i a u haction
    exact hnext a u haction e t hrun
  · rename_i failure u haction
    obtain ⟨hresult, rfl⟩ := Prod.mk.inj hrun
    obtain rfl := Except.error.inj hresult
    exact h failure u haction

theorem fails_get {next : State → Action β} (h : Fails (next s) s E) :
    Fails (get >>= next) s E :=
  h

theorem fails_modify : Fails (modify f) s E := by
  intro e t hrun
  cases (Prod.mk.inj hrun).1

theorem fails_say (h : ∀ e, E (.markup e) s) : Fails (say text) s E := by
  unfold say
  cases Console.render text with
  | ok lines => exact fails_modify
  | error e => exact fails_fail (h e)

/-! ## Handled failures -/

section Handling

variable {handler : Failure → Action α} {t : State}

theorem run_handle_of_ok {a : α} (h : action.run.run s = (.ok a, t)) :
    (handle action handler).run.run s = (.ok a, t) := by
  have hrun : StateT.run action s = (.ok a, t) := h
  unfold handle
  simp only [tryCatch, tryCatchThe, MonadExceptOf.tryCatch, ExceptT.tryCatch, ExceptT.run_mk,
    StateT.run_bind, hrun]
  rfl

/-- The handler starts from the state that the failure left. -/
theorem run_handle_of_error {e : Failure} (h : action.run.run s = (.error e, t)) :
    (handle action handler).run.run s
      = (if e.isExit then fail e else handler e).run.run t := by
  have hrun : StateT.run action s = (.error e, t) := h
  unfold handle
  simp only [tryCatch, tryCatchThe, MonadExceptOf.tryCatch, ExceptT.tryCatch, ExceptT.run_mk,
    StateT.run_bind, hrun]
  rfl

theorem run_handle_congr {action' : Action α} (h : action.run.run s = action'.run.run s') :
    (handle action handler).run.run s = (handle action' handler).run.run s' := by
  rcases hrun : action'.run.run s' with ⟨e | a, t⟩
  · rw [run_handle_of_error (h.trans hrun), run_handle_of_error hrun]
  · rw [run_handle_of_ok (h.trans hrun), run_handle_of_ok hrun]

end Handling

/-! ## Properties that are kept -/

/-- Does the action keep a property of the host, however it ends, and has its result, if it ends
well, the other property? -/
def Upholds (I : State → Prop) (action : Action α) (P : α → Prop) : Prop :=
  ∀ s, I s → Results action s fun result t => I t ∧ ∀ a, result = .ok a → P a

variable {I : State → Prop} {P : α → Prop}

theorem Upholds.of_ok {a : α} (h : Upholds I action P) (hs : I s)
    (hrun : action.run.run s = (.ok a, t)) : I t ∧ P a := by
  obtain ⟨ht, hresult⟩ := (results_iff_of_run_eq hrun).mp (h s hs)
  exact ⟨ht, hresult a rfl⟩

theorem Upholds.of_error {e : Failure} (h : Upholds I action P) (hs : I s)
    (hrun : action.run.run s = (.error e, t)) : I t :=
  ((results_iff_of_run_eq hrun).mp (h s hs)).1

theorem upholds_pure {a : α} (h : P a) : Upholds I (pure a) P := by
  intro s hs
  refine results_pure.mpr ⟨hs, fun b hb => ?_⟩
  obtain rfl := Except.ok.inj hb
  exact h

theorem upholds_fail : Upholds I (fail failure) P := by
  intro s hs
  refine results_fail.mpr ⟨hs, fun a ha => ?_⟩
  cases ha

/-- What the result of the first action has can be used for the second. -/
theorem upholds_bind {next : α → Action β} {Q : β → Prop} (h : Upholds I action P)
    (hnext : ∀ a, P a → Upholds I (next a) Q) : Upholds I (action >>= next) Q := by
  intro s hs
  unfold Results
  rw [run_bind]
  split
  · rename_i a t hrun
    obtain ⟨ht, ha⟩ := h.of_ok hs hrun
    exact hnext a ha t ht
  · rename_i e t hrun
    refine ⟨h.of_error hs hrun, fun b hb => ?_⟩
    cases hb

/-- The host that is looked at has the property. -/
theorem upholds_get : Upholds I get I := by
  intro s hs
  refine results_get.mpr ⟨hs, fun t ht => ?_⟩
  obtain rfl := Except.ok.inj ht
  exact hs

theorem upholds_modify (h : ∀ s, I s → I (f s)) :
    Upholds I (modify f) fun _ => True :=
  fun s hs => results_modify.mpr ⟨h s hs, fun _ _ => trivial⟩

theorem upholds_say (h : ∀ s output, I s → I { s with output }) :
    Upholds I (say text) fun _ => True := by
  unfold say
  split
  · exact upholds_modify fun s hs => h s _ hs
  · exact upholds_fail

theorem upholds_forM {f : β → Action PUnit} {xs : List β}
    (h : ∀ x ∈ xs, Upholds I (f x) fun _ => True) : Upholds I (xs.forM f) fun _ => True := by
  induction xs with
  | nil => exact upholds_pure trivial
  | cons x rest ih =>
    obtain ⟨hx, hrest⟩ := forall_mem_cons.mp h
    exact upholds_bind hx fun _ _ => ih hrest

theorem upholds_allM {f : β → Action Bool} {xs : List β}
    (h : ∀ x, Upholds I (f x) fun _ => True) : Upholds I (xs.allM f) fun _ => True := by
  induction xs with
  | nil => exact upholds_pure trivial
  | cons x rest ih =>
    rw [List.allM]
    refine upholds_bind (h x) fun b _ => ?_
    cases b with
    | true => exact ih
    | false => exact upholds_pure trivial

/-- A host on which nothing goes on, with some files and a current directory. -/
def quietHost (files : Files.Node) (directory : Files.Location) : State where
  surroundings := {
    remotes := {}
    machine := ⟨"", "", 0⟩
    installation := .installsNothing
    installer := .ofString "/installer"
    uploaderStatus := 0
    canReplace := false
    resources := .ofString "/resources"
    cache := .ofString "/cache" }
  files := files
  directory := directory
  downloaded := none
  output := ""
  complaints := ""
  started := []

end RobotKit.Host
