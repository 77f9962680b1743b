import SimpleForwarder.Lib.Program

/-!
Contract: postconditions of effect programs, and their execution.

Owns: `Ensures`, a property of the events and the outcome of every run, with
one rule for each way programs are composed; the returning runs of a
sequence; and `exec`, the run of a program against an environment that is
given as a function.

The rules let a property of a long program be read off its parts: the
postcondition of the first part is the precondition under which the rest is
considered.

Does not own: any operation.
-/

namespace EffectProgram

open Program

variable {Op : Type} {Resp : Op → Type} {E E' α β : Type}

/-- Every run of the program satisfies `post`. -/
def Ensures (program : Program Op Resp E α)
    (post : List (Event Op Resp) → Outcome E α → Prop) : Prop :=
  ∀ start events outcome stop, Runs program start events outcome stop → post events outcome

variable {program : Program Op Resp E α} {rest : α → Program Op Resp E β}

namespace Ensures

theorem ret {value : α} {post : List (Event Op Resp) → Outcome E α → Prop}
    (holds : post [] (.returned value)) : Ensures (.ret value) post := by
  intro start events outcome stop run
  obtain ⟨rfl, rfl, rfl⟩ := runs_ret_iff.mp run
  exact holds

theorem fail {error : E} {post : List (Event Op Resp) → Outcome E α → Prop}
    (holds : post [] (.failed error)) : Ensures (.fail error) post := by
  intro start events outcome stop run
  obtain ⟨rfl, rfl, rfl⟩ := runs_fail_iff.mp run
  exact holds

theorem imp {post post' : List (Event Op Resp) → Outcome E α → Prop} (ensures : Ensures program post)
    (weaker : ∀ events outcome, post events outcome → post' events outcome) :
    Ensures program post' :=
  fun start events outcome stop run => weaker events outcome (ensures start events outcome stop run)

/-- Sequencing. A failing or pending first part ends the whole. -/
theorem bind {middle : List (Event Op Resp) → Outcome E α → Prop}
    {post : List (Event Op Resp) → Outcome E β → Prop} (first : Ensures program middle)
    (returned : ∀ value before, middle before (.returned value) →
      Ensures (rest value) fun after outcome => post (before ++ after) outcome)
    (failed : ∀ error events, middle events (.failed error) → post events (.failed error))
    (cut : ∀ events, middle events .cut → post events .cut) :
    Ensures (program.bind rest) post := by
  intro start events outcome stop run
  rcases runs_bind_iff.mp run with
    ⟨value, between, before, after, firstRun, restRun, rfl⟩ | ⟨error, firstRun, rfl⟩ |
      ⟨firstRun, rfl⟩
  · exact returned value before (first _ _ _ _ firstRun) _ _ _ _ restRun
  · exact failed error events (first _ _ _ _ firstRun)
  · exact cut events (first _ _ _ _ firstRun)

/-- A computed result performs nothing. -/
theorem settle (result : Except E α) :
    Ensures (Program.settle result : Program Op Resp E α) fun events _ => events = [] :=
  fun _ _ _ _ run => (runs_settle_iff.mp run).1

/-- One operation is one event. -/
theorem performOr {op : Op} {result : Resp op → Except E α} :
    Ensures (Program.performOr op result) fun events _ =>
      ∃ time response, events = [⟨op, time, response⟩] := by
  intro start events outcome stop run
  obtain ⟨-, ⟨answer, _, _, rfl, _⟩ | ⟨answer, _, _, rfl, _⟩ | ⟨progress, rfl, _⟩⟩ :=
    runs_performOr_iff.mp run
  · exact ⟨stop, .ready answer, rfl⟩
  · exact ⟨stop, .ready answer, rfl⟩
  · exact ⟨stop, .interrupted progress, rfl⟩

/-- Operations bounded by `Only` are a postcondition. -/
theorem of_only {allowed : Op → Prop} (only : program.Only allowed) :
    Ensures program fun events _ => ∀ event ∈ events, allowed event.op :=
  fun _ _ _ _ run => run.only only

/-- A reified failure leaves the events as they are. -/
theorem attempt {post : List (Event Op Resp) → Outcome E α → Prop}
    {post' : List (Event Op Resp) → Outcome E' (Except E α) → Prop}
    (ensures : Ensures program post)
    (returned : ∀ value events, post events (.returned value) → post' events (.returned (.ok value)))
    (failed : ∀ error events, post events (.failed error) →
      post' events (.returned (.error error)))
    (cut : ∀ events, post events .cut → post' events .cut) : Ensures program.attempt post' := by
  intro start events outcome stop run
  rcases runs_attempt_iff.mp run with ⟨value, inner, rfl⟩ | ⟨error, inner, rfl⟩ | ⟨inner, rfl⟩
  · exact returned value events (ensures _ _ _ _ inner)
  · exact failed error events (ensures _ _ _ _ inner)
  · exact cut events (ensures _ _ _ _ inner)

/-- A deadline ends a program where it is pending. -/
theorem timeout {post : List (Event Op Resp) → Outcome E α → Prop}
    {post' : List (Event Op Resp) → Outcome E' (Option (Except E α)) → Prop} {duration : Nat}
    (ensures : Ensures program post)
    (returned : ∀ value events, post events (.returned value) →
      post' events (.returned (some (.ok value))))
    (failed : ∀ error events, post events (.failed error) →
      post' events (.returned (some (.error error))))
    (cut : ∀ events, post events .cut → post' events .cut)
    (expired : ∀ events, post events .cut → post' events (.returned none)) :
    Ensures (program.timeout duration) post' := by
  intro start events outcome stop run
  rcases runs_timeout run with
    ⟨value, inner, rfl⟩ | ⟨error, inner, rfl⟩ | ⟨inner, rfl⟩ | ⟨inner, -, rfl⟩
  · exact returned value events (ensures _ _ _ _ inner)
  · exact failed error events (ensures _ _ _ _ inner)
  · exact cut events (ensures _ _ _ _ inner)
  · exact expired events (ensures _ _ _ _ inner)

/-- One operation under a deadline is one event. -/
theorem timeout_performOr {op : Op} {result : Resp op → Except E α} {duration : Nat} :
    Ensures ((Program.performOr op result).timeout duration :
        Program Op Resp E' (Option (Except E α)))
      fun events _ => ∃ time response, events = [⟨op, time, response⟩] :=
  Ensures.performOr.timeout (fun _ _ => id) (fun _ _ => id) (fun _ => id) (fun _ => id)

/-- A reified operation is one event. -/
theorem attempt_performOr {op : Op} {result : Resp op → Except E α} :
    Ensures ((Program.performOr op result).attempt : Program Op Resp E' (Except E α))
      fun events _ => ∃ time response, events = [⟨op, time, response⟩] :=
  Ensures.performOr.attempt (fun _ _ => id) (fun _ _ => id) (fun _ => id)

end Ensures

/-- A reified program does not fail. -/
theorem not_runs_attempt_failed {start stop : Nat} {events : List (Event Op Resp)} {error : E'} :
    ¬ Runs (program.attempt : Program Op Resp E' (Except E α)) start events (.failed error)
      stop := by
  intro run
  rcases runs_attempt_iff.mp run with ⟨_, _, impossible⟩ | ⟨_, _, impossible⟩ | ⟨_, impossible⟩
  · exact absurd impossible nofun
  · exact absurd impossible nofun
  · exact absurd impossible nofun

/-- A program under a deadline does not fail. -/
theorem not_runs_timeout_failed {start stop duration : Nat} {events : List (Event Op Resp)}
    {error : E'} :
    ¬ Runs (program.timeout duration : Program Op Resp E' (Option (Except E α))) start events
      (.failed error) stop := by
  intro run
  rcases runs_timeout run with
    ⟨_, _, impossible⟩ | ⟨_, _, impossible⟩ | ⟨_, impossible⟩ | ⟨_, _, impossible⟩
  · exact absurd impossible nofun
  · exact absurd impossible nofun
  · exact absurd impossible nofun
  · exact absurd impossible nofun

/-- One operation under a deadline is answered, or abandoned while pending. -/
theorem runs_timeout_performOr {op : Op} {result : Resp op → Except E α} {start stop duration : Nat}
    {events : List (Event Op Resp)} {outcome : Outcome E' (Option (Except E α))}
    (run : Runs ((performOr op result).timeout duration) start events outcome stop) :
    (∃ answer, events = [⟨op, stop, .ready answer⟩] ∧
        outcome = .returned (some (result answer))) ∨
      ∃ progress, events = [⟨op, stop, .interrupted progress⟩] ∧
        (outcome = .returned none ∨ outcome = .cut) := by
  have pending : ∀ {inner : List (Event Op Resp)},
      Runs (performOr op result : Program Op Resp E α) start inner .cut stop →
        ∃ progress, inner = [⟨op, stop, .interrupted progress⟩] := by
    intro inner innerRun
    obtain ⟨-, ⟨_, _, _, _, impossible⟩ | ⟨_, _, _, _, impossible⟩ | ⟨progress, same, -⟩⟩ :=
      runs_performOr_iff.mp innerRun
    · exact absurd impossible nofun
    · exact absurd impossible nofun
    · exact ⟨progress, same⟩
  rcases runs_timeout run with
    ⟨value, inner, rfl⟩ | ⟨error, inner, rfl⟩ | ⟨inner, rfl⟩ | ⟨inner, -, rfl⟩
  · obtain ⟨-, ⟨answer, _, accepted, rfl, same⟩ | ⟨_, _, _, _, impossible⟩ |
      ⟨_, _, impossible⟩⟩ := runs_performOr_iff.mp inner
    · cases same
      exact .inl ⟨answer, rfl, by rw [accepted]⟩
    · exact absurd impossible nofun
    · exact absurd impossible nofun
  · obtain ⟨-, ⟨_, _, _, _, impossible⟩ | ⟨answer, _, refused, rfl, same⟩ |
      ⟨_, _, impossible⟩⟩ := runs_performOr_iff.mp inner
    · exact absurd impossible nofun
    · cases same
      exact .inl ⟨answer, rfl, by rw [refused]⟩
    · exact absurd impossible nofun
  · obtain ⟨progress, rfl⟩ := pending inner
    exact .inr ⟨progress, rfl, .inr rfl⟩
  · obtain ⟨progress, rfl⟩ := pending inner
    exact .inr ⟨progress, rfl, .inl rfl⟩

/-- The returning runs of a sequence pass through the first part's value. -/
theorem runs_bind_returned_iff {start stop : Nat} {events : List (Event Op Resp)} {result : β} :
    Runs (program.bind rest) start events (.returned result) stop ↔
      ∃ value middle before after, Runs program start before (.returned value) middle ∧
        Runs (rest value) middle after (.returned result) stop ∧ events = before ++ after := by
  rw [runs_bind_iff]
  constructor
  · rintro (through | ⟨error, -, impossible⟩ | ⟨-, impossible⟩)
    · exact through
    · exact absurd impossible nofun
    · exact absurd impossible nofun
  · exact .inl

/-! ## Execution against a given environment -/

/-- The run in which every operation is answered at once by `answer`, until
it has no answer. -/
def exec {σ : Type} (answer : σ → (op : Op) → Option (Resp op × σ)) (time : Nat) :
    Program Op Resp E α → σ → List (Event Op Resp) × Outcome E α
  | .ret value, _ => ([], .returned value)
  | .fail error, _ => ([], .failed error)
  | .clock next, state => exec answer time (next time) state
  | .call op _ next, state =>
      match answer state op with
      | some (value, state) =>
          let rest := exec answer time (next (.ready value)) state
          (⟨op, time, .ready value⟩ :: rest.1, rest.2)
      | none => ([⟨op, time, .interrupted 0⟩], .cut)

theorem runs_exec {σ : Type} (answer : σ → (op : Op) → Option (Resp op × σ)) (time : Nat)
    (program : Program Op Resp E α) (state : σ) :
    Runs program time (exec answer time program state).1 (exec answer time program state).2
      time := by
  induction program generalizing state with
  | ret value => exact .ret value time
  | fail error => exact .fail error time
  | clock next inductionHypothesis => exact .clock (inductionHypothesis time state)
  | call op deadlines next inductionHypothesis =>
      unfold exec
      split
      · next value next' answered =>
          exact .ready value (Nat.le_refl _) (inductionHypothesis _ next')
      · exact .cut 0 (Nat.le_refl _)

/-! ### Sequencing an execution -/

/-- An outcome followed by a computation that performs nothing. -/
def Outcome.andThen (outcome : Outcome E α) (result : α → Except E β) : Outcome E β :=
  match outcome with
  | .returned value =>
      match result value with
      | .ok value => .returned value
      | .error error => .failed error
  | .failed error => .failed error
  | .cut => .cut

section

variable {σ : Type} {answer : σ → (op : Op) → Option (Resp op × σ)} {time : Nat}
  {state next : σ} {op : Op} {response : Resp op} {result : Resp op → Except E α}

theorem exec_performOr_ok {value : α} (answered : answer state op = some (response, next))
    (accepted : result response = .ok value) :
    exec answer time ((performOr op result).bind rest) state =
      (⟨op, time, .ready response⟩ :: (exec answer time (rest value) next).1,
        (exec answer time (rest value) next).2) := by
  simp only [performOr, perform, Program.bind, exec, answered, accepted, settle]

theorem exec_performOr_none (silent : answer state op = none) :
    exec answer time ((performOr op result).bind rest) state =
      ([⟨op, time, .interrupted 0⟩], .cut) := by
  simp only [performOr, perform, Program.bind, exec, silent]

/-- A computation after the last operation does not change what was performed. -/
theorem exec_bind_settle (result : α → Except E β) {γ : Type} (finish : α → β → γ) :
    exec answer time (program.bind fun value => (settle (result value)).bind fun item =>
        .ret (finish value item)) state =
      ((exec answer time program state).1,
        (exec answer time program state).2.andThen fun value =>
          (result value).map (finish value)) := by
  induction program generalizing state with
  | ret value =>
      simp only [Program.bind, exec, Outcome.andThen]
      cases result value with
      | ok item => rfl
      | error error => rfl
  | fail error => rfl
  | clock next inductionHypothesis => exact inductionHypothesis time
  | call op deadlines next inductionHypothesis =>
      simp only [Program.bind, exec]
      cases answer state op with
      | none => rfl
      | some answered =>
          dsimp only
          rw [inductionHypothesis]

end

end EffectProgram
