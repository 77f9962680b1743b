import Mathlib.Tactic.Common

/-!
Contract: effect programs with failure and scoped deadlines.

Owns: the syntax of sequential programs that perform operations of an
arbitrary signature, their sequencing, the reification of failures, deadline
scopes, and the runs of a program in an arbitrary environment.

A program that waits on one operation at a time is a tree: it returns, fails,
looks at the clock, or performs an operation and continues with the answer.
An operation performed inside deadline scopes may be answered by one of the
deadlines instead of by the operation. `Runs` lists the operations a program
performed with their answers; the environment that gives them is unrestricted,
and an observation may stop while an operation is pending. The rules at the
end (`runs_bind_iff`, `runs_timeout`, ...) describe the runs of a composed
program by the runs of its parts, so that no later proof looks inside the tree;
`Only` bounds the operations of a program in the same way.

Does not own: any operation, and any assumption about the environment.
-/

namespace EffectProgram

/-- What an operation performed under `scopes` deadlines is answered with:
its own result, or the expiry of one of the deadlines together with how far
the operation had come. -/
inductive Answer (R : Type) (scopes : Nat) where
  | ready (value : R)
  | elapsed (scope : Fin scopes) (progress : Nat)

/-- A program over the operations `Op`. The deadlines of a call are absolute
clock values, innermost scope first. -/
inductive Program (Op : Type) (Resp : Op → Type) (E α : Type) : Type where
  | ret (value : α)
  | fail (error : E)
  | clock (next : Nat → Program Op Resp E α)
  | call (op : Op) (deadlines : List Nat)
      (next : Answer (Resp op) deadlines.length → Program Op Resp E α)

/-- The recorded response to one operation. -/
inductive Response (R : Type) where
  | ready (value : R)
  | interrupted (progress : Nat)
deriving DecidableEq

/-- One operation of a run: what was performed, when it was answered, and the
response. -/
structure Event (Op : Type) (Resp : Op → Type) where
  op : Op
  time : Nat
  response : Response (Resp op)

/-- How an observed run ends. `cut` is an observation that stops while an
operation is pending. -/
inductive Outcome (E α : Type) where
  | returned (value : α)
  | failed (error : E)
  | cut
deriving DecidableEq

variable {Op : Type} {Resp : Op → Type} {E E' α β : Type}

namespace Program

/-! ## Composition -/

def bind : Program Op Resp E α → (α → Program Op Resp E β) → Program Op Resp E β
  | ret value, rest => rest value
  | fail error, _ => fail error
  | clock next, rest => clock fun time => (next time).bind rest
  | call op deadlines next, rest =>
      call op deadlines fun answer => (next answer).bind rest

instance : Monad (Program Op Resp E) where
  pure := ret
  bind := bind

@[simp] theorem bind_eq (program : Program Op Resp E α)
    (rest : α → Program Op Resp E β) : program >>= rest = program.bind rest := rfl

@[simp] theorem pure_eq (value : α) : (pure value : Program Op Resp E α) = ret value := rfl

theorem bind_ret (program : Program Op Resp E α) : program.bind ret = program := by
  induction program with
  | ret value => rfl
  | fail error => rfl
  | clock next inductionHypothesis =>
      simp only [bind]
      congr 1
      funext time
      exact inductionHypothesis time
  | call op deadlines next inductionHypothesis =>
      simp only [bind]
      congr 1
      funext answer
      exact inductionHypothesis answer

theorem bind_bind {γ : Type} (program : Program Op Resp E α) (rest : α → Program Op Resp E β)
    (last : β → Program Op Resp E γ) :
    (program.bind rest).bind last = program.bind fun value => (rest value).bind last := by
  induction program with
  | ret value => rfl
  | fail error => rfl
  | clock next inductionHypothesis =>
      simp only [bind]
      congr 1
      funext time
      exact inductionHypothesis time
  | call op deadlines next inductionHypothesis =>
      simp only [bind]
      congr 1
      funext answer
      exact inductionHypothesis answer

/-- Perform one operation outside every deadline scope. -/
def perform (op : Op) : Program Op Resp E (Resp op) :=
  call op [] fun
    | .ready value => ret value
    | .elapsed scope _ => scope.elim0

/-- Return or fail by a result computed without an operation. -/
def settle : Except E α → Program Op Resp E α
  | .ok value => ret value
  | .error error => fail error

/-- Perform one operation and return or fail by its result. -/
def performOr (op : Op) (result : Resp op → Except E α) : Program Op Resp E α :=
  (perform op).bind fun value => settle (result value)

/-- Continue with the result of a program, whether it returned or failed. -/
def attempt : Program Op Resp E α → Program Op Resp E' (Except E α)
  | ret value => ret (.ok value)
  | fail error => ret (.error error)
  | clock next => clock fun time => (next time).attempt
  | call op deadlines next => call op deadlines fun answer => (next answer).attempt

/-- Run a program inside one more deadline scope. The scope is appended as the
outermost one: an expiry of an inner scope is answered inside the program. -/
def timeoutAt (deadline : Nat) :
    Program Op Resp E α → Program Op Resp E' (Option (Except E α))
  | ret value => ret (some (.ok value))
  | fail error => ret (some (.error error))
  | clock next => clock fun time => (next time).timeoutAt deadline
  | call op deadlines next =>
      call op (deadlines ++ [deadline]) fun
        | .ready value => (next (.ready value)).timeoutAt deadline
        | .elapsed scope progress =>
            if inner : scope.val < deadlines.length then
              (next (.elapsed ⟨scope.val, inner⟩ progress)).timeoutAt deadline
            else ret none

/-- Run a program for at most `duration`. `none` is the expiry of the
deadline. -/
def timeout (duration : Nat) (program : Program Op Resp E α) :
    Program Op Resp E' (Option (Except E α)) :=
  clock fun time => program.timeoutAt (time + duration)

end Program

/-! ## Runs -/

open Program

/-- `Runs program start events outcome stop`: started at clock value `start`,
the program performs `events` and reaches `outcome` at `stop`. -/
inductive Runs : Program Op Resp E α → Nat → List (Event Op Resp) →
    Outcome E α → Nat → Prop where
  | ret (value : α) (start : Nat) : Runs (.ret value) start [] (.returned value) start
  | fail (error : E) (start : Nat) : Runs (.fail error) start [] (.failed error) start
  | clock {next : Nat → Program Op Resp E α} {start events outcome stop}
      (rest : Runs (next start) start events outcome stop) :
      Runs (.clock next) start events outcome stop
  | ready {op deadlines} {next : Answer (Resp op) deadlines.length → Program Op Resp E α}
      {start time events outcome stop} (value : Resp op) (later : start ≤ time)
      (rest : Runs (next (.ready value)) time events outcome stop) :
      Runs (.call op deadlines next) start (⟨op, time, .ready value⟩ :: events) outcome stop
  | elapsed {op deadlines} {next : Answer (Resp op) deadlines.length → Program Op Resp E α}
      {start time events outcome stop} (scope : Fin deadlines.length) (progress : Nat)
      (later : start ≤ time) (due : deadlines.get scope ≤ time)
      (rest : Runs (next (.elapsed scope progress)) time events outcome stop) :
      Runs (.call op deadlines next) start (⟨op, time, .interrupted progress⟩ :: events)
        outcome stop
  | cut {op deadlines} {next : Answer (Resp op) deadlines.length → Program Op Resp E α}
      {start time : Nat} (progress : Nat) (later : start ≤ time) :
      Runs (.call op deadlines next) start [⟨op, time, .interrupted progress⟩] .cut time

namespace Runs

theorem monotone {program : Program Op Resp E α} {start events outcome stop}
    (run : Runs program start events outcome stop) : start ≤ stop := by
  induction run with
  | ret | fail => exact Nat.le_refl _
  | clock _ inductionHypothesis => exact inductionHypothesis
  | ready _ later _ inductionHypothesis => exact Nat.le_trans later inductionHypothesis
  | elapsed _ _ later _ _ inductionHypothesis => exact Nat.le_trans later inductionHypothesis
  | cut _ later => exact later

end Runs

variable {start stop : Nat} {events : List (Event Op Resp)}

@[simp] theorem runs_ret_iff {value : α} {outcome : Outcome E α} :
    Runs (.ret value : Program Op Resp E α) start events outcome stop ↔
      events = [] ∧ outcome = .returned value ∧ stop = start := by
  constructor
  · intro run
    cases run
    exact ⟨rfl, rfl, rfl⟩
  · rintro ⟨rfl, rfl, rfl⟩
    exact .ret value _

@[simp] theorem runs_fail_iff {error : E} {outcome : Outcome E α} :
    Runs (.fail error : Program Op Resp E α) start events outcome stop ↔
      events = [] ∧ outcome = .failed error ∧ stop = start := by
  constructor
  · intro run
    cases run
    exact ⟨rfl, rfl, rfl⟩
  · rintro ⟨rfl, rfl, rfl⟩
    exact .fail error _

theorem runs_clock_iff {next : Nat → Program Op Resp E α} {outcome : Outcome E α} :
    Runs (.clock next) start events outcome stop ↔
      Runs (next start) start events outcome stop := by
  constructor
  · intro run
    cases run with
    | clock rest => exact rest
  · exact .clock

/-- Sequencing: the first part returns and the rest runs from there, or the
first part fails or is still pending. -/
theorem runs_bind_iff {program : Program Op Resp E α} {rest : α → Program Op Resp E β}
    {outcome : Outcome E β} :
    Runs (program.bind rest) start events outcome stop ↔
      (∃ value middle before after, Runs program start before (.returned value) middle ∧
        Runs (rest value) middle after outcome stop ∧ events = before ++ after) ∨
      (∃ error, Runs program start events (.failed error) stop ∧ outcome = .failed error) ∨
      (Runs program start events .cut stop ∧ outcome = .cut) := by
  constructor
  · intro run
    induction program generalizing start events with
    | ret value =>
        exact .inl ⟨value, start, [], events, .ret value start, run, rfl⟩
    | fail error =>
        obtain ⟨rfl, rfl, rfl⟩ := runs_fail_iff.mp run
        exact .inr (.inl ⟨error, .fail error _, rfl⟩)
    | clock next inductionHypothesis =>
        rcases inductionHypothesis start (runs_clock_iff.mp run) with
          ⟨value, middle, before, after, first, second, rfl⟩ | ⟨error, first, rfl⟩ | ⟨first, rfl⟩
        · exact .inl ⟨value, middle, before, after, .clock first, second, rfl⟩
        · exact .inr (.inl ⟨error, .clock first, rfl⟩)
        · exact .inr (.inr ⟨.clock first, rfl⟩)
    | call op deadlines next inductionHypothesis =>
        cases run with
        | ready answer later tail =>
            rcases inductionHypothesis _ tail with
              ⟨value, middle, before, after, first, second, rfl⟩ | ⟨error, first, rfl⟩ |
                ⟨first, rfl⟩
            · exact .inl ⟨value, middle, _ :: before, after, .ready answer later first, second, rfl⟩
            · exact .inr (.inl ⟨error, .ready answer later first, rfl⟩)
            · exact .inr (.inr ⟨.ready answer later first, rfl⟩)
        | elapsed scope progress later due tail =>
            rcases inductionHypothesis _ tail with
              ⟨value, middle, before, after, first, second, rfl⟩ | ⟨error, first, rfl⟩ |
                ⟨first, rfl⟩
            · exact .inl ⟨value, middle, _ :: before, after,
                .elapsed scope progress later due first, second, rfl⟩
            · exact .inr (.inl ⟨error, .elapsed scope progress later due first, rfl⟩)
            · exact .inr (.inr ⟨.elapsed scope progress later due first, rfl⟩)
        | cut progress later => exact .inr (.inr ⟨.cut progress later, rfl⟩)
  · rintro (⟨value, middle, before, after, first, second, rfl⟩ | ⟨error, first, rfl⟩ |
      ⟨first, rfl⟩)
    · induction program generalizing start before with
      | ret =>
          obtain ⟨rfl, same, rfl⟩ := runs_ret_iff.mp first
          cases same
          exact second
      | fail => exact absurd (runs_fail_iff.mp first).2.1 nofun
      | clock next inductionHypothesis =>
          exact .clock (inductionHypothesis start before (runs_clock_iff.mp first))
      | call op deadlines next inductionHypothesis =>
          cases first with
          | ready answer later tail => exact .ready answer later (inductionHypothesis _ _ tail)
          | elapsed scope progress later due tail =>
              exact .elapsed scope progress later due (inductionHypothesis _ _ tail)
    · induction program generalizing start events with
      | ret => exact absurd (runs_ret_iff.mp first).2.1 nofun
      | fail =>
          obtain ⟨rfl, same, rfl⟩ := runs_fail_iff.mp first
          cases same
          exact .fail error _
      | clock next inductionHypothesis =>
          exact .clock (inductionHypothesis start (runs_clock_iff.mp first))
      | call op deadlines next inductionHypothesis =>
          cases first with
          | ready answer later tail => exact .ready answer later (inductionHypothesis _ tail)
          | elapsed scope progress later due tail =>
              exact .elapsed scope progress later due (inductionHypothesis _ tail)
    · induction program generalizing start events with
      | ret => exact absurd (runs_ret_iff.mp first).2.1 nofun
      | fail => exact absurd (runs_fail_iff.mp first).2.1 nofun
      | clock next inductionHypothesis =>
          exact .clock (inductionHypothesis start (runs_clock_iff.mp first))
      | call op deadlines next inductionHypothesis =>
          cases first with
          | ready answer later tail => exact .ready answer later (inductionHypothesis _ tail)
          | elapsed scope progress later due tail =>
              exact .elapsed scope progress later due (inductionHypothesis _ tail)
          | cut progress later => exact .cut progress later

theorem runs_settle_iff {result : Except E α} {outcome : Outcome E α} :
    Runs (settle result : Program Op Resp E α) start events outcome stop ↔
      events = [] ∧ stop = start ∧
        ((∃ value, result = .ok value ∧ outcome = .returned value) ∨
          ∃ error, result = .error error ∧ outcome = .failed error) := by
  cases result with
  | ok value =>
      unfold settle
      rw [runs_ret_iff]
      constructor
      · rintro ⟨rfl, rfl, rfl⟩
        exact ⟨rfl, rfl, .inl ⟨value, rfl, rfl⟩⟩
      · rintro ⟨rfl, rfl, ⟨_, same, rfl⟩ | ⟨_, impossible, _⟩⟩
        · cases same
          exact ⟨rfl, rfl, rfl⟩
        · exact absurd impossible nofun
  | error error =>
      unfold settle
      rw [runs_fail_iff]
      constructor
      · rintro ⟨rfl, rfl, rfl⟩
        exact ⟨rfl, rfl, .inr ⟨error, rfl, rfl⟩⟩
      · rintro ⟨rfl, rfl, ⟨_, impossible, _⟩ | ⟨_, same, rfl⟩⟩
        · exact absurd impossible nofun
        · cases same
          exact ⟨rfl, rfl, rfl⟩

/-- One operation whose result decides between a value and a failure. -/
theorem runs_performOr_iff {op : Op} {result : Resp op → Except E α} {outcome : Outcome E α} :
    Runs (performOr op result) start events outcome stop ↔ start ≤ stop ∧
      ((∃ answer value, result answer = .ok value ∧ events = [⟨op, stop, .ready answer⟩] ∧
          outcome = .returned value) ∨
        (∃ answer error, result answer = .error error ∧ events = [⟨op, stop, .ready answer⟩] ∧
          outcome = .failed error) ∨
        ∃ progress, events = [⟨op, stop, .interrupted progress⟩] ∧ outcome = .cut) := by
  constructor
  · intro run
    cases run with
    | ready answer later rest =>
        have decided : Runs (settle (result answer)) _ _ outcome stop := rest
        obtain ⟨rfl, rfl, ⟨value, accepted, rfl⟩ | ⟨error, refused, rfl⟩⟩ :=
          runs_settle_iff.mp decided
        · exact ⟨later, .inl ⟨answer, value, accepted, rfl, rfl⟩⟩
        · exact ⟨later, .inr (.inl ⟨answer, error, refused, rfl, rfl⟩)⟩
    | elapsed scope => exact scope.elim0
    | cut progress later => exact ⟨later, .inr (.inr ⟨progress, rfl, rfl⟩)⟩
  · rintro ⟨later, ⟨answer, value, accepted, rfl, rfl⟩ | ⟨answer, error, refused, rfl, rfl⟩ |
      ⟨progress, rfl, rfl⟩⟩
    · exact .ready answer later
        (runs_settle_iff.mpr ⟨rfl, rfl, .inl ⟨value, accepted, rfl⟩⟩)
    · exact .ready answer later
        (runs_settle_iff.mpr ⟨rfl, rfl, .inr ⟨error, refused, rfl⟩⟩)
    · exact .cut progress later

/-- A reified failure runs as the program does. -/
theorem runs_attempt_iff {program : Program Op Resp E α} {outcome : Outcome E' (Except E α)} :
    Runs program.attempt start events outcome stop ↔
      (∃ value, Runs program start events (.returned value) stop ∧
        outcome = .returned (.ok value)) ∨
      (∃ error, Runs program start events (.failed error) stop ∧
        outcome = .returned (.error error)) ∨
      (Runs program start events .cut stop ∧ outcome = .cut) := by
  constructor
  · intro run
    induction program generalizing start events with
    | ret value =>
        obtain ⟨rfl, rfl, rfl⟩ := runs_ret_iff.mp run
        exact .inl ⟨value, .ret value _, rfl⟩
    | fail error =>
        obtain ⟨rfl, rfl, rfl⟩ := runs_ret_iff.mp run
        exact .inr (.inl ⟨error, .fail error _, rfl⟩)
    | clock next inductionHypothesis =>
        rcases inductionHypothesis start (runs_clock_iff.mp run) with
          ⟨value, inner, rfl⟩ | ⟨error, inner, rfl⟩ | ⟨inner, rfl⟩
        · exact .inl ⟨value, .clock inner, rfl⟩
        · exact .inr (.inl ⟨error, .clock inner, rfl⟩)
        · exact .inr (.inr ⟨.clock inner, rfl⟩)
    | call op deadlines next inductionHypothesis =>
        cases run with
        | ready answer later tail =>
            rcases inductionHypothesis _ tail with
              ⟨value, inner, rfl⟩ | ⟨error, inner, rfl⟩ | ⟨inner, rfl⟩
            · exact .inl ⟨value, .ready answer later inner, rfl⟩
            · exact .inr (.inl ⟨error, .ready answer later inner, rfl⟩)
            · exact .inr (.inr ⟨.ready answer later inner, rfl⟩)
        | elapsed scope progress later due tail =>
            rcases inductionHypothesis _ tail with
              ⟨value, inner, rfl⟩ | ⟨error, inner, rfl⟩ | ⟨inner, rfl⟩
            · exact .inl ⟨value, .elapsed scope progress later due inner, rfl⟩
            · exact .inr (.inl ⟨error, .elapsed scope progress later due inner, rfl⟩)
            · exact .inr (.inr ⟨.elapsed scope progress later due inner, rfl⟩)
        | cut progress later => exact .inr (.inr ⟨.cut progress later, rfl⟩)
  · intro described
    induction program generalizing start events with
    | ret value =>
        rcases described with ⟨_, inner, rfl⟩ | ⟨_, inner, rfl⟩ | ⟨inner, rfl⟩ <;>
          obtain ⟨rfl, same, rfl⟩ := runs_ret_iff.mp inner <;> cases same
        exact .ret _ _
    | fail error =>
        rcases described with ⟨_, inner, rfl⟩ | ⟨_, inner, rfl⟩ | ⟨inner, rfl⟩ <;>
          obtain ⟨rfl, same, rfl⟩ := runs_fail_iff.mp inner <;> cases same
        exact .ret _ _
    | clock next inductionHypothesis =>
        simp only [runs_clock_iff] at described
        exact .clock (inductionHypothesis start described)
    | call op deadlines next inductionHypothesis =>
        rcases described with ⟨value, inner, rfl⟩ | ⟨error, inner, rfl⟩ | ⟨inner, rfl⟩
        · cases inner with
          | ready answer later tail =>
              exact .ready answer later (inductionHypothesis _ (.inl ⟨value, tail, rfl⟩))
          | elapsed scope progress later due tail =>
              exact .elapsed scope progress later due
                (inductionHypothesis _ (.inl ⟨value, tail, rfl⟩))
        · cases inner with
          | ready answer later tail =>
              exact .ready answer later (inductionHypothesis _ (.inr (.inl ⟨error, tail, rfl⟩)))
          | elapsed scope progress later due tail =>
              exact .elapsed scope progress later due
                (inductionHypothesis _ (.inr (.inl ⟨error, tail, rfl⟩)))
        · cases inner with
          | ready answer later tail =>
              exact .ready answer later (inductionHypothesis _ (.inr (.inr ⟨tail, rfl⟩)))
          | elapsed scope progress later due tail =>
              exact .elapsed scope progress later due
                (inductionHypothesis _ (.inr (.inr ⟨tail, rfl⟩)))
          | cut progress later => exact .cut progress later

/-- A program under a deadline runs as it does alone, or is abandoned at one
of its operations once the deadline is due. The second case is the run in
which the program is still pending there. -/
theorem runs_timeoutAt {deadline : Nat} {program : Program Op Resp E α}
    {outcome : Outcome E' (Option (Except E α))}
    (run : Runs (program.timeoutAt deadline) start events outcome stop) :
    (∃ value, Runs program start events (.returned value) stop ∧
        outcome = .returned (some (.ok value))) ∨
      (∃ error, Runs program start events (.failed error) stop ∧
        outcome = .returned (some (.error error))) ∨
      (Runs program start events .cut stop ∧ outcome = .cut) ∨
      (Runs program start events .cut stop ∧ deadline ≤ stop ∧ outcome = .returned none) := by
  induction program generalizing start events with
  | ret value =>
      obtain ⟨rfl, rfl, rfl⟩ := runs_ret_iff.mp run
      exact .inl ⟨value, .ret value _, rfl⟩
  | fail error =>
      obtain ⟨rfl, rfl, rfl⟩ := runs_ret_iff.mp run
      exact .inr (.inl ⟨error, .fail error _, rfl⟩)
  | clock next inductionHypothesis =>
      rcases inductionHypothesis start (runs_clock_iff.mp run) with
        ⟨value, inner, rfl⟩ | ⟨error, inner, rfl⟩ | ⟨inner, rfl⟩ | ⟨inner, due, rfl⟩
      · exact .inl ⟨value, .clock inner, rfl⟩
      · exact .inr (.inl ⟨error, .clock inner, rfl⟩)
      · exact .inr (.inr (.inl ⟨.clock inner, rfl⟩))
      · exact .inr (.inr (.inr ⟨.clock inner, due, rfl⟩))
  | call op deadlines next inductionHypothesis =>
      rw [timeoutAt] at run
      cases run with
      | ready answer later tail =>
          rcases inductionHypothesis _ tail with
            ⟨value, inner, rfl⟩ | ⟨error, inner, rfl⟩ | ⟨inner, rfl⟩ | ⟨inner, due, rfl⟩
          · exact .inl ⟨value, .ready answer later inner, rfl⟩
          · exact .inr (.inl ⟨error, .ready answer later inner, rfl⟩)
          · exact .inr (.inr (.inl ⟨.ready answer later inner, rfl⟩))
          · exact .inr (.inr (.inr ⟨.ready answer later inner, due, rfl⟩))
      | elapsed scope progress later scopeDue tail =>
          beta_reduce at tail
          by_cases inner : scope.val < deadlines.length
          · -- An inner scope expired: the program handles it itself.
            simp only [dif_pos inner] at tail
            have innerDue := scopeDue
            rw [List.get_eq_getElem, List.getElem_append_left inner] at innerDue
            rcases inductionHypothesis _ tail with
              ⟨value, rest, rfl⟩ | ⟨error, rest, rfl⟩ | ⟨rest, rfl⟩ | ⟨rest, due, rfl⟩
            · exact .inl ⟨value, .elapsed _ progress later innerDue rest, rfl⟩
            · exact .inr (.inl ⟨error, .elapsed _ progress later innerDue rest, rfl⟩)
            · exact .inr (.inr (.inl ⟨.elapsed _ progress later innerDue rest, rfl⟩))
            · exact .inr (.inr (.inr ⟨.elapsed _ progress later innerDue rest, due, rfl⟩))
          · simp only [dif_neg inner] at tail
            obtain ⟨rfl, rfl, rfl⟩ := runs_ret_iff.mp tail
            have outermost : scope.val = deadlines.length := by
              have bound := scope.isLt
              simp only [List.length_append, List.length_cons, List.length_nil] at bound
              omega
            have due := scopeDue
            simp only [List.get_eq_getElem, outermost, List.getElem_concat_length] at due
            exact .inr (.inr (.inr ⟨.cut progress later, due, rfl⟩))
      | cut progress later => exact .inr (.inr (.inl ⟨.cut progress later, rfl⟩))

/-- The runs of a program given at most `duration`. -/
theorem runs_timeout {duration : Nat} {program : Program Op Resp E α}
    {outcome : Outcome E' (Option (Except E α))}
    (run : Runs (program.timeout duration) start events outcome stop) :
    (∃ value, Runs program start events (.returned value) stop ∧
        outcome = .returned (some (.ok value))) ∨
      (∃ error, Runs program start events (.failed error) stop ∧
        outcome = .returned (some (.error error))) ∨
      (Runs program start events .cut stop ∧ outcome = .cut) ∨
      (Runs program start events .cut stop ∧ start + duration ≤ stop ∧
        outcome = .returned none) :=
  runs_timeoutAt (runs_clock_iff.mp run)

/-! ## Which operations a program can perform -/

namespace Program

/-- Every operation the program can come to satisfies `allowed`. -/
def Only (allowed : Op → Prop) : Program Op Resp E α → Prop
  | ret _ => True
  | fail _ => True
  | clock next => ∀ time, (next time).Only allowed
  | call op _ next => allowed op ∧ ∀ answer, (next answer).Only allowed

variable {allowed allowed' : Op → Prop} {program : Program Op Resp E α}

@[simp] theorem only_ret (value : α) : (ret value : Program Op Resp E α).Only allowed := trivial

@[simp] theorem only_fail (error : E) : (fail error : Program Op Resp E α).Only allowed := trivial

theorem only_settle {result : Except E α} :
    (settle result : Program Op Resp E α).Only allowed := by
  cases result with
  | ok value => trivial
  | error error => trivial

theorem only_performOr {op : Op} {result : Resp op → Except E α} (holds : allowed op) :
    (performOr op result).Only allowed := by
  refine ⟨holds, fun answer => ?_⟩
  cases answer with
  | ready value => exact only_settle
  | elapsed scope => exact scope.elim0

theorem Only.bind {rest : α → Program Op Resp E β} (first : program.Only allowed)
    (second : ∀ value, (rest value).Only allowed) : (program.bind rest).Only allowed := by
  induction program with
  | ret value => exact second value
  | fail => trivial
  | clock next inductionHypothesis =>
      exact fun time => inductionHypothesis time (first time)
  | call op deadlines next inductionHypothesis =>
      exact ⟨first.1, fun answer => inductionHypothesis answer (first.2 answer)⟩

theorem Only.timeoutAt (only : program.Only allowed) (deadline : Nat) :
    (program.timeoutAt deadline : Program Op Resp E' (Option (Except E α))).Only allowed := by
  induction program with
  | ret | fail => trivial
  | clock next inductionHypothesis => exact fun time => inductionHypothesis time (only time)
  | call op deadlines next inductionHypothesis =>
      rw [Program.timeoutAt]
      refine ⟨only.1, fun answer => ?_⟩
      cases answer with
      | ready value => exact inductionHypothesis _ (only.2 _)
      | elapsed scope progress =>
          dsimp only
          split
          · exact inductionHypothesis _ (only.2 _)
          · trivial

theorem Only.timeout (only : program.Only allowed) (duration : Nat) :
    (program.timeout duration : Program Op Resp E' (Option (Except E α))).Only allowed :=
  fun time => only.timeoutAt (time + duration)

theorem Only.imp (only : program.Only allowed) (weaker : ∀ op, allowed op → allowed' op) :
    program.Only allowed' := by
  induction program with
  | ret | fail => trivial
  | clock next inductionHypothesis => exact fun time => inductionHypothesis time (only time)
  | call op deadlines next inductionHypothesis =>
      exact ⟨weaker op only.1, fun answer => inductionHypothesis answer (only.2 answer)⟩

end Program

/-- A run performs only operations its program can come to. -/
theorem Runs.only {allowed : Op → Prop} {program : Program Op Resp E α} {outcome : Outcome E α}
    (run : Runs program start events outcome stop) (only : program.Only allowed) :
    ∀ event ∈ events, allowed event.op := by
  induction run with
  | ret | fail => exact nofun
  | clock _ inductionHypothesis => exact inductionHypothesis (only _)
  | ready value _ _ inductionHypothesis =>
      intro event member
      rcases List.mem_cons.mp member with rfl | later
      · exact only.1
      · exact inductionHypothesis (only.2 _) event later
  | elapsed scope progress _ _ _ inductionHypothesis =>
      intro event member
      rcases List.mem_cons.mp member with rfl | later
      · exact only.1
      · exact inductionHypothesis (only.2 _) event later
  | cut =>
      intro event member
      rw [List.mem_singleton.mp member]
      exact only.1

end EffectProgram
