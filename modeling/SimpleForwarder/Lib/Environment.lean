import SimpleForwarder.Lib.Postcondition

/-!
Contract: environments of effect programs, given as functions.

Owns: `Environment`, which decides when and with what an operation is answered
from everything that happened before; the run of a program in an environment
(`runIn`), which is one of the program's runs (`runs_runIn`); and the law that
two environments which agree on every operation of a run give the same run
(`runIn_congr`).

Does not own: any operation, and which environments are realistic.
-/

namespace EffectProgram

open Program

variable {Op : Type} {Resp : Op → Type} {E α : Type}

/-- What becomes of an operation: it is answered at a time, or the observation
stops at a time while it is pending. -/
inductive Reaction (R : Type) (scopes : Nat) where
  | answered (time : Nat) (answer : Answer R scopes)
  | pending (time progress : Nat)

/-- Time does not go back, and a deadline answers only when it is due. -/
def Reaction.Sound {R : Type} (start : Nat) (deadlines : List Nat) :
    Reaction R deadlines.length → Prop
  | answered time (.ready _) => start ≤ time
  | answered time (.elapsed scope _) => start ≤ time ∧ deadlines.get scope ≤ time
  | pending time _ => start ≤ time

/-- The reaction to an operation, from the events so far, the clock value at
which it is begun and its deadlines. -/
structure Environment (Op : Type) (Resp : Op → Type) where
  react : List (Event Op Resp) → Nat → (op : Op) → (deadlines : List Nat) →
    Reaction (Resp op) deadlines.length
  sound : ∀ history start op deadlines, (react history start op deadlines).Sound start deadlines

/-- A run: its events, its outcome and where it stops. -/
structure Observed (Op : Type) (Resp : Op → Type) (E α : Type) where
  events : List (Event Op Resp)
  outcome : Outcome E α
  stop : Nat

/-- What is recorded of an answer. -/
def Answer.response {R : Type} {scopes : Nat} : Answer R scopes → Response R
  | .ready value => .ready value
  | .elapsed _ progress => .interrupted progress

def Observed.after (event : Event Op Resp) (rest : Observed Op Resp E α) : Observed Op Resp E α :=
  ⟨event :: rest.events, rest.outcome, rest.stop⟩

/-- The run of a program that starts at clock value `time` with `history`
behind it. -/
def runIn (environment : Environment Op Resp) :
    Program Op Resp E α → List (Event Op Resp) → Nat → Observed Op Resp E α
  | .ret value, _, time => ⟨[], .returned value, time⟩
  | .fail error, _, time => ⟨[], .failed error, time⟩
  | .clock next, history, time => runIn environment (next time) history time
  | .call op deadlines next, history, time =>
      match environment.react history time op deadlines with
      | .answered later answer =>
          let event := ⟨op, later, answer.response⟩
          (runIn environment (next answer) (history ++ [event]) later).after event
      | .pending later progress => ⟨[⟨op, later, .interrupted progress⟩], .cut, later⟩

/-- The run in an environment is a run. -/
theorem runs_runIn (environment : Environment Op Resp) (program : Program Op Resp E α)
    (history : List (Event Op Resp)) (start : Nat) :
    Runs program start (runIn environment program history start).events
      (runIn environment program history start).outcome
      (runIn environment program history start).stop := by
  induction program generalizing history start with
  | ret value => exact .ret value start
  | fail error => exact .fail error start
  | clock next inductionHypothesis => exact .clock (inductionHypothesis start history start)
  | call op deadlines next inductionHypothesis =>
      have allowed := environment.sound history start op deadlines
      unfold runIn
      split
      · next later answer reaction =>
          rw [reaction] at allowed
          cases answer with
          | ready value => exact .ready value allowed (inductionHypothesis _ _ later)
          | elapsed scope progress =>
              exact .elapsed scope progress allowed.1 allowed.2 (inductionHypothesis _ _ later)
      · next later progress reaction =>
          rw [reaction] at allowed
          exact .cut progress allowed

/-- Environments that agree on the operations of a run are the same to the
program. -/
theorem runIn_congr {allowed : Op → Prop} {environment other : Environment Op Resp}
    (agree : ∀ history start op deadlines, allowed op →
      environment.react history start op deadlines = other.react history start op deadlines)
    {program : Program Op Resp E α} {history : List (Event Op Resp)} {start : Nat}
    (performed : ∀ event ∈ (runIn environment program history start).events, allowed event.op) :
    runIn environment program history start = runIn other program history start := by
  induction program generalizing history start with
  | ret value => rfl
  | fail error => rfl
  | clock next inductionHypothesis => exact inductionHypothesis start performed
  | call op deadlines next inductionHypothesis =>
      unfold runIn at performed ⊢
      cases reaction : environment.react history start op deadlines with
      | answered later answer =>
          rw [reaction] at performed
          rw [← agree history start op deadlines (performed _ List.mem_cons_self), reaction]
          dsimp only
          rw [inductionHypothesis answer fun event member =>
            performed event (List.mem_cons_of_mem _ member)]
      | pending later progress =>
          rw [reaction] at performed
          rw [← agree history start op deadlines (performed _ List.mem_cons_self), reaction]

end EffectProgram
