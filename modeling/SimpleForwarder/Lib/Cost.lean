import SimpleForwarder.Lib.Postcondition

/-!
Contract: what the runs of a program cost at most.

Owns: `Costs`, a bound on an additive measure of the events of every run, with
one rule for each way programs are composed; and the rule for a first part
whose cost is known from what it returns, which bounds a loop by what its
earlier rounds have left.

The bound holds of a run that fails, or that ends inside an operation, as well.

Does not own: any measure.
-/

namespace EffectProgram

open Program

variable {Op : Type} {Resp : Op → Type} {E E' α β : Type}

def total (cost : Event Op Resp → Nat) : List (Event Op Resp) → Nat
  | [] => 0
  | event :: events => cost event + total cost events

variable {cost : Event Op Resp → Nat}

theorem total_append (before after : List (Event Op Resp)) :
    total cost (before ++ after) = total cost before + total cost after := by
  induction before with
  | nil => exact (Nat.zero_add _).symm
  | cons event before inductionHypothesis =>
      rw [List.cons_append, total, total, inductionHypothesis, Nat.add_assoc]

theorem total_eq_zero {events : List (Event Op Resp)} (free : ∀ event ∈ events, cost event = 0) :
    total cost events = 0 := by
  induction events with
  | nil => rfl
  | cons event events inductionHypothesis =>
      rw [total, free event List.mem_cons_self, Nat.zero_add]
      exact inductionHypothesis fun other member => free other (List.mem_cons_of_mem event member)

/-- No run of the program costs more than `bound`. -/
def Costs (cost : Event Op Resp → Nat) (program : Program Op Resp E α) (bound : Nat) : Prop :=
  Ensures program fun events _ => total cost events ≤ bound

variable {program : Program Op Resp E α} {rest : α → Program Op Resp E β} {bound more : Nat}

namespace Costs

theorem ret (value : α) : Costs cost (.ret value : Program Op Resp E α) bound :=
  Ensures.ret (Nat.zero_le bound)

theorem fail (error : E) : Costs cost (.fail error : Program Op Resp E α) bound :=
  Ensures.fail (Nat.zero_le bound)

theorem settle (result : Except E α) :
    Costs cost (Program.settle result : Program Op Resp E α) bound := by
  refine (Ensures.settle result).imp fun events _ none => ?_
  rw [none]
  exact Nat.zero_le bound

theorem mono (costs : Costs cost program bound) (within : bound ≤ more) :
    Costs cost program more :=
  Ensures.imp costs fun _ _ few => Nat.le_trans few within

theorem bind (first : Costs cost program bound) (later : ∀ value, Costs cost (rest value) more) :
    Costs cost (program.bind rest) (bound + more) := by
  refine Ensures.bind first (fun value before few => ?_) ?_ ?_
  · refine Ensures.imp (later value) fun after _ fewMore => ?_
    rw [total_append]
    exact Nat.add_le_add few fewMore
  · exact fun _ events few => Nat.le_trans few (Nat.le_add_right bound more)
  · exact fun events few => Nat.le_trans few (Nat.le_add_right bound more)

/-- What costs nothing may follow. -/
theorem bind_free (first : Costs cost program bound) (free : ∀ value, Costs cost (rest value) 0) :
    Costs cost (program.bind rest) bound :=
  first.bind free

/-- What costs nothing may come first. -/
theorem free_bind (free : Costs cost program 0) (later : ∀ value, Costs cost (rest value) bound) :
    Costs cost (program.bind rest) bound :=
  (free.bind later).mono (Nat.le_of_eq (Nat.zero_add bound))

theorem attempt (costs : Costs cost program bound) :
    Costs cost (program.attempt : Program Op Resp E' (Except E α)) bound :=
  Ensures.attempt costs (fun _ _ few => few) (fun _ _ few => few) fun _ few => few

theorem timeout (costs : Costs cost program bound) (duration : Nat) :
    Costs cost (program.timeout duration : Program Op Resp E' (Option (Except E α))) bound :=
  Ensures.timeout costs (fun _ _ few => few) (fun _ _ few => few) (fun _ few => few)
    fun _ few => few

/-- Operations that are free cost nothing. -/
theorem of_only {allowed : Op → Prop} (only : program.Only allowed)
    (free : ∀ event : Event Op Resp, allowed event.op → cost event = 0) :
    Costs cost program bound := by
  refine (Ensures.of_only only).imp fun events _ all => ?_
  rw [total_eq_zero fun event member => free event (all event member)]
  exact Nat.zero_le bound

/-- One operation costs no more than its event can. -/
theorem performOr {op : Op} {result : Resp op → Except E α}
    (within : ∀ time response, cost ⟨op, time, response⟩ ≤ bound) :
    Costs cost (Program.performOr op result) bound := by
  refine Ensures.performOr.imp fun events _ single => ?_
  obtain ⟨time, response, rfl⟩ := single
  exact within time response

/-- A first operation whose cost is known from the value it returns. -/
theorem bind_performOr {op : Op} {result : Resp op → Except E α} {spent : α → Nat}
    (known : ∀ time answer value, result answer = .ok value →
      cost ⟨op, time, .ready answer⟩ = spent value)
    (refused : ∀ time answer error, result answer = .error error →
      cost ⟨op, time, .ready answer⟩ ≤ bound)
    (pending : ∀ time progress, cost ⟨op, time, .interrupted progress⟩ ≤ bound)
    (later : ∀ value, spent value ≤ bound ∧ Costs cost (rest value) (bound - spent value)) :
    Costs cost ((Program.performOr op result).bind rest) bound := by
  intro start events outcome stop run
  rcases runs_bind_iff.mp run with
    ⟨value, middle, before, after, firstRun, restRun, rfl⟩ | ⟨error, firstRun, rfl⟩ |
      ⟨firstRun, rfl⟩
  · obtain ⟨-, ⟨answer, _, accepted, rfl, same⟩ | ⟨_, _, _, _, impossible⟩ | ⟨_, _, impossible⟩⟩ :=
      runs_performOr_iff.mp firstRun
    · cases same
      obtain ⟨within, few⟩ := later value
      have fewMore := few _ _ _ _ restRun
      rw [List.singleton_append, total, known _ answer value accepted]
      omega
    · exact absurd impossible nofun
    · exact absurd impossible nofun
  · obtain ⟨-, ⟨_, _, _, _, impossible⟩ | ⟨answer, error, isError, rfl, _⟩ |
      ⟨_, _, impossible⟩⟩ := runs_performOr_iff.mp firstRun
    · exact absurd impossible nofun
    · exact refused _ answer error isError
    · exact absurd impossible nofun
  · obtain ⟨-, ⟨_, _, _, _, impossible⟩ | ⟨_, _, _, _, impossible⟩ | ⟨progress, rfl, _⟩⟩ :=
      runs_performOr_iff.mp firstRun
    · exact absurd impossible nofun
    · exact absurd impossible nofun
    · exact pending _ progress

end Costs

end EffectProgram
