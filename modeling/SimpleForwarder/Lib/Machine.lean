import Mathlib.Data.List.Induction
import Mathlib.Tactic.Common

/-!
Contract: runs of deterministic machines.

Owns: the run of a partial step function over a list of events, its splitting
and joining, and the induction rules for invariants of runs: of the state
alone, of the state with the events so far, and of the state in a run whose
steps all meet a condition; and the completion of runs whose events commute.

Which events happen, and in what order, is the nondeterminism of a system;
`step state event = none` means that the event cannot happen in the state.

Does not own: any machine.
-/

namespace Machine

variable {State Event : Type}

def run (step : State → Event → Option State) : State → List Event → Option State
  | state, [] => some state
  | state, event :: events => (step state event).bind fun next => run step next events

variable {step : State → Event → Option State} {first last : State} {events : List Event}

@[simp] theorem run_nil (state : State) : run step state [] = some state := rfl

theorem run_cons (state : State) (event : Event) (events : List Event) :
    run step state (event :: events) = (step state event).bind fun next => run step next events :=
  rfl

theorem run_cons_of_step {next : State} {event : Event} (stepped : step first event = some next)
    (events : List Event) : run step first (event :: events) = run step next events := by
  rw [run_cons, stepped, Option.bind_some]

theorem run_append (state : State) (before after : List Event) :
    run step state (before ++ after) =
      (run step state before).bind fun middle => run step middle after := by
  induction before generalizing state with
  | nil => rfl
  | cons event before inductionHypothesis =>
      rw [List.cons_append, run_cons, run_cons, Option.bind_assoc]
      congr 1
      funext next
      exact inductionHypothesis next

theorem run_append_eq_some {before after : List Event} :
    run step first (before ++ after) = some last ↔
      ∃ middle, run step first before = some middle ∧ run step middle after = some last := by
  rw [run_append, Option.bind_eq_some_iff]

theorem run_concat_eq_some {event : Event} :
    run step first (events ++ [event]) = some last ↔
      ∃ middle, run step first events = some middle ∧ step middle event = some last := by
  rw [run_append_eq_some]
  simp only [run_cons, run_nil]
  constructor
  · rintro ⟨middle, before, stepped⟩
    obtain ⟨next, stepped, same⟩ := Option.bind_eq_some_iff.mp stepped
    exact ⟨middle, before, Option.some.inj same ▸ stepped⟩
  · rintro ⟨middle, before, stepped⟩
    exact ⟨middle, before, Option.bind_eq_some_iff.mpr ⟨last, stepped, rfl⟩⟩

/-- An invariant of the state and of the events that led to it. -/
theorem run_history (Inv : List Event → State → Prop) (initial : Inv [] first)
    (preserved : ∀ history state event next, Inv history state → step state event = some next →
      Inv (history ++ [event]) next)
    (reached : run step first events = some last) : Inv events last := by
  induction events using List.reverseRecOn generalizing last with
  | nil =>
      rw [run_nil] at reached
      exact Option.some.inj reached ▸ initial
  | append_singleton events event inductionHypothesis =>
      obtain ⟨middle, before, stepped⟩ := run_concat_eq_some.mp reached
      exact preserved events middle event last (inductionHypothesis before) stepped

/-- An inductive invariant holds in every state a run reaches. -/
theorem run_invariant (Inv : State → Prop) (initial : Inv first)
    (preserved : ∀ state event next, Inv state → step state event = some next → Inv next)
    (reached : run step first events = some last) : Inv last :=
  run_history (fun _ state => Inv state) initial
    (fun _ state event next holds stepped => preserved state event next holds stepped) reached

/-! ## Runs under a condition -/

/-- Every step of the run meets the condition, in the state it is taken in. -/
def Along (step : State → Event → Option State) (Meets : State → Event → Prop) :
    State → List Event → Prop
  | _, [] => True
  | state, event :: events =>
      Meets state event ∧ ∀ next ∈ step state event, Along step Meets next events

variable {Meets : State → Event → Prop}

instance Along.decidable [∀ state event, Decidable (Meets state event)] (state : State)
    (events : List Event) : Decidable (Along step Meets state events) :=
  match events with
  | [] => .isTrue trivial
  | event :: events =>
      match stepped : step state event with
      | none => decidable_of_iff (Meets state event) (by simp [Along, stepped])
      | some next =>
          have := Along.decidable next events
          decidable_of_iff (Meets state event ∧ Along step Meets next events)
            (by simp [Along, stepped])

theorem along_of_forall (meets : ∀ event ∈ events, ∀ state, Meets state event) (first : State) :
    Along step Meets first events := by
  induction events generalizing first with
  | nil => trivial
  | cons event events inductionHypothesis =>
      refine ⟨meets event List.mem_cons_self first, fun next _ => inductionHypothesis ?_ next⟩
      exact fun other mem => meets other (List.mem_cons_of_mem event mem)

theorem Along.append {before after : List Event} {middle : State}
    (along : Along step Meets first (before ++ after))
    (reached : run step first before = some middle) :
    Along step Meets first before ∧ Along step Meets middle after := by
  induction before generalizing first with
  | nil =>
      rw [run_nil] at reached
      exact ⟨trivial, Option.some.inj reached ▸ along⟩
  | cons event before inductionHypothesis =>
      obtain ⟨next, stepped, rest⟩ := Option.bind_eq_some_iff.mp reached
      have split := inductionHypothesis (along.2 next stepped) rest
      refine ⟨⟨along.1, fun other same => ?_⟩, split.2⟩
      rw [Option.mem_def, stepped] at same
      exact Option.some.inj same ▸ split.1

/-- An invariant of the state and of the events that led to it, in a run whose
steps all meet the condition. -/
theorem run_history_along (Inv : List Event → State → Prop) (initial : Inv [] first)
    (preserved : ∀ history state event next, Inv history state → Meets state event →
      step state event = some next → Inv (history ++ [event]) next)
    (along : Along step Meets first events) (reached : run step first events = some last) :
    Inv events last := by
  induction events using List.reverseRecOn generalizing last with
  | nil =>
      rw [run_nil] at reached
      exact Option.some.inj reached ▸ initial
  | append_singleton events event inductionHypothesis =>
      obtain ⟨middle, before, stepped⟩ := run_concat_eq_some.mp reached
      have split := along.append before
      exact preserved events middle event last (inductionHypothesis split.1 before) split.2.1
        stepped

/-- An invariant that the steps meeting the condition preserve. -/
theorem run_invariant_along (Inv : State → Prop) (initial : Inv first)
    (preserved : ∀ state event next, Inv state → Meets state event →
      step state event = some next → Inv next)
    (along : Along step Meets first events) (reached : run step first events = some last) :
    Inv last :=
  run_history_along (fun _ state => Inv state) initial
    (fun _ state event next holds meets stepped => preserved state event next holds meets stepped)
    along reached

/-- A run leads to the goal if from every other state a step leads on that meets the
condition and lowers the measure. -/
theorem run_reaches (measure : State → Nat) (Inv Goal : State → Prop)
    (proceeds : ∀ state, Inv state → ¬Goal state → ∃ event next, step state event = some next ∧
      Meets state event ∧ Inv next ∧ measure next < measure state)
    (initial : Inv first) :
    ∃ events last, run step first events = some last ∧ Along step Meets first events ∧
      Goal last := by
  induction left : measure first using Nat.strongRecOn generalizing first with
  | _ left inductionHypothesis =>
      by_cases goal : Goal first
      · exact ⟨[], first, rfl, trivial, goal⟩
      · obtain ⟨event, next, stepped, meets, holds, fewer⟩ := proceeds first initial goal
        obtain ⟨events, last, reached, along, goal⟩ :=
          inductionHypothesis (measure next) (by omega) holds rfl
        refine ⟨event :: events, last, (run_cons_of_step stepped events).trans reached,
          ⟨meets, fun other same => ?_⟩, goal⟩
        rw [Option.mem_def, stepped] at same
        exact Option.some.inj same ▸ along

/-! ## Events that commute -/

/-- No event can happen. -/
def IsStuck (step : State → Event → Option State) (state : State) : Prop :=
  ∀ event, step state event = none

/-- Two events that can both happen can happen in either order, with one result. -/
def Commutes (step : State → Event → Option State) : Prop :=
  ∀ state event other next alternative, event ≠ other → step state event = some next →
    step state other = some alternative →
    ∃ joined, step next other = some joined ∧ step alternative event = some joined

variable {next : State} {event : Event}

/-- A first step of a different run still leads to the end of the run. -/
theorem run_of_step [DecidableEq Event] (commutes : Commutes step) (stuck : IsStuck step last)
    (complete : run step first events = some last) (stepped : step first event = some next) :
    ∃ rest, run step next rest = some last ∧ rest.length + 1 = events.length := by
  induction events generalizing first next with
  | nil =>
      rw [run_nil, Option.some.injEq] at complete
      rw [complete, stuck event] at stepped
      cases stepped
  | cons head events inductionHypothesis =>
      obtain ⟨middle, steppedHead, remaining⟩ := Option.bind_eq_some_iff.mp complete
      by_cases same : event = head
      · subst same
        obtain rfl : middle = next := Option.some.inj (steppedHead.symm.trans stepped)
        exact ⟨events, remaining, rfl⟩
      · obtain ⟨joined, afterEvent, afterHead⟩ :=
          commutes first event head next middle same stepped steppedHead
        obtain ⟨rest, reaches, length⟩ := inductionHypothesis remaining afterHead
        exact ⟨head :: rest, (run_cons_of_step afterEvent rest).trans reaches,
          congrArg Nat.succ length⟩

/-- Every run is a part of one that ends where a complete run ends, and as long. -/
theorem run_completes [DecidableEq Event] (commutes : Commutes step) (stuck : IsStuck step last)
    (complete : run step first events = some last) {begun : List Event} {middle : State}
    (reached : run step first begun = some middle) :
    ∃ rest, run step middle rest = some last ∧ begun.length + rest.length = events.length := by
  induction begun generalizing first events with
  | nil =>
      rw [run_nil, Option.some.injEq] at reached
      exact ⟨events, reached ▸ complete, Nat.zero_add _⟩
  | cons event begun inductionHypothesis =>
      obtain ⟨next, stepped, reached⟩ := Option.bind_eq_some_iff.mp reached
      obtain ⟨after, completeAfter, length⟩ := run_of_step commutes stuck complete stepped
      obtain ⟨rest, reaches, total⟩ := inductionHypothesis completeAfter reached
      refine ⟨rest, reaches, ?_⟩
      rw [List.length_cons]
      omega

end Machine
