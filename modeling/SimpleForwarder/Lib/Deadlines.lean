import SimpleForwarder.Lib.Environment

/-!
Contract: prompt runs, in which deadlines are kept to the instant.

Owns: `PromptRuns`, the runs in which an operation is answered no later than
the first deadline in force and an expired deadline answers at once; the rules
for the prompt runs of a composed program; and the prompt environment that
delays make (`prompt_runIn`).

Of several deadlines due at one instant the operation's own answer comes first
and then the innermost scope: a scope looks at what it encloses before it looks
at its timer. The deadlines of the scopes around a program are the parameter
`outer`. An operation that begins after a deadline is answered at once, by
itself or by the deadline.

Does not own: any operation, and any duration.
-/

namespace EffectProgram

open Program

variable {Op : Type} {Resp : Op → Type} {E E' α β : Type}

/-- An operation begun at `start` has not been kept beyond any deadline. -/
def InTime (start : Nat) (deadlines : List Nat) (time : Nat) : Prop :=
  ∀ deadline ∈ deadlines, time ≤ max start deadline

instance (start : Nat) (deadlines : List Nat) (time : Nat) :
    Decidable (InTime start deadlines time) :=
  inferInstanceAs (Decidable (∀ deadline ∈ deadlines, time ≤ max start deadline))

theorem inTime_append {start time : Nat} {deadlines others : List Nat} :
    InTime start (deadlines ++ others) time ↔
      InTime start deadlines time ∧ InTime start others time :=
  List.forall_mem_append

theorem inTime_cons {start time deadline : Nat} {deadlines : List Nat} :
    InTime start (deadline :: deadlines) time ↔
      time ≤ max start deadline ∧ InTime start deadlines time :=
  List.forall_mem_cons

/-- The prompt runs of a program inside scopes with the deadlines `outer`,
while none of these has expired. -/
inductive PromptRuns (outer : List Nat) : Program Op Resp E α → Nat → List (Event Op Resp) →
    Outcome E α → Nat → Prop where
  | ret (value : α) (start : Nat) : PromptRuns outer (.ret value) start [] (.returned value) start
  | fail (error : E) (start : Nat) : PromptRuns outer (.fail error) start [] (.failed error) start
  | clock {next : Nat → Program Op Resp E α} {start events outcome stop}
      (rest : PromptRuns outer (next start) start events outcome stop) :
      PromptRuns outer (.clock next) start events outcome stop
  | ready {op deadlines} {next : Answer (Resp op) deadlines.length → Program Op Resp E α}
      {start time events outcome stop} (value : Resp op) (later : start ≤ time)
      (inTime : InTime start (deadlines ++ outer) time)
      (rest : PromptRuns outer (next (.ready value)) time events outcome stop) :
      PromptRuns outer (.call op deadlines next) start (⟨op, time, .ready value⟩ :: events) outcome
        stop
  | elapsed {op deadlines} {next : Answer (Resp op) deadlines.length → Program Op Resp E α}
      {start time events outcome stop} (scope : Fin deadlines.length) (progress : Nat)
      (later : start ≤ time) (due : deadlines.get scope ≤ time)
      (inTime : InTime start (deadlines ++ outer) time)
      (innermost : ∀ inner ∈ deadlines.take scope, time < inner)
      (rest : PromptRuns outer (next (.elapsed scope progress)) time events outcome stop) :
      PromptRuns outer (.call op deadlines next) start (⟨op, time, .interrupted progress⟩ :: events)
        outcome stop
  | cut {op deadlines} {next : Answer (Resp op) deadlines.length → Program Op Resp E α}
      {start time : Nat} (progress : Nat) (later : start ≤ time) (inTime : InTime start outer time)
      (pending : ∀ deadline ∈ deadlines, time < deadline) :
      PromptRuns outer (.call op deadlines next) start [⟨op, time, .interrupted progress⟩] .cut time

variable {outer : List Nat} {start stop : Nat} {events : List (Event Op Resp)}
  {program : Program Op Resp E α}

/-- A prompt run is a run. -/
theorem PromptRuns.runs {outcome : Outcome E α}
    (run : PromptRuns outer program start events outcome stop) :
    Runs program start events outcome stop := by
  induction run with
  | ret value start => exact .ret value start
  | fail error start => exact .fail error start
  | clock _ inductionHypothesis => exact .clock inductionHypothesis
  | ready value later _ _ inductionHypothesis => exact .ready value later inductionHypothesis
  | elapsed scope progress later due _ _ _ inductionHypothesis =>
      exact .elapsed scope progress later due inductionHypothesis
  | cut progress later => exact .cut progress later

/-! ## Composition -/

/-- Sequencing: the first part returns and the rest runs from there, or the
first part fails or is still pending. -/
theorem prompt_bind {rest : α → Program Op Resp E β} {outcome : Outcome E β}
    (run : PromptRuns outer (program.bind rest) start events outcome stop) :
    (∃ value middle before after, PromptRuns outer program start before (.returned value) middle ∧
        PromptRuns outer (rest value) middle after outcome stop ∧ events = before ++ after) ∨
      (∃ error, PromptRuns outer program start events (.failed error) stop ∧
        outcome = .failed error) ∨
      (PromptRuns outer program start events .cut stop ∧ outcome = .cut) := by
  induction program generalizing start events with
  | ret value => exact .inl ⟨value, start, [], events, .ret value start, run, rfl⟩
  | fail error =>
      cases run
      exact .inr (.inl ⟨error, .fail error _, rfl⟩)
  | clock next inductionHypothesis =>
      cases run with
      | clock tail =>
          rcases inductionHypothesis start tail with
            ⟨value, middle, before, after, first, second, rfl⟩ | ⟨error, first, rfl⟩ | ⟨first, rfl⟩
          · exact .inl ⟨value, middle, before, after, .clock first, second, rfl⟩
          · exact .inr (.inl ⟨error, .clock first, rfl⟩)
          · exact .inr (.inr ⟨.clock first, rfl⟩)
  | call op deadlines next inductionHypothesis =>
      cases run with
      | ready answer later inTime tail =>
          rcases inductionHypothesis _ tail with
            ⟨value, middle, before, after, first, second, rfl⟩ | ⟨error, first, rfl⟩ | ⟨first, rfl⟩
          · exact .inl ⟨value, middle, _ :: before, after, .ready answer later inTime first, second,
              rfl⟩
          · exact .inr (.inl ⟨error, .ready answer later inTime first, rfl⟩)
          · exact .inr (.inr ⟨.ready answer later inTime first, rfl⟩)
      | elapsed scope progress later due inTime innermost tail =>
          rcases inductionHypothesis _ tail with
            ⟨value, middle, before, after, first, second, rfl⟩ | ⟨error, first, rfl⟩ | ⟨first, rfl⟩
          · exact .inl ⟨value, middle, _ :: before, after,
              .elapsed scope progress later due inTime innermost first, second, rfl⟩
          · exact .inr (.inl ⟨error, .elapsed scope progress later due inTime innermost first, rfl⟩)
          · exact .inr (.inr ⟨.elapsed scope progress later due inTime innermost first, rfl⟩)
      | cut progress later inTime pending =>
          exact .inr (.inr ⟨.cut progress later inTime pending, rfl⟩)

/-- A reified failure runs as the program does. -/
theorem prompt_attempt {outcome : Outcome E' (Except E α)}
    (run : PromptRuns outer program.attempt start events outcome stop) :
    (∃ value, PromptRuns outer program start events (.returned value) stop ∧
        outcome = .returned (.ok value)) ∨
      (∃ error, PromptRuns outer program start events (.failed error) stop ∧
        outcome = .returned (.error error)) ∨
      (PromptRuns outer program start events .cut stop ∧ outcome = .cut) := by
  induction program generalizing start events with
  | ret value =>
      cases run
      exact .inl ⟨value, .ret value _, rfl⟩
  | fail error =>
      cases run
      exact .inr (.inl ⟨error, .fail error _, rfl⟩)
  | clock next inductionHypothesis =>
      cases run with
      | clock tail =>
          rcases inductionHypothesis start tail with
            ⟨value, inner, rfl⟩ | ⟨error, inner, rfl⟩ | ⟨inner, rfl⟩
          · exact .inl ⟨value, .clock inner, rfl⟩
          · exact .inr (.inl ⟨error, .clock inner, rfl⟩)
          · exact .inr (.inr ⟨.clock inner, rfl⟩)
  | call op deadlines next inductionHypothesis =>
      cases run with
      | ready answer later inTime tail =>
          rcases inductionHypothesis _ tail with
            ⟨value, inner, rfl⟩ | ⟨error, inner, rfl⟩ | ⟨inner, rfl⟩
          · exact .inl ⟨value, .ready answer later inTime inner, rfl⟩
          · exact .inr (.inl ⟨error, .ready answer later inTime inner, rfl⟩)
          · exact .inr (.inr ⟨.ready answer later inTime inner, rfl⟩)
      | elapsed scope progress later due inTime innermost tail =>
          rcases inductionHypothesis _ tail with
            ⟨value, inner, rfl⟩ | ⟨error, inner, rfl⟩ | ⟨inner, rfl⟩
          · exact .inl ⟨value, .elapsed scope progress later due inTime innermost inner, rfl⟩
          · exact .inr (.inl ⟨error, .elapsed scope progress later due inTime innermost inner, rfl⟩)
          · exact .inr (.inr ⟨.elapsed scope progress later due inTime innermost inner, rfl⟩)
      | cut progress later inTime pending =>
          exact .inr (.inr ⟨.cut progress later inTime pending, rfl⟩)

/-- A program under a deadline of its own runs as it does inside one more
scope until it ends, is still pending before the deadline, or is abandoned
once the deadline is due. -/
theorem prompt_timeoutAt {deadline : Nat} {outcome : Outcome E' (Option (Except E α))}
    (run : PromptRuns outer (program.timeoutAt deadline) start events outcome stop) :
    (∃ value, PromptRuns (deadline :: outer) program start events (.returned value) stop ∧
        outcome = .returned (some (.ok value))) ∨
      (∃ error, PromptRuns (deadline :: outer) program start events (.failed error) stop ∧
        outcome = .returned (some (.error error))) ∨
      (PromptRuns (deadline :: outer) program start events .cut stop ∧ stop < deadline ∧
        outcome = .cut) ∨
      (PromptRuns (deadline :: outer) program start events .cut stop ∧ deadline ≤ stop ∧
        outcome = .returned none) := by
  induction program generalizing start events with
  | ret value =>
      cases run
      exact .inl ⟨value, .ret value _, rfl⟩
  | fail error =>
      cases run
      exact .inr (.inl ⟨error, .fail error _, rfl⟩)
  | clock next inductionHypothesis =>
      cases run with
      | clock tail =>
          rcases inductionHypothesis start tail with
            ⟨value, inner, rfl⟩ | ⟨error, inner, rfl⟩ | ⟨inner, before, rfl⟩ | ⟨inner, due, rfl⟩
          · exact .inl ⟨value, .clock inner, rfl⟩
          · exact .inr (.inl ⟨error, .clock inner, rfl⟩)
          · exact .inr (.inr (.inl ⟨.clock inner, before, rfl⟩))
          · exact .inr (.inr (.inr ⟨.clock inner, due, rfl⟩))
  | call op deadlines next inductionHypothesis =>
      rw [timeoutAt] at run
      cases run with
      | ready answer later inTime tail =>
          rw [List.append_assoc] at inTime
          rcases inductionHypothesis _ tail with
            ⟨value, inner, rfl⟩ | ⟨error, inner, rfl⟩ | ⟨inner, before, rfl⟩ | ⟨inner, due, rfl⟩
          · exact .inl ⟨value, .ready answer later inTime inner, rfl⟩
          · exact .inr (.inl ⟨error, .ready answer later inTime inner, rfl⟩)
          · exact .inr (.inr (.inl ⟨.ready answer later inTime inner, before, rfl⟩))
          · exact .inr (.inr (.inr ⟨.ready answer later inTime inner, due, rfl⟩))
      | elapsed scope progress later scopeDue inTime innermost tail =>
          rw [List.append_assoc] at inTime
          have bound : scope.val < deadlines.length + 1 :=
            Nat.lt_of_lt_of_eq scope.isLt List.length_append
          rw [List.take_append_of_le_length (Nat.le_of_lt_succ bound)] at innermost
          beta_reduce at tail
          by_cases within : scope.val < deadlines.length
          · -- A scope of the program expired: the program handles it itself.
            simp only [dif_pos within] at tail
            have innerDue := scopeDue
            rw [List.get_eq_getElem, List.getElem_append_left within] at innerDue
            rcases inductionHypothesis _ tail with
              ⟨value, rest, rfl⟩ | ⟨error, rest, rfl⟩ | ⟨rest, before, rfl⟩ | ⟨rest, due, rfl⟩
            · exact .inl ⟨value, .elapsed _ progress later innerDue inTime innermost rest, rfl⟩
            · exact .inr (.inl
                ⟨error, .elapsed _ progress later innerDue inTime innermost rest, rfl⟩)
            · exact .inr (.inr (.inl
                ⟨.elapsed _ progress later innerDue inTime innermost rest, before, rfl⟩))
            · exact .inr (.inr (.inr
                ⟨.elapsed _ progress later innerDue inTime innermost rest, due, rfl⟩))
          · simp only [dif_neg within] at tail
            cases tail
            have outermost : scope.val = deadlines.length := by omega
            have due := scopeDue
            simp only [List.get_eq_getElem, outermost, List.getElem_concat_length] at due
            rw [outermost, List.take_length] at innermost
            exact .inr (.inr (.inr
              ⟨.cut progress later (inTime_append.mp inTime).2 innermost, due, rfl⟩))
      | cut progress later inTime pending =>
          have before : stop < deadline :=
            pending deadline (List.mem_append_right _ List.mem_cons_self)
          have notBeyond := Nat.le_trans (Nat.le_of_lt before) (Nat.le_max_right start deadline)
          refine .inr (.inr (.inl ⟨.cut progress later (inTime_cons.mpr ⟨notBeyond, inTime⟩) ?_,
            before, rfl⟩))
          exact fun inner member => pending inner (List.mem_append_left _ member)

/-! ## One operation -/

/-- One operation outside the program's own scopes: it is answered, or the
observation stops while it is pending, and neither beyond a deadline. -/
theorem prompt_performOr {op : Op} {result : Resp op → Except E α} {outcome : Outcome E α}
    (run : PromptRuns outer (performOr op result) start events outcome stop) :
    InTime start outer stop ∧
      ((∃ answer, events = [⟨op, stop, .ready answer⟩] ∧
          ((∃ value, outcome = .returned value) ∨ ∃ error, outcome = .failed error)) ∨
        ∃ progress, events = [⟨op, stop, .interrupted progress⟩] ∧ outcome = .cut) := by
  cases run with
  | ready answer later inTime rest =>
      have decided : PromptRuns outer (settle (result answer)) _ _ outcome stop := rest
      cases settled : result answer with
      | ok value =>
          rw [settled] at decided
          cases decided
          exact ⟨inTime, .inl ⟨answer, rfl, .inl ⟨value, rfl⟩⟩⟩
      | error error =>
          rw [settled] at decided
          cases decided
          exact ⟨inTime, .inl ⟨answer, rfl, .inr ⟨error, rfl⟩⟩⟩
  | elapsed scope => exact scope.elim0
  | cut progress later inTime => exact ⟨inTime, .inr ⟨progress, rfl, rfl⟩⟩

/-- One operation under a deadline of its own: it is answered, still pending
before the deadline, or abandoned the instant the deadline is due. -/
theorem prompt_timeout_performOr {op : Op} {result : Resp op → Except E α} {duration : Nat}
    {outcome : Outcome E' (Option (Except E α))}
    (run : PromptRuns outer ((performOr op result).timeout duration) start events outcome stop) :
    (∃ answer, events = [⟨op, stop, .ready answer⟩]) ∨
      ∃ progress, events = [⟨op, stop, .interrupted progress⟩] ∧
        ((stop < start + duration ∧ outcome = .cut) ∨
          (stop = start + duration ∧ InTime start outer stop ∧ outcome = .returned none)) := by
  cases run with
  | clock timed =>
      rcases prompt_timeoutAt timed with
        ⟨value, inner, -⟩ | ⟨error, inner, -⟩ | ⟨inner, before, ended⟩ | ⟨inner, due, ended⟩
      · obtain ⟨-, ⟨answer, performed, -⟩ | ⟨_, _, impossible⟩⟩ := prompt_performOr inner
        · exact .inl ⟨answer, performed⟩
        · exact absurd impossible nofun
      · obtain ⟨-, ⟨answer, performed, -⟩ | ⟨_, _, impossible⟩⟩ := prompt_performOr inner
        · exact .inl ⟨answer, performed⟩
        · exact absurd impossible nofun
      · obtain ⟨-, ⟨answer, performed, -⟩ | ⟨progress, performed, -⟩⟩ := prompt_performOr inner
        · exact .inl ⟨answer, performed⟩
        · exact .inr ⟨progress, performed, .inl ⟨before, ended⟩⟩
      · obtain ⟨inTime, ⟨answer, performed, -⟩ | ⟨progress, performed, -⟩⟩ :=
          prompt_performOr inner
        · exact .inl ⟨answer, performed⟩
        · obtain ⟨own, around⟩ := inTime_cons.mp inTime
          have exactly : stop = start + duration := by omega
          exact .inr ⟨progress, performed, .inr ⟨exactly, around, ended⟩⟩

def Response.isReady {R : Type} : Response R → Bool
  | .ready _ => true
  | .interrupted _ => false

/-- The operation was not answered by itself. -/
def Event.Unanswered (event : Event Op Resp) : Prop := event.response.isReady = false

instance (event : Event Op Resp) : Decidable event.Unanswered :=
  inferInstanceAs (Decidable (_ = false))

/-- An operation that is never answered is still pending before its deadline,
or is abandoned the instant the deadline is due, and that is not beyond the
deadline of a scope around it. -/
theorem prompt_unanswered {op : Op} {result : Resp op → Except E' α} {duration : Nat}
    {rest : Option (Except E' α) → Program Op Resp E β} {outcome : Outcome E β}
    (run : PromptRuns outer (((performOr op result).timeout duration).bind rest) start events
      outcome stop)
    (unanswered : ∀ event ∈ events, event.op = op → event.Unanswered) :
    (∃ progress, events = [⟨op, stop, .interrupted progress⟩] ∧ stop < start + duration ∧
        outcome = .cut) ∨
      ∃ progress after, events = ⟨op, start + duration, .interrupted progress⟩ :: after ∧
        InTime start outer (start + duration) ∧
        PromptRuns outer (rest none) (start + duration) after outcome stop := by
  rcases prompt_bind run with
    ⟨value, middle, before, after, timed, restRun, rfl⟩ | ⟨error, timed, -⟩ | ⟨timed, ended⟩
  · rcases prompt_timeout_performOr timed with
      ⟨answer, rfl⟩ | ⟨progress, rfl, ⟨_, impossible⟩ | ⟨rfl, inTime, same⟩⟩
    · exact absurd (unanswered _ List.mem_cons_self rfl) nofun
    · exact absurd impossible nofun
    · cases same
      exact .inr ⟨progress, after, rfl, inTime, restRun⟩
  · exact absurd timed.runs not_runs_timeout_failed
  · rcases prompt_timeout_performOr timed with
      ⟨answer, rfl⟩ | ⟨progress, rfl, ⟨before, -⟩ | ⟨_, _, impossible⟩⟩
    · exact absurd (unanswered _ List.mem_cons_self rfl) nofun
    · exact .inl ⟨progress, rfl, before, ended⟩
    · exact absurd impossible nofun

/-! ## The time a run ends -/

/-- The clock value after the events of a run. -/
def endTime : Nat → List (Event Op Resp) → Nat
  | start, [] => start
  | _, event :: events => endTime event.time events

theorem endTime_append (start : Nat) (before after : List (Event Op Resp)) :
    endTime start (before ++ after) = endTime (endTime start before) after := by
  induction before generalizing start with
  | nil => rfl
  | cons event before inductionHypothesis => exact inductionHypothesis event.time

/-- No time passes outside the operations. -/
theorem Runs.stop_eq {outcome : Outcome E α} (run : Runs program start events outcome stop) :
    stop = endTime start events := by
  induction run with
  | ret | fail => rfl
  | clock _ inductionHypothesis => exact inductionHypothesis
  | ready _ _ _ inductionHypothesis => exact inductionHypothesis
  | elapsed _ _ _ _ _ inductionHypothesis => exact inductionHypothesis
  | cut => rfl

/-! ## Delays -/

/-- How long an operation takes and what it answers, from the events so far and
the time it is begun; `none` is never. -/
def Delays (Op : Type) (Resp : Op → Type) : Type :=
  List (Event Op Resp) → Nat → (op : Op) → Option (Nat × Resp op)

/-- When the first of the deadlines answers an operation begun at `start`. -/
def firstDue (start : Nat) (deadlines : List Nat) : Nat := max start (deadlines.min?.getD start)

/-- The first deadline answers, or nothing does. -/
def expire {R : Type} (start : Nat) (deadlines : List Nat) : Reaction R deadlines.length :=
  match deadlines.findFinIdx? (· ≤ firstDue start deadlines) with
  | some scope => .answered (firstDue start deadlines) (.elapsed scope 0)
  | none => .pending start 0

/-- Every operation takes its time unless a deadline comes first. -/
def Delays.react (delays : Delays Op Resp) (history : List (Event Op Resp)) (start : Nat) (op : Op)
    (deadlines : List Nat) : Reaction (Resp op) deadlines.length :=
  match delays history start op with
  | some (delay, value) =>
      if InTime start deadlines (start + delay) then .answered (start + delay) (.ready value)
      else expire start deadlines
  | none => expire start deadlines

/-- The reaction of an environment that keeps every deadline. -/
def Reaction.Prompt {R : Type} (start : Nat) (deadlines : List Nat) :
    Reaction R deadlines.length → Prop
  | answered time (.ready _) => start ≤ time ∧ InTime start deadlines time
  | answered time (.elapsed scope _) => start ≤ time ∧ deadlines.get scope ≤ time ∧
      InTime start deadlines time ∧ ∀ inner ∈ deadlines.take scope, time < inner
  | pending time _ => start ≤ time ∧ ∀ deadline ∈ deadlines, time < deadline

theorem expire_prompt {R : Type} (start : Nat) (deadlines : List Nat) :
    (expire start deadlines : Reaction R deadlines.length).Prompt start deadlines := by
  unfold expire
  split
  · next scope found =>
      obtain ⟨due, earlier⟩ := List.findFinIdx?_eq_some_iff.mp found
      refine ⟨Nat.le_max_left _ _, of_decide_eq_true due, ?_, ?_⟩
      · intro deadline member
        have least : deadlines.min?.getD start ≤ deadline := List.min?_getD_le_of_mem member
        unfold firstDue
        omega
      · intro inner member
        obtain ⟨position, bound, rfl⟩ := List.mem_take_iff_getElem.mp member
        have before : position < scope.val := by omega
        have notDue := earlier ⟨position, by omega⟩ before
        exact Nat.lt_of_not_le fun reached => notDue (decide_eq_true reached)
  · next notFound =>
      have nothingDue := List.findFinIdx?_eq_none_iff.mp notFound
      refine ⟨Nat.le_refl _, fun deadline member => ?_⟩
      cases least : deadlines.min? with
      | none =>
          rw [List.min?_eq_none_iff.mp least] at member
          exact absurd member List.not_mem_nil
      | some first =>
          have reached : first ≤ firstDue start deadlines := by
            unfold firstDue
            rw [least]
            exact Nat.le_max_right _ _
          exact absurd (decide_eq_true reached) (nothingDue first (List.min?_mem least))

theorem Delays.react_prompt (delays : Delays Op Resp) (history : List (Event Op Resp))
    (start : Nat) (op : Op) (deadlines : List Nat) :
    (delays.react history start op deadlines).Prompt start deadlines := by
  unfold Delays.react
  split
  · split
    · next inTime => exact ⟨Nat.le_add_right _ _, inTime⟩
    · exact expire_prompt start deadlines
  · exact expire_prompt start deadlines

theorem Reaction.Prompt.sound {R : Type} {start : Nat} {deadlines : List Nat}
    {reaction : Reaction R deadlines.length} (prompt : reaction.Prompt start deadlines) :
    reaction.Sound start deadlines := by
  cases reaction with
  | answered time answer =>
      cases answer with
      | ready value => exact prompt.1
      | elapsed scope progress => exact ⟨prompt.1, prompt.2.1⟩
  | pending time progress => exact prompt.1

def Delays.environment (delays : Delays Op Resp) : Environment Op Resp where
  react := delays.react
  sound := fun history start op deadlines => (delays.react_prompt history start op deadlines).sound

/-- The run that delays make is prompt. -/
theorem prompt_runIn (delays : Delays Op Resp) (program : Program Op Resp E α)
    (history : List (Event Op Resp)) (start : Nat) :
    PromptRuns [] program start (runIn delays.environment program history start).events
      (runIn delays.environment program history start).outcome
      (runIn delays.environment program history start).stop := by
  induction program generalizing history start with
  | ret value => exact .ret value start
  | fail error => exact .fail error start
  | clock next inductionHypothesis => exact .clock (inductionHypothesis start history start)
  | call op deadlines next inductionHypothesis =>
      have prompt : (delays.environment.react history start op deadlines).Prompt start deadlines :=
        delays.react_prompt history start op deadlines
      unfold runIn
      split
      · next later answer reaction =>
          rw [reaction] at prompt
          cases answer with
          | ready value =>
              refine .ready value prompt.1 ?_ (inductionHypothesis _ _ later)
              rw [List.append_nil]
              exact prompt.2
          | elapsed scope progress =>
              obtain ⟨notBefore, due, inTime, innermost⟩ := prompt
              refine .elapsed scope progress notBefore due ?_ innermost
                (inductionHypothesis _ _ later)
              rw [List.append_nil]
              exact inTime
      · next later progress reaction =>
          rw [reaction] at prompt
          exact .cut progress prompt.1 nofun prompt.2

end EffectProgram
