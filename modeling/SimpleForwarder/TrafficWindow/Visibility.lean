import SimpleForwarder.Lib.Machine
import Mathlib.Data.List.Basic

/-!
Contract: the thread and the visibility of the traffic window
(`open_traffic_window`, `run_traffic_window`).

Owns: the protocol of `want_visible` and `thread_running` between the thread
that handles menu events and the UI threads, step by step: stores, swaps, the
start of a UI thread, its ticks, the closing of the window and its end.

`UI::init` may fail, and the event loop may return. A tick loads `want_visible`
and shows or hides the window afterwards; closing runs on the UI thread, so not
within a tick.

Does not own: the rows of the window.
-/

namespace SimpleForwarder

/-- Where `open_traffic_window` is. -/
inductive OpeningStage where
  | idle
  /-- `want_visible` has been stored. -/
  | storedVisible
  /-- `thread_running.swap(true)` has returned false. -/
  | swapped
deriving DecidableEq

/-- Where a UI thread is. -/
inductive UiStage where
  | initializing
  /-- In the event loop; a tick has loaded `want_visible`, or none is under way. -/
  | looping (isVisible : Bool) (loaded : Option Bool)
  /-- `run_traffic_window` has returned. -/
  | returned
  /-- `thread_running` has been reset. -/
  | ended
deriving DecidableEq

def UiStage.isAlive : UiStage → Bool
  | .initializing | .looping _ _ | .returned => true
  | .ended => false

structure WindowControl where
  wantVisible : Bool
  threadRunning : Bool
  opening : OpeningStage
  /-- In the order in which they were spawned. -/
  threads : List UiStage
deriving DecidableEq

inductive UiEvent where
  | init (succeeds : Bool)
  | tickLoad
  | tickShow
  /-- The user closes the window. -/
  | closing
  | loopReturns
  | resetRunning
deriving DecidableEq

inductive ControlEvent where
  /-- The menu item is chosen: the first step of `open_traffic_window`. -/
  | openWindow
  | swapRunning
  | spawnThread
  | thread (index : Nat) (event : UiEvent)
deriving DecidableEq

namespace WindowControl

def start : WindowControl where
  wantVisible := false
  threadRunning := false
  opening := .idle
  threads := []

def setThread (control : WindowControl) (index : Nat) (stage : UiStage) : WindowControl :=
  { control with threads := control.threads.set index stage }

/-- A step of the UI thread with the stage. -/
def stepThread (control : WindowControl) (index : Nat) :
    UiStage → UiEvent → Option WindowControl
  | .initializing, .init true => some (control.setThread index (.looping true none))
  | .initializing, .init false => some (control.setThread index .returned)
  | .looping isVisible none, .tickLoad =>
      some (control.setThread index (.looping isVisible (some control.wantVisible)))
  | .looping _ (some visible), .tickShow => some (control.setThread index (.looping visible none))
  | .looping true none, .closing =>
      some ({ control with wantVisible := false }.setThread index (.looping false none))
  | .looping _ none, .loopReturns => some (control.setThread index .returned)
  | .returned, .resetRunning =>
      some ({ control with threadRunning := false }.setThread index .ended)
  | _, _ => none

def step (control : WindowControl) : ControlEvent → Option WindowControl
  | .openWindow =>
      if control.opening = .idle then
        some { control with wantVisible := true, opening := .storedVisible }
      else none
  | .swapRunning =>
      if control.opening = .storedVisible then
        some { control with
          threadRunning := true
          opening := if control.threadRunning then .idle else .swapped }
      else none
  | .spawnThread =>
      if control.opening = .swapped then
        some { control with opening := .idle, threads := control.threads ++ [.initializing] }
      else none
  | .thread index event =>
      control.threads[index]?.bind fun stage => control.stepThread index stage event

/-! ## What a step can do -/

/-- A step of a UI thread. -/
inductive ThreadMove (control : WindowControl) (index : Nat) :
    UiStage → UiEvent → WindowControl → Prop where
  | started : ThreadMove control index .initializing (.init true)
      (control.setThread index (.looping true none))
  | failed : ThreadMove control index .initializing (.init false)
      (control.setThread index .returned)
  | tickLoad {isVisible : Bool} :
      ThreadMove control index (.looping isVisible none) .tickLoad
        (control.setThread index (.looping isVisible (some control.wantVisible)))
  | tickShow {isVisible visible : Bool} :
      ThreadMove control index (.looping isVisible (some visible)) .tickShow
        (control.setThread index (.looping visible none))
  | closing : ThreadMove control index (.looping true none) .closing
      ({ control with wantVisible := false }.setThread index (.looping false none))
  | loopReturns {isVisible : Bool} :
      ThreadMove control index (.looping isVisible none) .loopReturns
        (control.setThread index .returned)
  | resetRunning : ThreadMove control index .returned .resetRunning
      ({ control with threadRunning := false }.setThread index .ended)

inductive Move (control : WindowControl) : ControlEvent → WindowControl → Prop where
  | openWindow (idle : control.opening = .idle) :
      Move control .openWindow { control with wantVisible := true, opening := .storedVisible }
  /-- A UI thread is alive. -/
  | refused (stored : control.opening = .storedVisible) (running : control.threadRunning = true) :
      Move control .swapRunning { control with opening := .idle }
  | taken (stored : control.opening = .storedVisible) (free : control.threadRunning = false) :
      Move control .swapRunning { control with threadRunning := true, opening := .swapped }
  | spawnThread (swapped : control.opening = .swapped) :
      Move control .spawnThread
        { control with opening := .idle, threads := control.threads ++ [.initializing] }
  | thread {index : Nat} {stage : UiStage} {event : UiEvent} {next : WindowControl}
      (found : control.threads[index]? = some stage)
      (moves : control.ThreadMove index stage event next) :
      Move control (.thread index event) next

theorem threadMove_of_stepThread {control next : WindowControl} {index : Nat} {stage : UiStage}
    {event : UiEvent} (stepped : control.stepThread index stage event = some next) :
    control.ThreadMove index stage event next := by
  unfold stepThread at stepped
  split at stepped
  next => cases stepped; exact .started
  next => cases stepped; exact .failed
  next => cases stepped; exact .tickLoad
  next => cases stepped; exact .tickShow
  next => cases stepped; exact .closing
  next => cases stepped; exact .loopReturns
  next => cases stepped; exact .resetRunning
  next => cases stepped

theorem move_of_step {control next : WindowControl} {event : ControlEvent}
    (stepped : step control event = some next) : Move control event next := by
  cases event with
  | openWindow =>
      simp only [step] at stepped
      split at stepped
      next idle => cases stepped; exact .openWindow idle
      next => cases stepped
  | swapRunning =>
      simp only [step] at stepped
      split at stepped
      next stored =>
        cases stepped
        cases running : control.threadRunning with
        | true => simpa [running] using Move.refused stored running
        | false => simpa [running] using Move.taken stored running
      next => cases stepped
  | spawnThread =>
      simp only [step] at stepped
      split at stepped
      next swapped => cases stepped; exact .spawnThread swapped
      next => cases stepped
  | thread index event =>
      obtain ⟨stage, found, stepped⟩ := Option.bind_eq_some_iff.mp stepped
      exact .thread found (threadMove_of_stepThread stepped)

/-! ## One UI thread at a time -/

/-- The UI threads that have not ended, and the one that is about to be spawned. -/
def claims (control : WindowControl) : Nat :=
  control.threads.countP UiStage.isAlive + if control.opening = .swapped then 1 else 0

/-- `thread_running` is set exactly while there is one. -/
def Exclusive (control : WindowControl) : Prop :=
  control.claims = control.threadRunning.toNat

variable {control next : WindowControl} {event : ControlEvent} {events : List ControlEvent}

theorem countP_setThread {index : Nat} {stage : UiStage}
    (found : control.threads[index]? = some stage)
    (after : UiStage) :
    (control.threads.set index after).countP UiStage.isAlive + stage.isAlive.toNat =
      control.threads.countP UiStage.isAlive + after.isAlive.toNat := by
  obtain ⟨inBounds, same⟩ := List.getElem?_eq_some_iff.mp found
  have counted : stage.isAlive = true → 0 < control.threads.countP UiStage.isAlive := fun alive =>
    List.countP_pos_iff.mpr ⟨stage, List.mem_of_getElem? found, alive⟩
  rw [List.countP_set inBounds, same]
  cases alive : stage.isAlive with
  | false => cases after.isAlive <;> simp
  | true =>
      have some := counted alive
      cases after.isAlive <;> simp <;> omega

/-- A UI thread that goes on leaves the claims as they are. -/
theorem Exclusive.setThread {index : Nat} {stage after : UiStage} (exclusive : Exclusive control)
    (found : control.threads[index]? = some stage) (alive : stage.isAlive = true)
    (aliveAfter : after.isAlive = true) : Exclusive (control.setThread index after) := by
  have counted := countP_setThread found after
  rw [alive, aliveAfter, Nat.add_right_cancel_iff] at counted
  exact (congrArg (· + if control.opening = .swapped then 1 else 0) counted).trans exclusive

theorem Exclusive.move (exclusive : Exclusive control) (move : Move control event next) :
    Exclusive next := by
  cases move with
  | openWindow idle =>
      simp only [Exclusive, claims, idle] at exclusive ⊢
      exact exclusive
  | refused stored running =>
      simp only [Exclusive, claims, stored, running] at exclusive ⊢
      exact exclusive
  | taken stored free =>
      simp only [Exclusive, claims, stored, free] at exclusive ⊢
      exact congrArg (· + 1) exclusive
  | spawnThread swapped =>
      simp only [Exclusive, claims, swapped, List.countP_append] at exclusive ⊢
      exact exclusive
  | @thread index stage event next found moves =>
      cases moves with
      | started => exact exclusive.setThread found rfl rfl
      | failed => exact exclusive.setThread found rfl rfl
      | tickLoad => exact exclusive.setThread found rfl rfl
      | tickShow => exact exclusive.setThread found rfl rfl
      | closing =>
          have same : Exclusive { control with wantVisible := false } := exclusive
          exact same.setThread found rfl rfl
      | loopReturns => exact exclusive.setThread found rfl rfl
      | resetRunning =>
          have counted := countP_setThread found .ended
          have bound := Bool.toNat_le control.threadRunning
          rw [show UiStage.returned.isAlive.toNat = 1 from rfl,
            show UiStage.ended.isAlive.toNat = 0 from rfl] at counted
          unfold Exclusive claims at exclusive
          show (control.threads.set index .ended).countP UiStage.isAlive +
            (if control.opening = .swapped then 1 else 0) = 0
          omega

theorem exclusive_of_run (reached : Machine.run step start events = some control) :
    Exclusive control :=
  Machine.run_invariant Exclusive (show Exclusive start from rfl)
    (fun _ _ _ exclusive stepped => exclusive.move (move_of_step stepped)) reached

/-- Two UI threads that are alive are one. -/
theorem Exclusive.unique (exclusive : Exclusive control) {index other : Nat}
    {stage otherStage : UiStage} (found : control.threads[index]? = some stage)
    (foundOther : control.threads[other]? = some otherStage) (alive : stage.isAlive = true)
    (aliveOther : otherStage.isAlive = true) : index = other := by
  by_contra distinct
  have counted := countP_setThread found .ended
  have bound := Bool.toNat_le control.threadRunning
  rw [alive, show UiStage.ended.isAlive.toNat = 0 from rfl, Bool.toNat_true] at counted
  unfold Exclusive claims at exclusive
  have remains : otherStage ∈ control.threads.set index .ended := by
    refine List.mem_of_getElem? (i := other) ?_
    rwa [List.getElem?_set_ne distinct]
  have some := List.countP_pos_iff.mpr ⟨otherStage, remains, aliveOther⟩
  omega

/-- Until a UI thread resets the flag, the choice that the last swap handed over
has a thread. -/
structure Served (history : List ControlEvent) (control : WindowControl) : Prop where
  exclusive : Exclusive control
  ended : control.wantVisible = true → control.opening = .idle → control.threadRunning = false →
    ∃ before index after, history = before ++ .thread index .resetRunning :: after ∧
      .swapRunning ∉ after

theorem Served.later {history : List ControlEvent} {before after : List ControlEvent} {index : Nat}
    (split : history = before ++ .thread index .resetRunning :: after)
    (noSwap : .swapRunning ∉ after) (notSwap : event ≠ .swapRunning) :
    ∃ before index after, history ++ [event] = before ++ .thread index .resetRunning :: after ∧
      .swapRunning ∉ after := by
  refine ⟨before, index, after ++ [event], by simp [split], fun mem => ?_⟩
  rcases List.mem_append.mp mem with mem | mem
  · exact noSwap mem
  · exact notSwap (List.mem_singleton.mp mem).symm

theorem Served.move {history : List ControlEvent} (served : Served history control)
    (move : Move control event next) : Served (history ++ [event]) next := by
  refine ⟨served.exclusive.move move, fun wanted idle free => ?_⟩
  have old : control.wantVisible = true → control.opening = .idle →
      control.threadRunning = false → event ≠ .swapRunning →
      ∃ before index after, history ++ [event] = before ++ .thread index .resetRunning :: after ∧
        .swapRunning ∉ after := by
    intro wanted idle free notSwap
    obtain ⟨before, index, after, split, noSwap⟩ := served.ended wanted idle free
    exact Served.later split noSwap notSwap
  cases move with
  | openWindow _ => cases idle
  | refused _ running => exact absurd (running.symm.trans free) (by decide)
  | taken _ _ => cases idle
  | spawnThread swapped =>
      -- the thread that is spawned holds the flag
      have exclusive := served.exclusive
      unfold Exclusive claims at exclusive
      rw [if_pos swapped, show control.threadRunning = false from free] at exclusive
      exact absurd exclusive (Nat.succ_ne_zero _)
  | @thread index stage event next found moves =>
      cases moves with
      | started => exact old wanted idle free nofun
      | failed => exact old wanted idle free nofun
      | tickLoad => exact old wanted idle free nofun
      | tickShow => exact old wanted idle free nofun
      | closing => cases wanted
      | loopReturns => exact old wanted idle free nofun
      | resetRunning => exact ⟨history, index, [], rfl, List.not_mem_nil⟩

/-- At most one UI thread is alive, and `thread_running` is set exactly while one
is or is about to be spawned. While no call that opens it is under way, a window
that is wanted has such a thread, unless one has ended since the last swap of the
flag. -/
theorem one_ui_thread (reached : Machine.run step start events = some control) :
    (∀ (index other : Nat) (stage otherStage : UiStage), control.threads[index]? = some stage →
      control.threads[other]? = some otherStage → stage.isAlive = true →
      otherStage.isAlive = true → index = other) ∧
    (control.threadRunning = true ↔
      (∃ stage ∈ control.threads, stage.isAlive = true) ∨ control.opening = .swapped) ∧
    (control.wantVisible = true → control.opening = .idle → control.threadRunning = false →
      ∃ before index after, events = before ++ .thread index .resetRunning :: after ∧
        .swapRunning ∉ after) := by
  have served : Served events control := Machine.run_history Served
    ⟨show Exclusive start from rfl, nofun⟩
    (fun _ _ _ _ served stepped => served.move (move_of_step stepped)) reached
  refine ⟨fun _ _ _ _ found foundOther alive aliveOther =>
    served.exclusive.unique found foundOther alive aliveOther, ?_, served.ended⟩
  have exclusive := served.exclusive
  unfold Exclusive claims at exclusive
  rw [← List.countP_pos_iff]
  by_cases swapped : control.opening = .swapped
  · rw [if_pos swapped] at exclusive
    have taken : control.threadRunning = true := by
      cases running : control.threadRunning with
      | true => rfl
      | false => rw [running] at exclusive; exact absurd exclusive (Nat.succ_ne_zero _)
    exact iff_of_true taken (.inr swapped)
  · rw [if_neg swapped, Nat.add_zero] at exclusive
    rw [exclusive, or_iff_left swapped]
    cases control.threadRunning <;> simp

/-- The event loop has returned; the choice that comes before the reset is lost. -/
def lostChoice : List ControlEvent :=
  [.openWindow, .swapRunning, .spawnThread, .thread 0 (.init false), .openWindow, .swapRunning,
    .thread 0 .resetRunning]

theorem one_ui_thread_lostChoice :
    ∃ control, Machine.run step start lostChoice = some control ∧
      (∀ (index other : Nat) (stage otherStage : UiStage), control.threads[index]? = some stage →
        control.threads[other]? = some otherStage → stage.isAlive = true →
        otherStage.isAlive = true → index = other) ∧
      (control.threadRunning = true ↔
        (∃ stage ∈ control.threads, stage.isAlive = true) ∨ control.opening = .swapped) ∧
      (control.wantVisible = true → control.opening = .idle → control.threadRunning = false →
        ∃ before index after, lostChoice = before ++ .thread index .resetRunning :: after ∧
          .swapRunning ∉ after) :=
  ⟨_, rfl, one_ui_thread (show Machine.run step start lostChoice = some _ from rfl)⟩

/-! ## What a tick shows -/

/-- The last request: opening the window, or closing it. -/
def requested (history : List ControlEvent) : Bool :=
  history.foldl (fun wanted event =>
    match event with
    | .openWindow => true
    | .thread _ .closing => false
    | _ => wanted) false

theorem wantVisible_of_run (reached : Machine.run step start events = some control) :
    control.wantVisible = requested events := by
  refine Machine.run_history (fun history control => control.wantVisible = requested history) rfl ?_
    reached
  intro history middle event next wanted stepped
  simp only [requested, List.foldl_append, List.foldl_cons, List.foldl_nil] at wanted ⊢
  rw [← wanted]
  cases move_of_step stepped with
  | openWindow _ => rfl
  | refused _ _ => rfl
  | taken _ _ => rfl
  | spawnThread _ => rfl
  | thread found moves => cases moves <;> rfl

/-- In a tick that has loaded `want_visible`, which nothing has stored since. -/
structure InTick (index : Nat) (isVisible wanted : Bool) (control : WindowControl) : Prop where
  exclusive : Exclusive control
  stage : control.threads[index]? = some (.looping isVisible (some wanted))

theorem InTick.move {index : Nat} {isVisible wanted : Bool}
    (inTick : InTick index isVisible wanted control) (notShow : event ≠ .thread index .tickShow)
    (move : Move control event next) : InTick index isVisible wanted next := by
  refine ⟨inTick.exclusive.move move, ?_⟩
  cases move with
  | openWindow _ => exact inTick.stage
  | refused _ _ => exact inTick.stage
  | taken _ _ => exact inTick.stage
  | spawnThread _ =>
      have inBounds := (List.getElem?_eq_some_iff.mp inTick.stage).1
      exact (List.getElem?_append_left inBounds).trans inTick.stage
  | @thread other stage event next found moves =>
      have alive : stage.isAlive = true := by cases moves <;> rfl
      obtain rfl : other = index := inTick.exclusive.unique found inTick.stage alive rfl
      obtain rfl : stage = .looping isVisible (some wanted) :=
        Option.some.inj (found.symm.trans inTick.stage)
      cases moves with
      | tickShow => exact absurd rfl notShow

/-- Every tick leaves the window visible just if the last request before the tick
loaded `want_visible` was to open it. -/
theorem tick_shows {before middle : List ControlEvent} {index : Nat}
    (same : .thread index .tickShow ∉ middle)
    (reached : Machine.run step start
      (before ++ .thread index .tickLoad :: (middle ++ [.thread index .tickShow])) = some control) :
    control.threads[index]? = some (.looping (requested before) none) := by
  obtain ⟨first, reachedFirst, further⟩ := Machine.run_append_eq_some.mp reached
  obtain ⟨loaded, loads, further⟩ := Option.bind_eq_some_iff.mp further
  obtain ⟨last, reachedLast, shows⟩ := Machine.run_concat_eq_some.mp further
  have exclusive := (exclusive_of_run reachedFirst).move (move_of_step loads)
  have wanted := wantVisible_of_run reachedFirst
  obtain ⟨isVisible, inTick⟩ : ∃ isVisible, InTick index isVisible (requested before) loaded := by
    cases move_of_step loads with
    | thread found moves =>
        cases moves with
        | @tickLoad isVisible =>
            have inBounds := (List.getElem?_eq_some_iff.mp found).1
            refine ⟨isVisible, exclusive, ?_⟩
            rw [← wanted]
            exact List.getElem?_set_self inBounds
  have notShow : ∀ event ∈ middle, ∀ _ : WindowControl, event ≠ .thread index .tickShow := by
    rintro event mem _ rfl
    exact same mem
  have atShow : InTick index isVisible (requested before) last :=
    Machine.run_invariant_along (InTick index isVisible (requested before)) inTick
      (fun _ _ _ inTick notShow stepped => inTick.move notShow (move_of_step stepped))
      (Machine.along_of_forall notShow loaded) reachedLast
  cases move_of_step shows with
  | thread found moves =>
      obtain rfl := Option.some.inj (found.symm.trans atShow.stage)
      cases moves with
      | tickShow => exact List.getElem?_set_self (List.getElem?_eq_some_iff.mp found).1

/-- The window is opened, closed, and asked for again during a tick. -/
def reopened : List ControlEvent :=
  [.openWindow, .swapRunning, .spawnThread, .thread 0 (.init true), .thread 0 .closing]

theorem tick_shows_reopened :
    ∃ control, Machine.run step start
        (reopened ++ .thread 0 .tickLoad ::
          ([.openWindow, .swapRunning] ++ [.thread 0 .tickShow])) = some control ∧
      control.threads[0]? = some (.looping (requested reopened) none) :=
  ⟨_, rfl, tick_shows (by decide) (show Machine.run step start
    (reopened ++ .thread 0 .tickLoad :: ([.openWindow, .swapRunning] ++ [.thread 0 .tickShow])) =
      some _ from rfl)⟩

end WindowControl

end SimpleForwarder
