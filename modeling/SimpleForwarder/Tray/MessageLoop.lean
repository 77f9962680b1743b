import SimpleForwarder.Lib.Machine
import Mathlib.Data.List.Count

/-!
Contract: the tray (`tray.rs`) on Windows.

Owns: the activity task, the hover thread, the message loop with its queue and
the menu events, the two dialogs, and the machine of their interleavings: which
icon is shown, how many dialogs are open, and when the loop ends.

A posted message may be refused, a modal loop (an open menu) takes thread
messages from the queue without handling them, and the tray may refuse an icon.
Messages that windows receive are one kind; what their dispatch can add is a
chosen menu item. `WM_QUIT`, which ends the loop, comes from outside the program.

Does not own: the registry, the traffic window, what a dialog shows, and the icon
of a console window.
-/

namespace SimpleForwarder

/-- In milliseconds. -/
def forceExitTimeout : Nat := 3 * 1000

inductive MenuId where
  | stats
  | traffic
  | openDir
  | autostart
  | quit
deriving DecidableEq

inductive Message where
  /-- `WM_USER + 1`. -/
  | iconUpdate (active : Bool)
  /-- `WM_USER + 2`. -/
  | quit
  /-- `WM_USER + 3`. -/
  | hover
  /-- Any other message; its dispatch may report a choice from the menu. -/
  | window (chosen : Option MenuId)
deriving DecidableEq

/-- A message posted with `PostThreadMessageW`, which has no window. -/
def Message.isThreadMessage : Message → Bool
  | .iconUpdate _ | .quit | .hover => true
  | .window _ => false

/-- The icon after the message. -/
def Message.showOver (message : Message) (icon : Bool) : Bool :=
  match message with
  | .iconUpdate active => active
  | .quit | .hover | .window _ => icon

/-- A dialog with its flag: the flag is set exactly while a thread shows it. -/
structure Dialog where
  isOpen : Bool
  threads : Nat
  exclusive : threads = isOpen.toNat
deriving DecidableEq

namespace Dialog

def closed : Dialog := ⟨false, 0, rfl⟩

/-- The flag is taken with `swap(true)`; who finds it set returns. -/
def request (dialog : Dialog) : Dialog :=
  if isOpen : dialog.isOpen then dialog
  else ⟨true, dialog.threads + 1, by rw [dialog.exclusive]; simp [isOpen]⟩

/-- The thread stores `false` when its message box has been closed. -/
def finish (dialog : Dialog) : Option Dialog :=
  if dialog.threads = 0 then none
  else some ⟨false, dialog.threads - 1, by
    rw [dialog.exclusive]
    exact Nat.sub_eq_zero_of_le (Bool.toNat_le dialog.isOpen)⟩

end Dialog

inductive LoopStage where
  | notStarted
  | running
  | exited
deriving DecidableEq

structure Tray where
  /-- `stats.traffic_active`, which the server sets. -/
  trafficActive : Bool
  /-- What the activity task has found last. -/
  currentlyActive : Bool
  /-- `msg_loop_thread_id` is not zero. -/
  hasThreadId : Bool
  queue : List Message
  /-- The channel of `MenuEvent`. -/
  menuEvents : List MenuId
  /-- The icon shown is the active one. -/
  icon : Bool
  loop : LoopStage
  statsDialog : Dialog
  errorDialog : Dialog
  /-- When the threads spawned by Quit force the exit. -/
  forcedExits : List Nat
  now : Nat
deriving DecidableEq

inductive TrayEvent where
  | elapse (duration : Nat)
  /-- The server has accepted a connection or relayed bytes. -/
  | traffic
  /-- The activity task wakes up; a message it posts is accepted or not. -/
  | checkActivity (accepted : Bool)
  | hover (accepted : Bool)
  | runMessageLoop
  | windowMessage (chosen : Option MenuId)
  /-- `GetMessageW` returns a message; one that Quit posts is accepted or not, and
  `set_icon` succeeds or not. -/
  | getMessage (accepted iconSet : Bool)
  /-- `GetMessageW` returns `FALSE`. -/
  | getWmQuit
  /-- A modal loop takes the next message, which is a thread message. -/
  | loseMessage
  | configError
  | closeErrorDialog
  | closeStatsDialog
deriving DecidableEq

namespace Tray

def start : Tray where
  trafficActive := false
  currentlyActive := false
  hasThreadId := false
  queue := []
  menuEvents := []
  icon := false
  loop := .notStarted
  statsDialog := .closed
  errorDialog := .closed
  forcedExits := []
  now := 0

/-- A post to the thread of the message loop. -/
def post (tray : Tray) (accepted : Bool) (message : Message) : Tray :=
  if tray.hasThreadId && accepted then { tray with queue := tray.queue ++ [message] } else tray

/-- One turn of the activity task. Only a change is posted. -/
def checkActivity (tray : Tray) (accepted : Bool) : Tray :=
  let active := tray.trafficActive
  let swapped := { tray with trafficActive := false }
  if active then
    if swapped.currentlyActive then swapped
    else { swapped with currentlyActive := true }.post accepted (.iconUpdate true)
  else
    if swapped.currentlyActive then
      { swapped with currentlyActive := false }.post accepted (.iconUpdate false)
    else swapped

/-- `handle_menu_event`: the state, and whether quit was requested. -/
def handleMenuEvent (tray : Tray) (accepted : Bool) : MenuId → Tray × Bool
  | .quit =>
      if tray.hasThreadId then
        let posted := tray.post accepted .quit
        ({ posted with forcedExits := posted.forcedExits ++ [posted.now + forceExitTimeout] }, true)
      else ({ tray with loop := .exited }, true)
  | .stats => ({ tray with statsDialog := tray.statsDialog.request }, false)
  | .traffic | .openDir | .autostart => (tray, false)

/-- The pending menu events are handled, up to a Quit. -/
def drainMenuEvents (accepted : Bool) : List MenuId → Tray → Tray
  | [], tray => { tray with menuEvents := [] }
  | event :: events, tray =>
      match tray.handleMenuEvent accepted event with
      | (tray, true) => { tray with menuEvents := events }
      | (tray, false) => drainMenuEvents accepted events tray

/-- `handle_icon_update`: an icon that cannot be set leaves the old one. -/
def handleIconUpdate (tray : Tray) (iconSet active : Bool) : Tray :=
  if iconSet then { tray with icon := active } else tray

def handleMessage (tray : Tray) (iconSet : Bool) : Message → Tray
  | .quit => { tray with loop := .exited }
  | .iconUpdate active => tray.handleIconUpdate iconSet active
  | .hover => tray
  | .window none => tray
  | .window (some chosen) => { tray with menuEvents := tray.menuEvents ++ [chosen] }

def step (tray : Tray) : TrayEvent → Option Tray
  | .elapse duration => some { tray with now := tray.now + duration }
  | .traffic => some { tray with trafficActive := true }
  | .checkActivity accepted => some (tray.checkActivity accepted)
  | .hover accepted => some (tray.post accepted .hover)
  | .runMessageLoop =>
      if tray.loop = .notStarted then some { tray with hasThreadId := true, loop := .running }
      else none
  | .windowMessage chosen => some { tray with queue := tray.queue ++ [.window chosen] }
  | .getMessage accepted iconSet =>
      match tray.loop, tray.queue with
      | .running, message :: queue =>
          some
            ((drainMenuEvents accepted tray.menuEvents { tray with queue := queue }).handleMessage
            iconSet message)
      | _, _ => none
  | .getWmQuit => if tray.loop = .running then some { tray with loop := .exited } else none
  | .loseMessage =>
      match tray.loop, tray.queue with
      | .running, message :: queue =>
          if message.isThreadMessage then some { tray with queue := queue } else none
      | _, _ => none
  | .configError => some { tray with errorDialog := tray.errorDialog.request }
  | .closeErrorDialog =>
      tray.errorDialog.finish.map fun dialog => { tray with errorDialog := dialog }
  | .closeStatsDialog =>
      tray.statsDialog.finish.map fun dialog => { tray with statsDialog := dialog }

/-! ## Menu events -/

/-- What the handling of menu events leaves as it was; it can post quit messages. -/
structure Handles (before after : Tray) : Prop where
  trafficActive : after.trafficActive = before.trafficActive
  currentlyActive : after.currentlyActive = before.currentlyActive
  icon : after.icon = before.icon
  hasThreadId : after.hasThreadId = before.hasThreadId
  queue : ∃ count, after.queue = before.queue ++ List.replicate count .quit

theorem Handles.refl (tray : Tray) : Handles tray tray :=
  ⟨rfl, rfl, rfl, rfl, 0, by simp⟩

theorem Handles.trans {first second third : Tray} (one : Handles first second)
    (two : Handles second third) : Handles first third where
  trafficActive := two.trafficActive.trans one.trafficActive
  currentlyActive := two.currentlyActive.trans one.currentlyActive
  icon := two.icon.trans one.icon
  hasThreadId := two.hasThreadId.trans one.hasThreadId
  queue := by
    obtain ⟨count, queue⟩ := one.queue
    obtain ⟨more, further⟩ := two.queue
    exact ⟨count + more, by rw [further, queue, List.append_assoc, List.replicate_append_replicate]⟩

theorem handles_handleMenuEvent (tray : Tray) (accepted : Bool) (event : MenuId) :
    Handles tray (tray.handleMenuEvent accepted event).1 := by
  cases event with
  | quit =>
      simp only [handleMenuEvent, post]
      split
      · split
        · exact ⟨rfl, rfl, rfl, rfl, 1, rfl⟩
        · exact ⟨rfl, rfl, rfl, rfl, 0, (List.append_nil _).symm⟩
      · exact ⟨rfl, rfl, rfl, rfl, 0, (List.append_nil _).symm⟩
  | stats => exact ⟨rfl, rfl, rfl, rfl, 0, (List.append_nil _).symm⟩
  | traffic => exact .refl tray
  | openDir => exact .refl tray
  | autostart => exact .refl tray

theorem handles_drainMenuEvents (accepted : Bool) (events : List MenuId) (tray : Tray) :
    Handles tray (drainMenuEvents accepted events tray) := by
  induction events generalizing tray with
  | nil => exact ⟨rfl, rfl, rfl, rfl, 0, (List.append_nil _).symm⟩
  | cons event events inductionHypothesis =>
      have handles := handles_handleMenuEvent tray accepted event
      unfold drainMenuEvents
      split
      next after quits =>
        rw [quits] at handles
        exact ⟨handles.1, handles.2, handles.3, handles.4, handles.5⟩
      next after continues =>
        rw [continues] at handles
        exact handles.trans (inductionHypothesis after)

/-! ## The activity task -/

section Activity

variable {tray next : Tray} {accepted : Bool}

theorem post_activity (message : Message) :
    (tray.post accepted message).trafficActive = tray.trafficActive ∧
      (tray.post accepted message).currentlyActive = tray.currentlyActive := by
  unfold post
  split <;> exact ⟨rfl, rfl⟩

theorem checkActivity_activity :
    (tray.checkActivity accepted).trafficActive = false ∧
      (tray.checkActivity accepted).currentlyActive = tray.trafficActive := by
  unfold checkActivity
  cases active : tray.trafficActive <;> cases currently : tray.currentlyActive <;>
    simp [post_activity]

theorem handleIconUpdate_activity (iconSet active : Bool) :
    (tray.handleIconUpdate iconSet active).trafficActive = tray.trafficActive ∧
      (tray.handleIconUpdate iconSet active).currentlyActive = tray.currentlyActive := by
  cases iconSet <;> exact ⟨rfl, rfl⟩

theorem handleMessage_activity (iconSet : Bool) (message : Message) :
    (tray.handleMessage iconSet message).trafficActive = tray.trafficActive ∧
      (tray.handleMessage iconSet message).currentlyActive = tray.currentlyActive := by
  unfold handleMessage
  split
  · exact ⟨rfl, rfl⟩
  · exact handleIconUpdate_activity _ _
  · exact ⟨rfl, rfl⟩
  · exact ⟨rfl, rfl⟩
  · exact ⟨rfl, rfl⟩

def isCheck : TrayEvent → Bool
  | .checkActivity _ => true
  | _ => false

/-- Only the activity task takes `traffic_active` back. -/
theorem step_activity {event : TrayEvent} (notCheck : isCheck event = false)
    (stepped : step tray event = some next) :
    next.currentlyActive = tray.currentlyActive ∧
      (next.trafficActive = true ↔ tray.trafficActive = true ∨ event = .traffic) := by
  cases event with
  | elapse duration => cases stepped; simp
  | traffic => cases stepped; simp
  | checkActivity accepted => cases notCheck
  | hover accepted => cases stepped; simp [post_activity]
  | runMessageLoop =>
      simp only [step] at stepped
      split at stepped
      · cases stepped; simp
      · cases stepped
  | windowMessage chosen => cases stepped; simp
  | getMessage accepted iconSet =>
      simp only [step] at stepped
      split at stepped
      · cases stepped
        have drained := handles_drainMenuEvents
        simp [handleMessage_activity, (drained _ _ _).trafficActive,
          (drained _ _ _).currentlyActive]
      · cases stepped
  | getWmQuit =>
      simp only [step] at stepped
      split at stepped
      · cases stepped; simp
      · cases stepped
  | loseMessage =>
      simp only [step] at stepped
      split at stepped
      · split at stepped
        · cases stepped; simp
        · cases stepped
      · cases stepped
  | configError => cases stepped; simp
  | closeErrorDialog => obtain ⟨_, _, rfl⟩ := Option.map_eq_some_iff.mp stepped; simp
  | closeStatsDialog => obtain ⟨_, _, rfl⟩ := Option.map_eq_some_iff.mp stepped; simp

theorem run_activity {first last : Tray} {events : List TrayEvent}
    (notCheck : ∀ event ∈ events, isCheck event = false)
    (reached : Machine.run step first events = some last) :
    last.currentlyActive = first.currentlyActive ∧
      (last.trafficActive = true ↔ first.trafficActive = true ∨ .traffic ∈ events) := by
  induction events generalizing first with
  | nil =>
      rw [Machine.run_nil, Option.some.injEq] at reached
      simp [reached]
  | cons event events inductionHypothesis =>
      obtain ⟨middle, stepped, reached⟩ := Option.bind_eq_some_iff.mp reached
      have now := step_activity (notCheck event List.mem_cons_self) stepped
      have later := inductionHypothesis
        (fun other mem => notCheck other (List.mem_cons_of_mem event mem)) reached
      refine ⟨later.1.trans now.1, later.2.trans ?_⟩
      rw [now.2, List.mem_cons, or_assoc, eq_comm (a := event)]

/-- What the activity task has found last is whether there was traffic between
its last two turns; no traffic is missed, and none is counted twice. -/
theorem currentlyActive_iff {before middle after : List TrayEvent} {last : Tray}
    {accepted : Bool} {acceptedLater : Bool}
    (noCheck : ∀ event ∈ middle ++ after, isCheck event = false)
    (reached : Machine.run step start
      (before ++ .checkActivity accepted :: (middle ++ .checkActivity acceptedLater :: after)) =
        some last) :
    (last.currentlyActive = true ↔ .traffic ∈ middle) ∧
      (last.trafficActive = true ↔ .traffic ∈ after) := by
  obtain ⟨first, -, further⟩ := Machine.run_append_eq_some.mp reached
  obtain ⟨checked, isChecked, further⟩ := Option.bind_eq_some_iff.mp further
  obtain ⟨second, between, further⟩ := Machine.run_append_eq_some.mp further
  obtain ⟨rechecked, isRechecked, further⟩ := Option.bind_eq_some_iff.mp further
  cases isChecked
  cases isRechecked
  have inMiddle := run_activity
    (fun event mem => noCheck event (List.mem_append_left after mem)) between
  have inAfter := run_activity
    (fun event mem => noCheck event (List.mem_append_right middle mem)) further
  rw [checkActivity_activity.1] at inMiddle inAfter
  rw [checkActivity_activity.2] at inAfter
  constructor
  · rw [inAfter.1, inMiddle.2]
    simp
  · rw [inAfter.2]
    simp

theorem currentlyActive_iff_once :
    ∃ last, Machine.run step start
        ([] ++ .checkActivity true :: ([.elapse 200, .traffic] ++ .checkActivity true :: [])) =
          some last ∧
      (last.currentlyActive = true ↔ .traffic ∈ [TrayEvent.elapse 200, .traffic]) ∧
      (last.trafficActive = true ↔ .traffic ∈ ([] : List TrayEvent)) :=
  ⟨_, rfl, currentlyActive_iff (by decide) (show Machine.run step start
    ([] ++ .checkActivity true :: ([.elapse 200, .traffic] ++ .checkActivity true :: [])) = some _
    from rfl)⟩

end Activity

/-! ## The icon -/

/-- The icon that is shown once the messages in the queue have been handled. -/
def pendingIcon (tray : Tray) : Bool :=
  tray.queue.foldl (fun icon message => message.showOver icon) tray.icon

section Icon

variable {tray next : Tray} {accepted : Bool}

/-- Messages that do not update the icon. -/
theorem foldl_showOver {messages : List Message} (none : ∀ active, .iconUpdate active ∉ messages)
    (icon : Bool) : messages.foldl (fun icon message => message.showOver icon) icon = icon := by
  induction messages with
  | nil => rfl
  | cons message messages inductionHypothesis =>
      have rest : ∀ active, .iconUpdate active ∉ messages := fun active mem =>
        none active (List.mem_cons_of_mem message mem)
      cases message with
      | iconUpdate active => exact absurd List.mem_cons_self (none active)
      | quit => exact inductionHypothesis rest
      | hover => exact inductionHypothesis rest
      | window chosen => exact inductionHypothesis rest

theorem pendingIcon_of_append {other : Tray} (messages : List Message)
    (none : ∀ active, .iconUpdate active ∉ messages) (icon : other.icon = tray.icon)
    (queue : other.queue = tray.queue ++ messages) : other.pendingIcon = tray.pendingIcon := by
  rw [pendingIcon, queue, icon, List.foldl_append, foldl_showOver none, pendingIcon]

theorem pendingIcon_post_icon {active : Bool} (delivered : (tray.hasThreadId && accepted) = true) :
    (tray.post accepted (.iconUpdate active)).pendingIcon = active := by
  rw [post, if_pos delivered, pendingIcon]
  simp only [List.foldl_append, List.foldl_cons, List.foldl_nil, Message.showOver]

theorem pendingIcon_post_hover :
    (tray.post accepted .hover).pendingIcon = tray.pendingIcon := by
  unfold post
  split
  · exact pendingIcon_of_append [.hover] (by simp) rfl rfl
  · rfl

theorem foldl_showOver_of_mem {messages : List Message} {later : Bool}
    (mem : .iconUpdate later ∈ messages) (icon other : Bool) :
    messages.foldl (fun icon message => message.showOver icon) icon =
      messages.foldl (fun icon message => message.showOver icon) other := by
  obtain ⟨before, after, rfl⟩ := List.append_of_mem mem
  simp only [List.foldl_append, List.foldl_cons, Message.showOver]

theorem handleMessage_shows (tray : Tray) (iconSet : Bool) (message : Message) :
    (tray.handleMessage iconSet message).icon =
        (if iconSet then message.showOver tray.icon else tray.icon) ∧
      (tray.handleMessage iconSet message).queue = tray.queue := by
  cases iconSet with
  | false =>
      cases message with
      | window chosen => cases chosen <;> exact ⟨rfl, rfl⟩
      | _ => exact ⟨rfl, rfl⟩
  | true =>
      cases message with
      | window chosen => cases chosen <;> exact ⟨rfl, rfl⟩
      | _ => exact ⟨rfl, rfl⟩

/-- The icon of the first update is not needed if it is shown or a later one waits. -/
def Supersedes (tray : Tray) (iconSet : Bool) : Prop :=
  ∀ shown, tray.queue.head? = some (.iconUpdate shown) →
    iconSet = true ∨ ∃ later, .iconUpdate later ∈ tray.queue.tail

instance (tray : Tray) (iconSet : Bool) : Decidable (Supersedes tray iconSet) := by
  unfold Supersedes
  infer_instance

/-- What is shown after the messages behind the first one. -/
theorem foldl_showOver_tail {message : Message} {queue : List Message} {iconSet : Bool}
    (isQueue : tray.queue = message :: queue) (supersedes : Supersedes tray iconSet) :
    queue.foldl (fun icon message => message.showOver icon)
      (if iconSet then message.showOver tray.icon else tray.icon) = tray.pendingIcon := by
  rw [pendingIcon, isQueue, List.foldl_cons]
  cases iconSet with
  | true => rfl
  | false =>
      cases message with
      | iconUpdate shown =>
          obtain ⟨later, mem⟩ := (supersedes shown (by rw [isQueue]; rfl)).resolve_left nofun
          rw [isQueue] at mem
          exact foldl_showOver_of_mem mem _ _
      | quit => rfl
      | hover => rfl
      | window chosen => rfl

/-- Handling the first message, after menu events, leaves what will be shown. -/
theorem pendingIcon_handle {message : Message} {queue : List Message} {iconSet : Bool}
    (isQueue : tray.queue = message :: queue) (supersedes : Supersedes tray iconSet) :
    ((drainMenuEvents accepted tray.menuEvents { tray with queue := queue }).handleMessage
      iconSet message).pendingIcon = tray.pendingIcon := by
  have drained := handles_drainMenuEvents accepted tray.menuEvents { tray with queue := queue }
  obtain ⟨count, queueAfter⟩ := drained.queue
  have shows := handleMessage_shows
    (drainMenuEvents accepted tray.menuEvents { tray with queue := queue }) iconSet message
  rw [pendingIcon, shows.1, shows.2, queueAfter, drained.icon, List.foldl_append,
    foldl_showOver (by simp [List.mem_replicate])]
  exact foldl_showOver_tail isQueue supersedes

/-- An icon update is posted and shown, or a later one waits. -/
def Delivers (tray : Tray) : TrayEvent → Prop
  | .checkActivity accepted =>
      tray.trafficActive ≠ tray.currentlyActive → (tray.hasThreadId && accepted) = true
  | .getMessage _ iconSet => Supersedes tray iconSet
  | .loseMessage => Supersedes tray false
  | _ => True

instance (tray : Tray) (event : TrayEvent) : Decidable (Delivers tray event) := by
  unfold Delivers
  split <;> infer_instance

def Agrees (tray : Tray) : Prop := tray.pendingIcon = tray.currentlyActive

/-- A change of activity that is posted sets what will be shown, whatever it was. -/
theorem agrees_of_change (changed : tray.trafficActive ≠ tray.currentlyActive)
    (delivered : (tray.hasThreadId && accepted) = true) : Agrees (tray.checkActivity accepted) := by
  unfold Agrees
  rw [checkActivity_activity.2]
  unfold checkActivity
  cases active : tray.trafficActive <;> cases currently : tray.currentlyActive
  · exact absurd (active.trans currently.symm) changed
  · exact pendingIcon_post_icon delivered
  · exact pendingIcon_post_icon delivered
  · exact absurd (active.trans currently.symm) changed

theorem Agrees.check (agrees : Agrees tray) (delivers : Delivers tray (.checkActivity accepted)) :
    Agrees (tray.checkActivity accepted) := by
  by_cases changed : tray.trafficActive = tray.currentlyActive
  · unfold Agrees at agrees ⊢
    rw [checkActivity_activity.2, changed, ← agrees]
    unfold checkActivity
    cases active : tray.currentlyActive <;> rw [active] at changed <;> simp [changed] <;> rfl
  · exact agrees_of_change changed (delivers changed)

theorem Agrees.step {event : TrayEvent} (agrees : Agrees tray) (delivers : Delivers tray event)
    (stepped : step tray event = some next) : Agrees next := by
  cases event with
  | elapse duration => cases stepped; exact agrees
  | traffic => cases stepped; exact agrees
  | checkActivity accepted => cases stepped; exact agrees.check delivers
  | hover accepted =>
      cases stepped
      exact pendingIcon_post_hover.trans (agrees.trans (post_activity .hover).2.symm)
  | runMessageLoop =>
      simp only [Tray.step] at stepped
      split at stepped
      · cases stepped; exact agrees
      · cases stepped
  | windowMessage chosen =>
      cases stepped
      have same : ({ tray with queue := tray.queue ++ [.window chosen] } : Tray).pendingIcon =
          tray.pendingIcon := pendingIcon_of_append [.window chosen] (by simp) rfl rfl
      exact same.trans agrees
  | getMessage accepted iconSet =>
      simp only [Tray.step] at stepped
      split at stepped
      next message queue _ isQueue =>
        cases stepped
        have drained :=
          handles_drainMenuEvents accepted tray.menuEvents { tray with queue := queue }
        refine (pendingIcon_handle isQueue delivers).trans (agrees.trans ?_)
        rw [(handleMessage_activity iconSet message).2, drained.currentlyActive]
      next => cases stepped
  | getWmQuit =>
      simp only [Tray.step] at stepped
      split at stepped
      · cases stepped; exact agrees
      · cases stepped
  | loseMessage =>
      simp only [Tray.step] at stepped
      split at stepped
      next message queue _ isQueue =>
        split at stepped
        next =>
          cases stepped
          have same : ({ tray with queue := queue } : Tray).pendingIcon = tray.pendingIcon :=
            foldl_showOver_tail isQueue delivers
          exact same.trans agrees
        next => cases stepped
      next => cases stepped
  | configError => cases stepped; exact agrees
  | closeErrorDialog => obtain ⟨_, _, rfl⟩ := Option.map_eq_some_iff.mp stepped; exact agrees
  | closeStatsDialog => obtain ⟨_, _, rfl⟩ := Option.map_eq_some_iff.mp stepped; exact agrees

/-- Whatever was lost before: from a change of activity on whose update and those
after it arrive and are shown, or have a later one behind them, the icon is the
one of the activity found last, as soon as no update waits in the queue. -/
theorem icon_follows_activity {first last : Tray} {events : List TrayEvent}
    (changed : first.trafficActive ≠ first.currentlyActive)
    (along : Machine.Along Tray.step Delivers first (.checkActivity accepted :: events))
    (reached : Machine.run Tray.step first (.checkActivity accepted :: events) = some last) :
    last.pendingIcon = last.currentlyActive ∧
      ((∀ active, .iconUpdate active ∉ last.queue) → last.icon = last.currentlyActive) := by
  obtain ⟨checked, isChecked, further⟩ := Option.bind_eq_some_iff.mp reached
  have agreesFirst : Agrees checked := by
    cases isChecked
    exact agrees_of_change changed (along.1 changed)
  have agrees : Agrees last := Machine.run_invariant_along Agrees agreesFirst
    (fun _ _ _ agrees delivers stepped => agrees.step delivers stepped) (along.2 checked isChecked)
    further
  refine ⟨agrees, fun nothing => ?_⟩
  rw [← show last.pendingIcon = last.currentlyActive from agrees, pendingIcon,
    foldl_showOver nothing]

/-- The first update has been lost in an open menu. -/
def updateLost : Tray :=
  { start with
    hasThreadId := true
    loop := .running
    currentlyActive := true }

def recovered : Tray := { updateLost with currentlyActive := false }

theorem icon_follows_activity_updateLost :
    Machine.run Tray.step start [.runMessageLoop, .traffic, .checkActivity true, .loseMessage] =
        some updateLost ∧
      updateLost.icon ≠ updateLost.currentlyActive ∧
      recovered.pendingIcon = recovered.currentlyActive ∧
      ((∀ active, .iconUpdate active ∉ recovered.queue) →
        recovered.icon = recovered.currentlyActive) :=
  ⟨rfl, by decide, icon_follows_activity (show updateLost.trafficActive ≠ true by decide)
    (show Machine.Along Tray.step Delivers updateLost
      [.checkActivity true, .getMessage true true] by decide)
    (show Machine.run Tray.step updateLost [.checkActivity true, .getMessage true true] =
      some recovered by decide)⟩

end Icon

/-! ## Quit -/

section Quit

variable {tray next : Tray} {accepted : Bool}

/-- The choices of Quit on their way: in the queue, in the channel, or handled,
with the thread that forces the exit. -/
def quits (tray : Tray) : Nat :=
  tray.queue.count (.window (some .quit)) + tray.menuEvents.count .quit + tray.forcedExits.length

def quitChosen : TrayEvent → Bool
  | .windowMessage (some .quit) => true
  | _ => false

/-- What the handling of menu events does to the choices of Quit and to the loop. -/
theorem drainMenuEvents_quits (accepted : Bool) (events : List MenuId) (tray : Tray)
    (threadId : tray.hasThreadId = true) :
    (drainMenuEvents accepted events tray).menuEvents.count .quit +
        (drainMenuEvents accepted events tray).forcedExits.length =
      events.count .quit + tray.forcedExits.length ∧
    (drainMenuEvents accepted events tray).loop = tray.loop ∧
    (.quit ∈ (drainMenuEvents accepted events tray).queue →
      .quit ∈ tray.queue ∨ (drainMenuEvents accepted events tray).forcedExits ≠ []) ∧
    (tray.forcedExits ≠ [] → (drainMenuEvents accepted events tray).forcedExits ≠ []) := by
  induction events generalizing tray with
  | nil => exact ⟨rfl, rfl, .inl, id⟩
  | cons event events inductionHypothesis =>
      have continued : event ≠ .quit → List.count .quit (event :: events) = events.count .quit :=
        fun notQuit => List.count_cons_of_ne notQuit
      cases event with
      | quit =>
          have handled : drainMenuEvents accepted (.quit :: events) tray =
              { tray.post accepted .quit with
                forcedExits := (tray.post accepted .quit).forcedExits ++
                  [(tray.post accepted .quit).now + forceExitTimeout]
                menuEvents := events } := by
            simp [drainMenuEvents, handleMenuEvent, threadId]
          have posted : (tray.post accepted .quit).forcedExits = tray.forcedExits ∧
              (tray.post accepted .quit).loop = tray.loop := by
            unfold post
            split <;> exact ⟨rfl, rfl⟩
          rw [handled]
          refine ⟨?_, posted.2, fun _ => .inr (by simp), fun _ => by simp⟩
          simp only [posted.1, List.length_append, List.length_singleton, List.count_cons_self]
          omega
      | stats =>
          rw [continued (by decide)]
          exact inductionHypothesis { tray with statsDialog := tray.statsDialog.request } threadId
      | traffic => rw [continued (by decide)]; exact inductionHypothesis tray threadId
      | openDir => rw [continued (by decide)]; exact inductionHypothesis tray threadId
      | autostart => rw [continued (by decide)]; exact inductionHypothesis tray threadId

structure Quitting (history : List TrayEvent) (tray : Tray) : Prop where
  threadId : tray.loop ≠ .notStarted → tray.hasThreadId = true
  conserved : tray.quits = history.countP quitChosen
  posted : .quit ∈ tray.queue → tray.forcedExits ≠ []
  exited : tray.loop = .exited → tray.forcedExits ≠ [] ∨ .getWmQuit ∈ history

theorem quitting_start : Quitting [] start where
  threadId started := absurd rfl started
  conserved := rfl
  posted mem := absurd mem List.not_mem_nil
  exited isExited := by cases isExited

/-- What a step leaves that has nothing to do with Quit. -/
structure KeepsQuits (tray next : Tray) : Prop where
  quits : next.quits = tray.quits
  forcedExits : next.forcedExits = tray.forcedExits
  loop : next.loop = tray.loop
  threadId : next.hasThreadId = tray.hasThreadId
  queue : .quit ∈ next.queue → .quit ∈ tray.queue

theorem Quitting.keeps {history : List TrayEvent} (quitting : Quitting history tray)
    {event : TrayEvent} (notQuit : quitChosen event = false) (keeps : KeepsQuits tray next) :
    Quitting (history ++ [event]) next where
  threadId started := keeps.threadId.trans (quitting.threadId (keeps.loop ▸ started))
  conserved := by simp [keeps.quits, quitting.conserved, notQuit]
  posted mem := keeps.forcedExits ▸ quitting.posted (keeps.queue mem)
  exited isExited :=
    (quitting.exited (keeps.loop ▸ isExited)).imp (fun armed => keeps.forcedExits ▸ armed)
      (List.mem_append_left _)

theorem keepsQuits_append {message : Message} (notQuit : message ≠ .quit)
    (notChoice : message ≠ .window (some .quit)) :
    KeepsQuits tray { tray with queue := tray.queue ++ [message] } where
  quits := by simp [quits, List.count_append, notChoice]
  forcedExits := rfl
  loop := rfl
  threadId := rfl
  queue mem := by
    rcases List.mem_append.mp mem with mem | mem
    · exact mem
    · exact absurd (List.mem_singleton.mp mem).symm notQuit

theorem keepsQuits_post {message : Message} (notQuit : message ≠ .quit)
    (notChoice : message ≠ .window (some .quit)) :
    KeepsQuits tray (tray.post accepted message) := by
  unfold post
  split
  · exact keepsQuits_append notQuit notChoice
  · exact ⟨rfl, rfl, rfl, rfl, id⟩

theorem keepsQuits_checkActivity : KeepsQuits tray (tray.checkActivity accepted) := by
  have posted : ∀ (swapped : Tray) (active : Bool), KeepsQuits tray swapped →
      KeepsQuits tray (swapped.post accepted (.iconUpdate active)) := by
    intro swapped active same
    have keeps : KeepsQuits swapped (swapped.post accepted (.iconUpdate active)) :=
      keepsQuits_post nofun nofun
    exact ⟨keeps.quits.trans same.quits, keeps.forcedExits.trans same.forcedExits,
      keeps.loop.trans same.loop, keeps.threadId.trans same.threadId,
      fun mem => same.queue (keeps.queue mem)⟩
  simp only [checkActivity]
  split
  · split
    · exact ⟨rfl, rfl, rfl, rfl, id⟩
    · exact posted _ _ ⟨rfl, rfl, rfl, rfl, id⟩
  · split
    · exact posted _ _ ⟨rfl, rfl, rfl, rfl, id⟩
    · exact ⟨rfl, rfl, rfl, rfl, id⟩

theorem handleMessage_quits (tray : Tray) (iconSet : Bool) (message : Message) :
    (tray.handleMessage iconSet message).quits =
        tray.quits + [message].count (.window (some .quit)) ∧
      (tray.handleMessage iconSet message).forcedExits = tray.forcedExits ∧
      (tray.handleMessage iconSet message).hasThreadId = tray.hasThreadId ∧
      ((tray.handleMessage iconSet message).loop = .exited →
        message = .quit ∨ tray.loop = .exited) := by
  cases message with
  | iconUpdate active => cases iconSet <;> exact ⟨rfl, rfl, rfl, .inr⟩
  | quit => exact ⟨rfl, rfl, rfl, fun _ => .inl rfl⟩
  | hover => exact ⟨rfl, rfl, rfl, .inr⟩
  | window chosen =>
      cases chosen with
      | none => exact ⟨rfl, rfl, rfl, .inr⟩
      | some item =>
          refine ⟨?_, rfl, rfl, .inr⟩
          simp only [handleMessage, quits, List.count_append]
          cases item with
          | quit => simp; omega
          | stats => simp
          | traffic => simp
          | openDir => simp
          | autostart => simp

theorem Quitting.handle {history : List TrayEvent} (quitting : Quitting history tray)
    {message : Message} {queue : List Message} {iconSet : Bool} (running : tray.loop = .running)
    (isQueue : tray.queue = message :: queue) :
    Quitting (history ++ [.getMessage accepted iconSet])
      ((drainMenuEvents accepted tray.menuEvents { tray with queue := queue }).handleMessage
        iconSet message) := by
  have threadId : tray.hasThreadId = true := quitting.threadId (by rw [running]; decide)
  obtain ⟨count, loop, posted, armed⟩ := drainMenuEvents_quits accepted
    tray.menuEvents { tray with queue := queue } threadId
  have handles := handles_drainMenuEvents accepted tray.menuEvents { tray with queue := queue }
  generalize drainMenuEvents accepted tray.menuEvents { tray with queue := queue } = drained at *
  obtain ⟨quitsAfter, forcedExits, threadIdAfter, exits⟩ :=
    handleMessage_quits drained iconSet message
  have inQueue : ∀ other ∈ message :: queue, other = .quit → drained.forcedExits ≠ [] := by
    rintro other mem rfl
    exact armed (quitting.posted (isQueue ▸ mem))
  refine ⟨fun _ => threadIdAfter.trans (handles.hasThreadId.trans threadId), ?_, ?_, ?_⟩
  · obtain ⟨more, queueAfter⟩ := handles.queue
    have waiting : drained.queue.count (.window (some .quit)) =
        queue.count (.window (some .quit)) := by
      rw [queueAfter, List.count_append, List.count_replicate]
      simp
    have conserved := quitting.conserved
    rw [quitsAfter, List.countP_append, ← conserved]
    simp only [quits, isQueue, waiting, List.countP_singleton, quitChosen, List.count_cons] at *
    simp at count ⊢
    omega
  · intro mem
    rw [(handleMessage_shows drained iconSet message).2] at mem
    rw [forcedExits]
    exact (posted mem).elim (fun mem => inQueue .quit (List.mem_cons_of_mem message mem) rfl) id
  · intro exited
    rw [forcedExits]
    rcases exits exited with isQuit | before
    · exact .inl (inQueue message List.mem_cons_self isQuit)
    · exact absurd (loop.symm.trans before) (by rw [running]; decide)

theorem Quitting.step {history : List TrayEvent} {event : TrayEvent}
    (quitting : Quitting history tray) (stepped : step tray event = some next) :
    Quitting (history ++ [event]) next := by
  cases event with
  | elapse duration => cases stepped; exact quitting.keeps rfl ⟨rfl, rfl, rfl, rfl, id⟩
  | traffic => cases stepped; exact quitting.keeps rfl ⟨rfl, rfl, rfl, rfl, id⟩
  | checkActivity accepted => cases stepped; exact quitting.keeps rfl keepsQuits_checkActivity
  | hover accepted => cases stepped; exact quitting.keeps rfl (keepsQuits_post nofun nofun)
  | runMessageLoop =>
      simp only [Tray.step] at stepped
      split at stepped
      next notStarted =>
        cases stepped
        refine ⟨fun _ => rfl, ?_, quitting.posted, nofun⟩
        rw [List.countP_append]
        exact quitting.conserved
      next => cases stepped
  | windowMessage chosen =>
      cases stepped
      by_cases isQuit : chosen = some .quit
      · subst isQuit
        refine ⟨quitting.threadId, ?_, fun mem => quitting.posted ?_,
          fun exited => (quitting.exited exited).imp_right (List.mem_append_left _)⟩
        · have conserved := quitting.conserved
          simp only [quits, List.countP_append, List.countP_singleton, quitChosen, ← conserved,
            List.count_append, List.count_singleton_self, ite_true]
          omega
        · simpa using mem
      · have notQuit : quitChosen (.windowMessage chosen) = false := by
          cases chosen with
          | none => rfl
          | some item => cases item <;> first | rfl | exact absurd rfl isQuit
        exact quitting.keeps notQuit (keepsQuits_append nofun (by simpa using isQuit))
  | getMessage accepted iconSet =>
      simp only [Tray.step] at stepped
      split at stepped
      next message queue running isQueue => cases stepped; exact quitting.handle running isQueue
      next => cases stepped
  | getWmQuit =>
      simp only [Tray.step] at stepped
      split at stepped
      next running =>
        cases stepped
        refine ⟨fun _ => quitting.threadId (by rw [running]; decide), ?_, quitting.posted,
          fun _ => .inr (List.mem_append_right _ (List.mem_singleton_self _))⟩
        rw [List.countP_append]
        exact quitting.conserved
      next => cases stepped
  | loseMessage =>
      simp only [Tray.step] at stepped
      split at stepped
      next message queue running isQueue =>
        split at stepped
        next isThread =>
          cases stepped
          refine quitting.keeps rfl ⟨?_, rfl, rfl, rfl, fun mem => ?_⟩
          · have notChoice : message ≠ .window (some .quit) := by
              rintro rfl
              cases isThread
            simp only [quits, isQueue, List.count_cons_of_ne notChoice]
          · exact isQueue ▸ List.mem_cons_of_mem message mem
        next => cases stepped
      next => cases stepped
  | configError => cases stepped; exact quitting.keeps rfl ⟨rfl, rfl, rfl, rfl, id⟩
  | closeErrorDialog =>
      obtain ⟨_, _, rfl⟩ := Option.map_eq_some_iff.mp stepped
      exact quitting.keeps rfl ⟨rfl, rfl, rfl, rfl, id⟩
  | closeStatsDialog =>
      obtain ⟨_, _, rfl⟩ := Option.map_eq_some_iff.mp stepped
      exact quitting.keeps rfl ⟨rfl, rfl, rfl, rfl, id⟩

/-- No choice of Quit is lost: each waits to be handled, or has a thread that
forces the exit. The loop ends only after one has been handled, or on `WM_QUIT`. -/
theorem quits_conserved {events : List TrayEvent} {last : Tray}
    (reached : Machine.run Tray.step start events = some last) :
    last.quits = events.countP quitChosen ∧
      (last.loop = .exited → last.forcedExits ≠ [] ∨ .getWmQuit ∈ events) := by
  have quitting := Machine.run_history Quitting quitting_start
    (fun _ _ _ _ quitting stepped => quitting.step stepped) reached
  exact ⟨quitting.conserved, quitting.exited⟩

/-- Quit is chosen in the menu; the loop handles it with the next message. -/
def quitRun : List TrayEvent :=
  [.runMessageLoop, .windowMessage (some .quit), .getMessage true true, .hover true,
    .getMessage true true, .getMessage true true]

theorem quits_conserved_quitRun :
    ∃ last, Machine.run Tray.step start quitRun = some last ∧ last.loop = .exited ∧
      last.quits = quitRun.countP quitChosen ∧
      (last.loop = .exited → last.forcedExits ≠ [] ∨ .getWmQuit ∈ quitRun) :=
  ⟨_, rfl, rfl, quits_conserved (show Machine.run Tray.step start quitRun = some _ from rfl)⟩

end Quit

end Tray

end SimpleForwarder
