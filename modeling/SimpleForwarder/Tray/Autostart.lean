import SimpleForwarder.Lib.LetterCase
import SimpleForwarder.Lib.Utf16
import SimpleForwarder.Lib.Machine

/-!
Contract: the item "Run at Startup" of the tray menu (`tray.rs`).

Owns: the value in the registry, how it is written, deleted and compared with
the path of the program, the check mark of the menu item, and their agreement
over whole runs.

A status that is not zero is the failure of a call of the registry. Letters are
compared after `to_lowercase`, which is a parameter.

Does not own: the other items of the menu.
-/

namespace SimpleForwarder

open RustText IpText

/-- In wide characters. -/
def registryBufferSize : Nat := 1024

def regSz : Nat := 1

def errorSuccess : Nat := 0

def errorFileNotFound : Nat := 2

def errorMoreData : Nat := 234

/-- A value of the `Run` key. -/
structure RegValue where
  valueType : Nat
  data : Bytes
deriving DecidableEq

/-! ## The calls -/

/-- `longName` is what `GetLongPathNameW` finds, empty if it fails; the call writes
it just if it fits in the buffer with its zero. -/
def getQuotedExePath (currentExe : Option Text) (longName : Wide) : Option Text :=
  currentExe.map fun path =>
    let finalPath :=
      if 0 < longName.length ∧ longName.length < registryBufferSize then fromUtf16Lossy longName
      else path
    ['"'] ++ finalPath ++ ['"']

/-- `RegQueryValueExW` on the buffer, which was zero: the status, and with success
the type, the buffer and the length in bytes. -/
def regQueryValue (value : Option RegValue) (status : Nat) : Nat × Nat × Wide × Nat :=
  let zeros := fun count => List.replicate count (0 : UInt8)
  if status ≠ errorSuccess then (status, 0, readUnits (zeros (2 * registryBufferSize)), 0)
  else
    match value with
    | none => (errorFileNotFound, 0, readUnits (zeros (2 * registryBufferSize)), 0)
    | some value =>
        if 2 * registryBufferSize < value.data.length then
          (errorMoreData, value.valueType, readUnits (zeros (2 * registryBufferSize)),
            value.data.length)
        else
          (errorSuccess, value.valueType,
            readUnits (value.data ++ zeros (2 * registryBufferSize - value.data.length)),
            value.data.length)

def checkAutostartStatus (toLowercase : Text → Text) (value : Option RegValue)
    (openStatus queryStatus : Nat) (expectedPath : Text) : Bool :=
  if openStatus ≠ errorSuccess then false
  else
    let (res, dwType, buffer, len) := regQueryValue value queryStatus
    if res = errorSuccess ∧ dwType = regSz then
      let actualPath := fromUtf16Lossy (buffer.take (len / 2 - 1))
      toLowercase actualPath = toLowercase expectedPath
    else false

/-- The value after the call, with the error if it failed. -/
def setAutostart (value : Option RegValue) (openStatus status : Nat) (path : Text)
    (enabled : Bool) : Except Text Unit × Option RegValue :=
  if openStatus ≠ errorSuccess then
    (.error ("Failed to open registry key: error code ".toList ++ decimal openStatus), value)
  else
    let failed := fun status : Nat =>
      Except.error ("Registry operation failed: error code ".toList ++ decimal status)
    if status ≠ errorSuccess then (failed status, value)
    else if enabled then
      let pathWide := encodeUtf16 path ++ [0]
      (.ok (), some ⟨regSz, wideBytes pathWide⟩)
    else
      match value with
      | some _ => (.ok (), none)
      | none => (failed errorFileNotFound, none)

/-! ## Writing and reading -/

/-- The value that `set_autostart` writes. -/
def startupValue (path : Text) : RegValue := ⟨regSz, wideBytes (encodeUtf16 path ++ [0])⟩

/-- The path fits in the buffer with its final zero. -/
def FitsRegistryBuffer (path : Text) : Prop := (encodeUtf16 path).length + 1 ≤ registryBufferSize

instance (path : Text) : Decidable (FitsRegistryBuffer path) :=
  inferInstanceAs (Decidable (_ ≤ _))

theorem length_startupValue (path : Text) :
    (startupValue path).data.length = 2 * ((encodeUtf16 path).length + 1) := by
  rw [startupValue, length_wideBytes, List.length_append, List.length_singleton]

/-- A written path that fits is compared as it is. -/
theorem checkAutostartStatus_of_fits (toLowercase : Text → Text) {path : Text}
    (fits : FitsRegistryBuffer path) (expected : Text) :
    checkAutostartStatus toLowercase (some (startupValue path)) 0 0 expected =
      decide (toLowercase path = toLowercase expected) := by
  have notMore : ¬2 * registryBufferSize < (startupValue path).data.length := by
    rw [length_startupValue]
    exact Nat.not_lt_of_le (Nat.mul_le_mul_left 2 fits)
  have taken : (startupValue path).data.length / 2 - 1 = (encodeUtf16 path).length := by
    rw [length_startupValue]
    omega
  unfold checkAutostartStatus regQueryValue
  simp only [errorSuccess, ne_eq, not_true, ite_false, if_neg notMore, taken]
  simp only [startupValue, readUnits_wideBytes_append, List.append_assoc, true_and, ite_true]
  rw [List.take_left, fromUtf16Lossy_encodeUtf16]

/-- A path that is written is recognised just if it fits, whatever its characters
are; and then as the same path up to the case of letters. -/
theorem checkAutostartStatus_startupValue (toLowercase : Text → Text) (path expected : Text) :
    checkAutostartStatus toLowercase (some (startupValue path)) 0 0 expected = true ↔
      FitsRegistryBuffer path ∧ toLowercase path = toLowercase expected := by
  by_cases fits : FitsRegistryBuffer path
  · rw [checkAutostartStatus_of_fits toLowercase fits, decide_eq_true_iff]
    exact (and_iff_right fits).symm
  · have more : 2 * registryBufferSize < (startupValue path).data.length := by
      rw [length_startupValue]
      exact Nat.mul_lt_mul_of_pos_left (Nat.lt_of_not_le fits) Nat.two_pos
    unfold checkAutostartStatus regQueryValue
    simp only [errorSuccess, ne_eq, not_true, ite_false, if_pos more]
    simp [fits, errorMoreData]

section Status

variable {toLowercase : Text → Text} {path : Text}

theorem checkAutostartStatus_congr {other : Text} (same : toLowercase path = toLowercase other)
    (value : Option RegValue) (openStatus queryStatus : Nat) :
    checkAutostartStatus toLowercase value openStatus queryStatus path =
      checkAutostartStatus toLowercase value openStatus queryStatus other := by
  simp only [checkAutostartStatus, same]

@[simp] theorem checkAutostartStatus_none :
    checkAutostartStatus toLowercase none 0 0 path = false := rfl

/-- A call that fails leaves the registry as it was; one that succeeds leaves the
written value, or none. -/
theorem setAutostart_cases (value : Option RegValue) (openStatus status : Nat) (path : Text)
    (enabled : Bool) :
    (∃ message, setAutostart value openStatus status path enabled = (.error message, value)) ∨
      (value = none ∧ enabled = false ∧
        ∃ message, setAutostart value openStatus status path enabled = (.error message, none)) ∨
      setAutostart value openStatus status path enabled =
        (.ok (), if enabled then some (startupValue path) else none) := by
  unfold setAutostart
  split
  · exact .inl ⟨_, rfl⟩
  · dsimp only
    split
    · exact .inl ⟨_, rfl⟩
    · cases enabled with
      | true => exact .inr (.inr rfl)
      | false =>
          cases value with
          | none => exact .inr (.inl ⟨rfl, rfl, _, rfl⟩)
          | some value => exact .inr (.inr rfl)

end Status

/-! ## The menu item -/

structure AutostartItem where
  registry : Option RegValue
  isChecked : Bool
  /-- The item was clicked, and the loop has not handled the event. -/
  clicked : Bool
deriving DecidableEq

inductive AutostartEvent where
  /-- The program starts, and makes the menu. -/
  | start (currentExe : Option Text) (longName : Wide) (openStatus queryStatus : Nat)
  /-- The menu flips the check mark itself. -/
  | click
  | handleMenuEvent (currentExe : Option Text) (longName : Wide) (openStatus status : Nat)
  /-- Another program writes or deletes the value. -/
  | edit (value : Option RegValue)
deriving DecidableEq

namespace AutostartItem

variable (toLowercase : Text → Text)

/-- The item of a new menu. -/
def create (registry : Option RegValue) (currentExe : Option Text) (longName : Wide)
    (openStatus queryStatus : Nat) : AutostartItem where
  registry := registry
  isChecked :=
    match getQuotedExePath currentExe longName with
    | some path => checkAutostartStatus toLowercase registry openStatus queryStatus path
    | none => false
  clicked := false

/-- The branch of `handle_menu_event` for this item. -/
def handleMenuEvent (item : AutostartItem) (currentExe : Option Text) (longName : Wide)
    (openStatus status : Nat) : AutostartItem :=
  match getQuotedExePath currentExe longName with
  | some path =>
      match setAutostart item.registry openStatus status path item.isChecked with
      | (.error _, registry) => ⟨registry, !item.isChecked, false⟩
      | (.ok _, registry) => ⟨registry, item.isChecked, false⟩
  | none => { item with clicked := false }

/-- Every event of the menu is handled before the next message of the loop, so
there is no second click before that. -/
def step (item : AutostartItem) : AutostartEvent → Option AutostartItem
  | .start currentExe longName openStatus queryStatus =>
      some (create toLowercase item.registry currentExe longName openStatus queryStatus)
  | .click =>
      if item.clicked then none
      else some { item with isChecked := !item.isChecked, clicked := true }
  | .handleMenuEvent currentExe longName openStatus status =>
      if item.clicked then some (item.handleMenuEvent currentExe longName openStatus status)
      else none
  | .edit value => some { item with registry := value }

/-- The registry has the program at `path` run at startup. -/
def runsAtStartup (item : AutostartItem) (path : Text) : Bool :=
  checkAutostartStatus toLowercase item.registry 0 0 path

/-- The program finds its path, which is `path` up to case; the registry is read at
the start; and no other program changes what is run at startup. Writing may fail. -/
def Meets (path : Text) (item : AutostartItem) : AutostartEvent → Prop
  | .start currentExe longName openStatus queryStatus =>
      (∃ found ∈ getQuotedExePath currentExe longName, toLowercase found = toLowercase path) ∧
        openStatus = errorSuccess ∧ queryStatus = errorSuccess
  | .click => True
  | .handleMenuEvent currentExe longName _ _ =>
      ∃ found ∈ getQuotedExePath currentExe longName,
        toLowercase found = toLowercase path ∧ FitsRegistryBuffer found
  | .edit value =>
      checkAutostartStatus toLowercase value 0 0 path = item.runsAtStartup toLowercase path

/-- The check mark is right, but for a click that is not handled. -/
def InSync (path : Text) (item : AutostartItem) : Prop :=
  item.isChecked = (item.runsAtStartup toLowercase path ^^ item.clicked)

variable {toLowercase} {path : Text} {item next : AutostartItem}

theorem create_inSync {currentExe : Option Text} {longName : Wide}
    (found : ∃ found ∈ getQuotedExePath currentExe longName,
      toLowercase found = toLowercase path) (registry : Option RegValue) :
    InSync toLowercase path (create toLowercase registry currentExe longName 0 0) := by
  obtain ⟨found, finds, same⟩ := found
  unfold InSync create runsAtStartup
  rw [Option.mem_def.mp finds, Bool.xor_false]
  exact checkAutostartStatus_congr same registry 0 0

theorem handleMenuEvent_inSync {currentExe : Option Text} {longName : Wide} {found : Text}
    (finds : found ∈ getQuotedExePath currentExe longName)
    (same : toLowercase found = toLowercase path) (fits : FitsRegistryBuffer found)
    (clicked : item.clicked = true) (inSync : InSync toLowercase path item)
    (openStatus status : Nat) :
    InSync toLowercase path (item.handleMenuEvent currentExe longName openStatus status) := by
  have flipped : item.isChecked = !item.runsAtStartup toLowercase path := by
    rw [inSync, clicked, Bool.xor_true]
  unfold handleMenuEvent
  rw [Option.mem_def.mp finds]
  dsimp only
  obtain ⟨message, sets⟩ | ⟨absent, off, -⟩ | sets :=
    setAutostart_cases item.registry openStatus status found item.isChecked
  · -- the registry is as it was before the click, and so is the mark
    rw [sets]
    simp [InSync, runsAtStartup, flipped]
  · -- nothing is deleted: the item was on, so a value was there
    rw [off, runsAtStartup, absent, checkAutostartStatus_none] at flipped
    exact absurd flipped (by decide)
  · rw [sets]
    simp only [InSync, runsAtStartup, Bool.xor_false]
    cases item.isChecked with
    | true =>
        have recognised := checkAutostartStatus_of_fits toLowercase fits path
        rw [decide_eq_true same] at recognised
        exact recognised.symm
    | false => rfl

theorem step_inSync {event : AutostartEvent} (meets : Meets toLowercase path item event)
    (inSync : InSync toLowercase path item) (stepped : step toLowercase item event = some next) :
    InSync toLowercase path next := by
  cases event with
  | start currentExe longName openStatus queryStatus =>
      cases stepped
      obtain ⟨found, rfl, rfl⟩ := meets
      exact create_inSync found item.registry
  | click =>
      simp only [step] at stepped
      split at stepped
      · cases stepped
      next notClicked =>
        cases stepped
        rw [Bool.not_eq_true] at notClicked
        rw [InSync, notClicked, Bool.xor_false] at inSync
        show (!item.isChecked) = (item.runsAtStartup toLowercase path ^^ true)
        rw [inSync, Bool.xor_true]
  | handleMenuEvent currentExe longName openStatus status =>
      simp only [step] at stepped
      split at stepped
      next clicked =>
        cases stepped
        obtain ⟨found, finds, same, fits⟩ := meets
        exact handleMenuEvent_inSync finds same fits clicked inSync openStatus status
      · cases stepped
  | edit value =>
      cases stepped
      rw [InSync] at inSync ⊢
      rw [inSync]
      exact congrArg (· ^^ item.clicked) (Eq.symm meets)

/-- After any run the menu shows whether the program runs at startup. -/
theorem isChecked_eq {first last : AutostartItem} {currentExe : Option Text} {longName : Wide}
    {events : List AutostartEvent}
    (meets : Machine.Along (step toLowercase) (Meets toLowercase path) first
      (.start currentExe longName 0 0 :: events))
    (reached : Machine.run (step toLowercase) first (.start currentExe longName 0 0 :: events) =
      some last) :
    last.isChecked = (last.runsAtStartup toLowercase path ^^ last.clicked) := by
  obtain ⟨created, stepped, reached⟩ := Option.bind_eq_some_iff.mp reached
  have started := create_inSync meets.1.1 first.registry
  have later := meets.2 created stepped
  cases stepped
  exact Machine.run_invariant_along (InSync toLowercase path) started
    (fun _ _ _ inSync meets stepped => step_inSync meets inSync stepped) later reached

/-- A first click whose write is denied, and a second one. -/
def deniedOnce : List AutostartEvent :=
  let currentExe := some "C:\\Sf.exe".toList
  [.click, .handleMenuEvent currentExe [] 0 5, .click, .handleMenuEvent currentExe [] 0 0,
    .start (some "c:\\sf.EXE".toList) [] 0 0]

def registered : AutostartItem := ⟨some (startupValue "\"C:\\Sf.exe\"".toList), true, false⟩

theorem isChecked_eq_deniedOnce :
    Machine.run (step foldCase) ⟨none, false, false⟩
        (.start (some "C:\\Sf.exe".toList) [] 0 0 :: deniedOnce) = some registered ∧
      registered.isChecked =
        (registered.runsAtStartup foldCase "\"c:\\sf.exe\"".toList ^^ registered.clicked) := by
  have reached : Machine.run (step foldCase) ⟨none, false, false⟩
      (.start (some "C:\\Sf.exe".toList) [] 0 0 :: deniedOnce) = some registered := by
    decide +kernel
  have here : "\"C:\\Sf.exe\"".toList ∈ getQuotedExePath (some "C:\\Sf.exe".toList) [] := rfl
  have again : "\"c:\\sf.EXE\"".toList ∈ getQuotedExePath (some "c:\\sf.EXE".toList) [] := rfl
  have same : foldCase "\"C:\\Sf.exe\"".toList = foldCase "\"c:\\sf.exe\"".toList := by decide
  have sameAgain : foldCase "\"c:\\sf.EXE\"".toList = foldCase "\"c:\\sf.exe\"".toList := by
    decide
  have fits : FitsRegistryBuffer "\"C:\\Sf.exe\"".toList := by decide
  have meets : ∀ event ∈ .start (some "C:\\Sf.exe".toList) [] 0 0 :: deniedOnce,
      ∀ item, Meets foldCase "\"c:\\sf.exe\"".toList item event := by
    simp only [deniedOnce, List.forall_mem_cons]
    refine ⟨fun _ => ⟨⟨_, here, same⟩, rfl, rfl⟩, fun _ => trivial,
      fun _ => ⟨_, here, same, fits⟩, fun _ => trivial, fun _ => ⟨_, here, same, fits⟩,
      fun _ => ⟨⟨_, again, sameAgain⟩, rfl, rfl⟩, ?_⟩
    simp
  exact ⟨reached, isChecked_eq (Machine.along_of_forall meets _) reached⟩

end AutostartItem

end SimpleForwarder
