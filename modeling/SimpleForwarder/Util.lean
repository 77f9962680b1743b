import Mathlib.Order.Bounds.Defs
import SimpleForwarder.Lib.Text

/-!
Contract: the end of an HTTP head in a byte buffer (`util.rs`).

Owns: `findHeaderSeparator`, the meaning of "the head ends here", and the
agreement of the two: the search finds the first place where a separator ends,
from any hint before which none ends. Every index expression of the loop is in
range (`findHeaderSeparatorChecked_eq`).

Does not own: who reads the bytes and which lengths are accepted.
-/

namespace SimpleForwarder

open RustText

/-- One step of the scan: the end of the separator that starts at `i`. -/
def separatorAt (buf : Bytes) (i : Nat) : Option Nat :=
  if buf[i]? = some lf then
    if buf[i + 1]? = some lf then some (i + 2)
    else if i + 2 < buf.length ∧ buf[i + 1]? = some cr ∧ buf[i + 2]? = some lf then some (i + 3)
    else none
  else none

/-- `find_header_separator`: the loop runs over `start..buf.len() - 1`. -/
def findHeaderSeparator (buf : Bytes) (startPos : Nat) : Option Nat :=
  if buf.length < 2 then none
  else
    let start := startPos - 3
    (List.range' start (buf.length - 1 - start)).findSome? (separatorAt buf)

/-! ## The same search with the panics of its index expressions -/

/-- `usize` subtraction; `none` is the panic of an underflow. -/
def checkedSub (left right : Nat) : Option Nat := if right ≤ left then some (left - right) else none

/-- The loop's body. A read past the end of the slice is the panic `none`;
`&&` evaluates no operand after one that is false. -/
def separatorAtChecked (buf : Bytes) (i : Nat) : Option (Option Nat) := do
  let first ← buf[i]?
  if first = lf then
    let second ← buf[i + 1]?
    if second = lf then
      return some (i + 2)
    if i + 2 < buf.length then
      let second ← buf[i + 1]?
      if second = cr then
        let third ← buf[i + 2]?
        if third = lf then
          return some (i + 3)
  return none

/-- `find_header_separator` as it is evaluated: `none` stands for a panic. -/
def findHeaderSeparatorChecked (buf : Bytes) (startPos : Nat) : Option (Option Nat) := do
  if buf.length < 2 then
    return none
  let start := startPos - 3
  let stop ← checkedSub buf.length 1
  (List.range' start (stop - start)).findSomeM? (separatorAtChecked buf)

/-- At a position with a byte after it the loop's body does not panic. -/
theorem separatorAtChecked_eq {buf : Bytes} {i : Nat} (inside : i + 1 < buf.length) :
    separatorAtChecked buf i = some (separatorAt buf i) := by
  have read : ∀ {k : Nat}, k < buf.length → ∃ byte, buf[k]? = some byte := fun inRange =>
    ⟨_, List.getElem?_eq_getElem inRange⟩
  obtain ⟨first, firstRead⟩ := read (Nat.lt_of_succ_lt inside)
  obtain ⟨second, secondRead⟩ := read inside
  unfold separatorAtChecked separatorAt
  rw [firstRead, secondRead]
  simp only [Option.bind_eq_bind, Option.bind_some, Option.pure_def, Option.some.injEq]
  by_cases firstFeed : first = lf
  · rw [if_pos firstFeed, if_pos firstFeed]
    by_cases secondFeed : second = lf
    · rw [if_pos secondFeed, if_pos secondFeed]
    · rw [if_neg secondFeed, if_neg secondFeed]
      by_cases room : i + 2 < buf.length
      · obtain ⟨third, thirdRead⟩ := read room
        rw [if_pos room, thirdRead]
        by_cases carriageReturn : second = cr
        · by_cases thirdFeed : third = lf
          · simp [carriageReturn, thirdFeed, room]
          · simp [carriageReturn, thirdFeed]
        · simp [carriageReturn]
      · rw [if_neg room, if_neg fun guard => room guard.1]
  · rw [if_neg firstFeed, if_neg firstFeed]

/-- A checked scan none of whose steps panics is the scan itself. -/
theorem findSomeM?_of_steps {α β : Type} {checked : α → Option (Option β)} {scan : α → Option β}
    (positions : List α) (steps : ∀ i ∈ positions, checked i = some (scan i)) :
    positions.findSomeM? checked = some (positions.findSome? scan) := by
  induction positions with
  | nil => rfl
  | cons position rest inductionHypothesis =>
      have here := steps position List.mem_cons_self
      have later := inductionHypothesis fun i member => steps i (List.mem_cons_of_mem _ member)
      rw [List.findSomeM?_cons, List.findSome?_cons, here]
      cases scan position with
      | none => exact later
      | some value => rfl

/-- No index expression is out of range and no subtraction underflows, for
every buffer and every hint. -/
theorem findHeaderSeparatorChecked_eq (buf : Bytes) (startPos : Nat) :
    findHeaderSeparatorChecked buf startPos = some (findHeaderSeparator buf startPos) := by
  unfold findHeaderSeparatorChecked findHeaderSeparator
  by_cases short : buf.length < 2
  · rw [if_pos short, if_pos short]
    rfl
  · have sub : checkedSub buf.length 1 = some (buf.length - 1) := if_pos (by omega)
    rw [if_neg short, if_neg short, sub]
    apply findSomeM?_of_steps
    intro i member
    apply separatorAtChecked_eq
    have bounds := List.mem_range'_1.mp member
    omega

/-! ## What the search looks for -/

/-- The bytes end with `\n\n` or `\n\r\n`. -/
def EndsWithSeparator (bytes : Bytes) : Prop := [lf, lf] <:+ bytes ∨ [lf, cr, lf] <:+ bytes

instance (bytes : Bytes) : Decidable (EndsWithSeparator bytes) :=
  inferInstanceAs (Decidable (_ ∨ _))

/-- The head of the stream is its first `size` bytes: a separator ends there
and none ends before. -/
structure IsHeadEnd (stream : Bytes) (size : Nat) : Prop where
  inside : size ≤ stream.length
  ends : EndsWithSeparator (stream.take size)
  first : ∀ earlier < size, ¬ EndsWithSeparator (stream.take earlier)

theorem IsHeadEnd.unique {stream : Bytes} {left right : Nat} (leftEnd : IsHeadEnd stream left)
    (rightEnd : IsHeadEnd stream right) : left = right := by
  rcases Nat.lt_trichotomy left right with before | same | after
  · exact absurd leftEnd.ends (rightEnd.first left before)
  · exact same
  · exact absurd rightEnd.ends (leftEnd.first right after)

/-- Where a head ends does not depend on what follows it. -/
theorem IsHeadEnd.append {stream : Bytes} {size : Nat} (headEnd : IsHeadEnd stream size)
    (more : Bytes) : IsHeadEnd (stream ++ more) size where
  inside := by
    rw [List.length_append]
    exact Nat.le_trans headEnd.inside (Nat.le_add_right _ _)
  ends := by
    rw [List.take_append_of_le_length headEnd.inside]
    exact headEnd.ends
  first := by
    intro earlier before
    rw [List.take_append_of_le_length (by have inside := headEnd.inside; omega)]
    exact headEnd.first earlier before

/-! ## The search finds the end of the head -/

theorem suffix_take_iff {buf word : Bytes} {size : Nat} (inside : size ≤ buf.length) :
    word <:+ buf.take size ↔
      word.length ≤ size ∧
        ∀ k (h : k < word.length), buf[size - word.length + k]? = some word[k] := by
  have length : (buf.take size).length = size := by
    rw [List.length_take, Nat.min_eq_left inside]
  rw [List.suffix_iff_getElem?, length]
  constructor
  · rintro ⟨short, matches'⟩
    refine ⟨short, fun k below => ?_⟩
    have here := matches' k below
    rwa [List.getElem?_take_of_lt (by omega),
      show k + size - word.length = size - word.length + k by omega] at here
  · rintro ⟨short, matches'⟩
    refine ⟨short, fun k below => ?_⟩
    have here := matches' k below
    rwa [List.getElem?_take_of_lt (by omega),
      show k + size - word.length = size - word.length + k by omega]

/-- A separator ends at `size` exactly when the scan hits its start. -/
theorem endsWithSeparator_take_iff {buf : Bytes} {size : Nat} (inside : size ≤ buf.length) :
    EndsWithSeparator (buf.take size) ↔
      ∃ i, i + 2 ≤ size ∧ size ≤ i + 3 ∧ separatorAt buf i = some size := by
  unfold EndsWithSeparator
  rw [suffix_take_iff inside, suffix_take_iff inside]
  constructor
  · rintro (⟨short, bytes⟩ | ⟨short, bytes⟩)
    · have first := bytes 0 (by decide)
      have second := bytes 1 (by decide)
      simp only [List.length_cons, List.length_nil, Nat.zero_add, Nat.reduceAdd, Nat.add_zero,
        List.getElem_cons_zero, List.getElem_cons_succ] at short first second
      refine ⟨size - 2, by omega, by omega, ?_⟩
      rw [separatorAt, if_pos first, if_pos second, Nat.sub_add_cancel short]
    · have first := bytes 0 (by decide)
      have second := bytes 1 (by decide)
      have third := bytes 2 (by decide)
      simp only [List.length_cons, List.length_nil, Nat.zero_add, Nat.reduceAdd, Nat.add_zero,
        List.getElem_cons_zero, List.getElem_cons_succ] at short first second third
      refine ⟨size - 3, by omega, by omega, ?_⟩
      rw [separatorAt, if_pos first, if_neg (by rw [second]; decide),
        if_pos ⟨by omega, second, third⟩, Nat.sub_add_cancel short]
  · rintro ⟨i, -, -, hit⟩
    unfold separatorAt at hit
    split at hit
    · next first =>
        split at hit
        · next second =>
            have size_eq : i + 2 = size := Option.some.inj hit
            left
            subst size_eq
            refine ⟨by simp, fun k below => ?_⟩
            match k, below with
            | 0, _ => simpa using first
            | 1, _ => simpa using second
        · split at hit
          · next third =>
              have size_eq : i + 3 = size := Option.some.inj hit
              right
              subst size_eq
              refine ⟨by simp, fun k below => ?_⟩
              match k, below with
              | 0, _ => simpa using first
              | 1, _ => simpa using third.2.1
              | 2, _ => simpa using third.2.2
          · exact absurd hit nofun
    · exact absurd hit nofun

theorem separatorAt_bounds {buf : Bytes} {i size : Nat} (hit : separatorAt buf i = some size) :
    i + 2 ≤ size ∧ size ≤ i + 3 ∧ size ≤ buf.length := by
  unfold separatorAt at hit
  split at hit
  · split at hit
    · next second =>
        have inside := (List.getElem?_eq_some_iff.mp second).1
        have size_eq : i + 2 = size := Option.some.inj hit
        omega
    · split at hit
      · next third =>
          have size_eq : i + 3 = size := Option.some.inj hit
          omega
      · exact absurd hit nofun
  · exact absurd hit nofun

theorem separatorAt_first {buf : Bytes} {i size : Nat} (hit : separatorAt buf i = some size) :
    buf[i]? = some lf ∧ (size = i + 3 → buf[i + 1]? = some cr) := by
  unfold separatorAt at hit
  split at hit
  · next first =>
      refine ⟨first, fun long => ?_⟩
      split at hit
      · have short : i + 2 = size := Option.some.inj hit
        omega
      · split at hit
        · next third => exact third.2.1
        · exact absurd hit nofun
  · exact absurd hit nofun

/-- Two separators that end at one place are the same. -/
theorem separatorAt_injective {buf : Bytes} {i j size : Nat} (hit : separatorAt buf i = some size)
    (other : separatorAt buf j = some size) : i = j := by
  -- Starts one apart would share a byte that is a line feed and a carriage return.
  have apart : ∀ {a b : Nat}, separatorAt buf a = some size → separatorAt buf b = some size →
      a < b → False := by
    intro a b first second less
    obtain ⟨aLower, aUpper, -⟩ := separatorAt_bounds first
    obtain ⟨bLower, bUpper, -⟩ := separatorAt_bounds second
    have carriageReturn := (separatorAt_first first).2 (by omega)
    have lineFeed := (separatorAt_first second).1
    rw [show b = a + 1 by omega, carriageReturn] at lineFeed
    exact absurd (Option.some.inj lineFeed) (by decide)
  rcases Nat.lt_trichotomy i j with less | same | greater
  · exact (apart hit other less).elim
  · exact same
  · exact (apart other hit greater).elim

/-- The first hit of a scan over an interval of positions. -/
theorem findSome?_range'_eq_some_iff {α : Type} {scan : Nat → Option α} {value : α}
    (count : Nat) : ∀ start, (List.range' start count).findSome? scan = some value ↔
      ∃ i, start ≤ i ∧ i < start + count ∧ scan i = some value ∧
        ∀ j, start ≤ j → j < i → scan j = none := by
  induction count with
  | zero =>
      intro start
      constructor
      · intro found
        exact absurd found nofun
      · rintro ⟨i, lower, upper, -⟩
        omega
  | succ count inductionHypothesis =>
      intro start
      rw [List.range'_succ, List.findSome?_cons]
      cases here : scan start with
      | some hit =>
          constructor
          · intro same
            exact ⟨start, Nat.le_refl _, by omega, here.trans same, fun j _ _ => by omega⟩
          · rintro ⟨i, lower, _, hitAt, missed⟩
            rcases Nat.eq_or_lt_of_le lower with rfl | later
            · exact here.symm.trans hitAt
            · have first := missed start (Nat.le_refl _) later
              rw [here] at first
              exact absurd first nofun
      | none =>
          simp only [inductionHypothesis (start + 1)]
          constructor
          · rintro ⟨i, lower, upper, hitAt, missed⟩
            refine ⟨i, by omega, by omega, hitAt, fun j jLower jUpper => ?_⟩
            rcases Nat.eq_or_lt_of_le jLower with rfl | later
            · exact here
            · exact missed j later jUpper
          · rintro ⟨i, lower, upper, hitAt, missed⟩
            have later : start ≠ i := by
              rintro rfl
              rw [here] at hitAt
              exact absurd hitAt nofun
            exact ⟨i, by omega, by omega, hitAt, fun j jLower jUpper =>
              missed j (by omega) jUpper⟩

/-- The search from a hint answers with the end of the head, provided no
separator ends at or before the hint. -/
theorem findHeaderSeparator_eq_some_iff {buf : Bytes} {startPos size : Nat}
    (fresh : ∀ earlier ≤ startPos, ¬ EndsWithSeparator (buf.take earlier)) :
    findHeaderSeparator buf startPos = some size ↔ IsHeadEnd buf size := by
  -- A separator that ends after the hint starts at or after the scan's start.
  have reach : ∀ {i earlier : Nat}, EndsWithSeparator (buf.take earlier) → earlier ≤ i + 3 →
      startPos - 3 ≤ i := by
    intro i earlier ends close
    by_contra outside
    exact fresh earlier (by omega) ends
  unfold findHeaderSeparator
  constructor
  · intro found
    split at found
    · exact absurd found nofun
    · obtain ⟨i, start, stop, hit, missed⟩ := (findSome?_range'_eq_some_iff _ _).mp found
      obtain ⟨lower, upper, inside⟩ := separatorAt_bounds hit
      refine ⟨inside, (endsWithSeparator_take_iff inside).mpr ⟨i, lower, upper, hit⟩, ?_⟩
      intro earlier less ends
      obtain ⟨j, jLower, jUpper, jHit⟩ := (endsWithSeparator_take_iff (by omega)).mp ends
      rcases Nat.lt_or_ge j i with before | same
      · rw [missed j (reach ends jUpper) before] at jHit
        exact absurd jHit nofun
      · rw [show j = i by omega, hit] at jHit
        have := Option.some.inj jHit
        omega
  · intro headEnd
    have inside := headEnd.inside
    obtain ⟨i, lower, upper, hit⟩ := (endsWithSeparator_take_iff inside).mp headEnd.ends
    have start := reach headEnd.ends upper
    rw [if_neg (by omega)]
    refine (findSome?_range'_eq_some_iff _ _).mpr ⟨i, start, by omega, hit, fun j _ before => ?_⟩
    cases jHit : separatorAt buf j with
    | none => rfl
    | some earlier =>
        obtain ⟨jLower, jUpper, jInside⟩ := separatorAt_bounds jHit
        have ends := (endsWithSeparator_take_iff jInside).mpr ⟨j, jLower, jUpper, jHit⟩
        rcases Nat.lt_or_ge earlier size with less | same
        · exact absurd ends (headEnd.first earlier less)
        · have atSize : earlier = size := by omega
          have sameStart := separatorAt_injective hit (atSize ▸ jHit)
          omega

/-- Where a separator ends, a head ends there or before. -/
theorem exists_isHeadEnd {stream : Bytes} {size : Nat} (inside : size ≤ stream.length)
    (ends : EndsWithSeparator (stream.take size)) : ∃ first ≤ size, IsHeadEnd stream first := by
  induction size using Nat.strongRecOn with
  | _ size inductionHypothesis =>
      by_cases earlier : ∃ before < size, EndsWithSeparator (stream.take before)
      · obtain ⟨before, less, endsBefore⟩ := earlier
        obtain ⟨first, atMost, headEnd⟩ :=
          inductionHypothesis before less (by omega) endsBefore
        exact ⟨first, by omega, headEnd⟩
      · exact ⟨size, Nat.le_refl _, inside, ends, fun before less endsBefore =>
          earlier ⟨before, less, endsBefore⟩⟩

/-- The search fails exactly when no separator ends in the buffer. -/
theorem findHeaderSeparator_eq_none_iff {buf : Bytes} {startPos : Nat}
    (fresh : ∀ earlier ≤ startPos, ¬ EndsWithSeparator (buf.take earlier)) :
    findHeaderSeparator buf startPos = none ↔
      ∀ size ≤ buf.length, ¬ EndsWithSeparator (buf.take size) := by
  constructor
  · intro missed size inside ends
    obtain ⟨first, -, headEnd⟩ := exists_isHeadEnd inside ends
    rw [(findHeaderSeparator_eq_some_iff fresh).mpr headEnd] at missed
    exact absurd missed nofun
  · intro none
    cases found : findHeaderSeparator buf startPos with
    | none => rfl
    | some size =>
        have headEnd := (findHeaderSeparator_eq_some_iff fresh).mp found
        exact absurd headEnd.ends (none size headEnd.inside)

/-- No separator ends at the start of a buffer. -/
theorem fresh_at_start (buf : Bytes) : ∀ earlier ≤ 0, ¬ EndsWithSeparator (buf.take earlier) := by
  intro earlier atStart
  rw [Nat.le_zero.mp atStart, List.take_zero]
  exact of_decide_eq_true rfl

/-- A search from the start finds where the head ends. -/
theorem findHeaderSeparator_from_start {buf : Bytes} {size : Nat} :
    findHeaderSeparator buf 0 = some size ↔ IsHeadEnd buf size :=
  findHeaderSeparator_eq_some_iff (fresh_at_start buf)

/-! ## The search with a hint and the search without one -/

/-- A head ends at the least position where a separator ends. -/
theorem isHeadEnd_iff_isLeast {stream : Bytes} {size : Nat} :
    IsHeadEnd stream size ↔
      IsLeast {position | position ≤ stream.length ∧ EndsWithSeparator (stream.take position)}
        size := by
  constructor
  · intro headEnd
    refine ⟨⟨headEnd.inside, headEnd.ends⟩, fun position found => ?_⟩
    exact Nat.le_of_not_lt fun before => headEnd.first position before found.2
  · intro least
    refine ⟨least.1.1, least.1.2, fun earlier before ends => ?_⟩
    have inside : earlier ≤ stream.length := by
      have := least.1.1
      omega
    exact Nat.not_le_of_lt before (least.2 ⟨inside, ends⟩)

/-- A hint before which no separator ends changes no answer. -/
theorem findHeaderSeparator_eq_from_start {buf : Bytes} {startPos : Nat}
    (fresh : ∀ earlier ≤ startPos, ¬ EndsWithSeparator (buf.take earlier)) :
    findHeaderSeparator buf startPos = findHeaderSeparator buf 0 := by
  apply Option.ext
  intro size
  rw [findHeaderSeparator_eq_some_iff fresh, findHeaderSeparator_from_start]

/-- The search never reads out of range, a sound hint changes nothing, and from
the start it answers with the least position where a separator ends. -/
theorem findHeaderSeparator_hinted (buf : Bytes) (startPos : Nat) :
    findHeaderSeparatorChecked buf startPos = some (findHeaderSeparator buf startPos) ∧
      ((∀ position ≤ startPos, ¬ EndsWithSeparator (buf.take position)) →
        findHeaderSeparator buf startPos = findHeaderSeparator buf 0) ∧
      (∀ size, findHeaderSeparator buf 0 = some size ↔
        IsLeast {position | position ≤ buf.length ∧ EndsWithSeparator (buf.take position)} size) ∧
      (findHeaderSeparator buf 0 = none ↔
        ∀ position ≤ buf.length, ¬ EndsWithSeparator (buf.take position)) := by
  refine ⟨findHeaderSeparatorChecked_eq buf startPos, findHeaderSeparator_eq_from_start, ?_, ?_⟩
  · intro size
    exact findHeaderSeparator_from_start.trans isHeadEnd_iff_isLeast
  · exact findHeaderSeparator_eq_none_iff (fresh_at_start buf)

/-- The hint lies inside the separator `\r\n\r\n`: the search finds its end. -/
theorem findHeaderSeparator_hinted_within :
    findHeaderSeparator (asBytes "Host: a\r\n\r\nrest".toList) 9 =
      findHeaderSeparator (asBytes "Host: a\r\n\r\nrest".toList) 0 :=
  (findHeaderSeparator_hinted (asBytes "Host: a\r\n\r\nrest".toList) 9).2.1 (by decide +kernel)

end SimpleForwarder
