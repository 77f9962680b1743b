import Mathlib.Data.List.TakeWhile
import SimpleForwarder.ProxyServer.Headers

/-!
Contract: which header lines are forwarded.

Owns: the meaning of a header field and of an end-to-end line in terms of the
bytes of a block, and the agreement of `filter_hop_by_hop_headers` with it
(`filter_keeps_endToEnd`), with what follows for line terminators, for the
place of a `Connection` field and for filtering twice.

A line is what stands between line feeds, without one carriage return at its
end. Nothing here refers to the passes of the filter.

Does not own: the framing of the body that follows a block.
-/

namespace SimpleForwarder

open RustText

/-! ## Trimming -/

/-- `core` is `bytes` without the white space around it. -/
def IsTrimOf (core bytes : Bytes) : Prop :=
  ∃ left right, bytes = left ++ core ++ right ∧
    (∀ byte ∈ left ++ right, isAsciiWhitespace byte = true) ∧
    (∀ byte, core.head? = some byte → isAsciiWhitespace byte = false) ∧
    (∀ byte, core.getLast? = some byte → isAsciiWhitespace byte = false)

/-- Dropping from the front stops at the first item that is not dropped. -/
theorem dropWhile_append_eq {α : Type} {drops : α → Bool} {front core : List α}
    (dropped : ∀ item ∈ front, drops item = true)
    (stops : ∀ item, core.head? = some item → drops item = false) :
    (front ++ core).dropWhile drops = core := by
  rw [List.dropWhile_append_of_pos dropped]
  cases core with
  | nil => rfl
  | cons item core =>
      exact List.dropWhile_cons_of_neg (Bool.eq_false_iff.mp (stops item rfl))

/-- The first item that is left is not dropped. -/
theorem head?_dropWhile_eq {α : Type} {drops : α → Bool} {items : List α} {item : α}
    (first : (items.dropWhile drops).head? = some item) : drops item = false := by
  have stopped := List.head?_dropWhile_not drops items
  rw [first] at stopped
  simpa using stopped

theorem isTrimOf_trimAsciiBytes (bytes : Bytes) : IsTrimOf (trimAsciiBytes bytes) bytes := by
  have front : bytes.takeWhile isAsciiWhitespace ++ bytes.dropWhile isAsciiWhitespace = bytes :=
    List.takeWhile_append_dropWhile
  have back := congrArg List.reverse (List.takeWhile_append_dropWhile
    (p := isAsciiWhitespace) (l := (bytes.dropWhile isAsciiWhitespace).reverse))
  rw [List.reverse_append, List.reverse_reverse] at back
  refine ⟨bytes.takeWhile isAsciiWhitespace,
    ((bytes.dropWhile isAsciiWhitespace).reverse.takeWhile isAsciiWhitespace).reverse,
    ?_, ?_, ?_, ?_⟩
  · rw [List.append_assoc, trimAsciiBytes, back, front]
  · intro byte member
    rcases List.mem_append.mp member with inLeft | inRight
    · exact List.mem_takeWhile_imp inLeft
    · exact List.mem_takeWhile_imp (List.mem_reverse.mp inRight)
  · intro byte first
    -- What is left starts where the front was stripped, unless nothing is left.
    apply @head?_dropWhile_eq _ _ bytes
    rw [trimAsciiBytes] at first
    rw [← back, List.head?_append, first, Option.some_or]
  · intro byte last
    rw [trimAsciiBytes, List.getLast?_reverse] at last
    exact head?_dropWhile_eq last

/-- There is one way to trim. -/
theorem trimAsciiBytes_eq_iff {core bytes : Bytes} :
    trimAsciiBytes bytes = core ↔ IsTrimOf core bytes := by
  constructor
  · intro same
    rw [← same]
    exact isTrimOf_trimAsciiBytes bytes
  · rintro ⟨left, right, rfl, white, first, last⟩
    have leftWhite : ∀ byte ∈ left, isAsciiWhitespace byte = true := fun byte member =>
      white byte (List.mem_append_left _ member)
    have rightWhite : ∀ byte ∈ right, isAsciiWhitespace byte = true := fun byte member =>
      white byte (List.mem_append_right _ member)
    cases core with
    | nil =>
        rw [trimAsciiBytes, List.append_nil, List.dropWhile_eq_nil_iff.mpr white]
        rfl
    | cons byte core =>
        have front : (left ++ (byte :: core ++ right)).dropWhile isAsciiWhitespace =
            byte :: core ++ right :=
          dropWhile_append_eq leftWhite first
        have back : (right.reverse ++ (byte :: core).reverse).dropWhile isAsciiWhitespace =
            (byte :: core).reverse := by
          apply dropWhile_append_eq
          · intro other member
            exact rightWhite other (List.mem_reverse.mp member)
          · intro other atEnd
            rw [List.head?_reverse] at atEnd
            exact last other atEnd
        rw [trimAsciiBytes, List.append_assoc, front, List.reverse_append, back,
          List.reverse_reverse]

/-! ## Fields -/

/-- `line` is a field: a name that is not blank, a colon and a value. -/
structure IsField (line name value : Bytes) : Prop where
  named : name ≠ []
  parts : ∃ before after, line = before ++ asciiColon :: after ∧ asciiColon ∉ before ∧
    IsTrimOf name before ∧ IsTrimOf value after

/-- What the split finds at the first colon. -/
theorem splitHeaderLine_at {before after : Bytes} (first : asciiColon ∉ before) :
    splitHeaderLine (before ++ asciiColon :: after) =
      if trimAsciiBytes before = [] then none
      else some (trimAsciiBytes before, trimAsciiBytes after) := by
  have found : (before ++ asciiColon :: after).findIdx? (· = asciiColon) = some before.length :=
    position_eq_some_iff.mpr ⟨before, after, rfl, first, rfl⟩
  have value : (before ++ asciiColon :: after).drop (before.length + 1) = after := by
    rw [← List.drop_drop, List.drop_left, List.drop_succ_cons, List.drop_zero]
  unfold splitHeaderLine
  rw [found]
  dsimp only
  rw [List.take_left, value]

theorem splitHeaderLine_eq_some_iff {line name value : Bytes} :
    splitHeaderLine line = some (name, value) ↔ IsField line name value := by
  constructor
  · intro split
    cases found : line.findIdx? (· = asciiColon) with
    | none =>
        unfold splitHeaderLine at split
        rw [found] at split
        exact absurd split nofun
    | some colon =>
        obtain ⟨before, after, rfl, first, rfl⟩ := position_eq_some_iff.mp found
        rw [splitHeaderLine_at first] at split
        split at split
        · exact absurd split nofun
        · next named =>
            cases split
            exact ⟨named, before, after, rfl, first, isTrimOf_trimAsciiBytes before,
              isTrimOf_trimAsciiBytes after⟩
  · rintro ⟨named, before, after, rfl, first, nameTrim, valueTrim⟩
    rw [splitHeaderLine_at first, trimAsciiBytes_eq_iff.mpr nameTrim,
      trimAsciiBytes_eq_iff.mpr valueTrim, if_neg named]

/-! ## Connection tokens -/

/-- `line` is a `Connection` field. -/
def IsConnectionField (line value : Bytes) : Prop :=
  ∃ name, IsField line name value ∧ name.map toAsciiLowercase = connectionName

/-- The lines of a block, the blank ones included. -/
def linesOf (headers : Bytes) : List Bytes :=
  (headers.splitOnP (· = lf)).map stripCarriageReturn

/-- `token` is, up to case and surrounding white space, an item of the
comma-separated value of some `Connection` field of the block. -/
def IsConnectionToken (headers token : Bytes) : Prop :=
  ∃ line ∈ linesOf headers, ∃ value, IsConnectionField line value ∧
    ∃ item ∈ value.splitOnP (· = asciiComma), ∃ core, IsTrimOf core item ∧
      core.map toAsciiLowercase = token

/-- A field whose name is neither hop-by-hop nor a connection token. -/
def IsEndToEnd (headers line : Bytes) : Prop :=
  ∃ name value, IsField line name value ∧ name.map toAsciiLowercase ∉ hopByHop ∧
    ¬ IsConnectionToken headers (name.map toAsciiLowercase)

theorem eqIgnoreAsciiCase_connectionName_iff {name : Bytes} :
    eqIgnoreAsciiCase name connectionName = true ↔
      name.map toAsciiLowercase = connectionName := by
  have folded : connectionName.map toAsciiLowercase = connectionName := by decide
  rw [eqIgnoreAsciiCase, folded, beq_iff_eq]

theorem hopByHop_any_iff {name : Bytes} :
    hopByHop.any (eqIgnoreAsciiCase name) = true ↔ name.map toAsciiLowercase ∈ hopByHop := by
  have folded : ∀ fixed ∈ hopByHop, fixed.map toAsciiLowercase = fixed := by decide
  rw [List.any_eq_true]
  constructor
  · rintro ⟨fixed, member, same⟩
    rw [eqIgnoreAsciiCase, folded fixed member, beq_iff_eq] at same
    rw [same]
    exact member
  · intro member
    refine ⟨_, member, ?_⟩
    rw [eqIgnoreAsciiCase, folded _ member, beq_iff_eq]

/-- The tokens that one field contributes. The empty item names no field. -/
theorem mem_connectionTokensOf_iff {line token : Bytes} (nonempty : token ≠ []) :
    token ∈ connectionTokensOf line ↔ ∃ value, IsConnectionField line value ∧
      ∃ item ∈ value.splitOnP (· = asciiComma), ∃ core, IsTrimOf core item ∧
        core.map toAsciiLowercase = token := by
  unfold connectionTokensOf
  constructor
  · intro member
    split at member
    · exact absurd member List.not_mem_nil
    · next name value split =>
        split at member
        · next isConnection =>
            obtain ⟨core, trimmed, lowered⟩ := List.mem_filterMap.mp member
            obtain ⟨item, inValue, rfl⟩ := List.mem_map.mp trimmed
            refine ⟨value, ⟨name, splitHeaderLine_eq_some_iff.mp split,
              eqIgnoreAsciiCase_connectionName_iff.mp isConnection⟩, item, inValue,
              trimAsciiBytes item, isTrimOf_trimAsciiBytes item, ?_⟩
            split at lowered
            · exact absurd lowered nofun
            · exact Option.some.inj lowered
        · exact absurd member List.not_mem_nil
  · rintro ⟨value, ⟨name, isField, isConnection⟩, item, inValue, core, isTrim, lowered⟩
    rw [splitHeaderLine_eq_some_iff.mpr isField]
    dsimp only
    rw [if_pos (eqIgnoreAsciiCase_connectionName_iff.mpr isConnection)]
    refine List.mem_filterMap.mpr ⟨core, List.mem_map.mpr ⟨item, inValue,
      trimAsciiBytes_eq_iff.mpr isTrim⟩, ?_⟩
    have coreNonempty : core ≠ [] := by
      rintro rfl
      exact nonempty lowered.symm
    rw [if_neg coreNonempty, lowered]

/-- The filter reads the lines that are not empty. -/
theorem iterHeaderLines_eq (headers : Bytes) :
    iterHeaderLines headers = (linesOf headers).filter (· ≠ []) := by
  unfold iterHeaderLines linesOf
  induction headers.splitOnP (· = lf) with
  | nil => rfl
  | cons piece pieces inductionHypothesis =>
      rw [List.map_cons, List.filterMap_cons, inductionHypothesis]
      by_cases empty : stripCarriageReturn piece = []
      · simp [empty]
      · simp [empty]

/-- The empty line is no field. -/
theorem not_isField_nil {name value : Bytes} : ¬ IsField [] name value := by
  rintro ⟨-, before, after, shape, -⟩
  exact absurd shape (by simp)

theorem mem_connectionTokens_iff {headers token : Bytes} (nonempty : token ≠ []) :
    token ∈ connectionTokens headers ↔ IsConnectionToken headers token := by
  rw [connectionTokens, iterHeaderLines_eq, List.mem_flatMap]
  constructor
  · rintro ⟨line, member, contributes⟩
    exact ⟨line, List.mem_of_mem_filter member,
      (mem_connectionTokensOf_iff nonempty).mp contributes⟩
  · rintro ⟨line, member, value, isConnection, named⟩
    have lineNonempty : line ≠ [] := by
      rintro rfl
      exact not_isField_nil isConnection.choose_spec.1
    exact ⟨line, List.mem_filter.mpr ⟨member, decide_eq_true lineNonempty⟩,
      (mem_connectionTokensOf_iff nonempty).mpr ⟨value, isConnection, named⟩⟩

theorem isHopField_eq_true_iff {headers name : Bytes} (named : name ≠ []) :
    isHopField (connectionTokens headers) name = true ↔
      name.map toAsciiLowercase ∈ hopByHop ∨
        IsConnectionToken headers (name.map toAsciiLowercase) := by
  have nonempty : name.map toAsciiLowercase ≠ [] := fun empty =>
    named (List.map_eq_nil_iff.mp empty)
  rw [isHopField, Bool.or_eq_true, hopByHop_any_iff, List.contains_iff_mem,
    mem_connectionTokens_iff nonempty]

/-- The lines copied by the second pass are the end-to-end lines. -/
theorem keepsLine_eq_true_iff {headers line : Bytes} :
    keepsLine (connectionTokens headers) line = true ↔ IsEndToEnd headers line := by
  unfold keepsLine
  constructor
  · intro kept
    split at kept
    · exact absurd kept nofun
    · next name value split =>
        have isField := splitHeaderLine_eq_some_iff.mp split
        have forwarded : ¬ isHopField (connectionTokens headers) name = true := by
          simpa using kept
        rw [isHopField_eq_true_iff isField.named, not_or] at forwarded
        exact ⟨name, value, isField, forwarded.1, forwarded.2⟩
  · rintro ⟨name, value, isField, notFixed, notNamed⟩
    rw [splitHeaderLine_eq_some_iff.mpr isField]
    dsimp only
    have forwarded : ¬ isHopField (connectionTokens headers) name = true := by
      rw [isHopField_eq_true_iff isField.named, not_or]
      exact ⟨notFixed, notNamed⟩
    simpa using forwarded

instance (headers line : Bytes) : Decidable (IsEndToEnd headers line) :=
  decidable_of_iff _ keepsLine_eq_true_iff

/-! ## The lines forwarded -/

theorem filterHopByHopHeaders_eq_endToEnd (headers : Bytes) :
    filterHopByHopHeaders headers =
      joinLines ((linesOf headers).filter fun line => IsEndToEnd headers line) := by
  rw [filterHopByHopHeaders_eq, iterHeaderLines_eq, List.filter_filter]
  congr 1
  refine List.filter_congr fun line _ => ?_
  by_cases endToEnd : IsEndToEnd headers line
  · have lineNonempty : line ≠ [] := by
      obtain ⟨name, value, isField, -⟩ := endToEnd
      rintro rfl
      exact not_isField_nil isField
    simp [keepsLine_eq_true_iff.mpr endToEnd, endToEnd, lineNonempty]
  · have dropped := Bool.eq_false_iff.mpr (mt keepsLine_eq_true_iff.mp endToEnd)
    simp [dropped, endToEnd]

/-- A `Connection` field is itself not forwarded. -/
theorem not_isEndToEnd_of_isConnectionField {headers line value : Bytes}
    (isConnection : IsConnectionField line value) : ¬ IsEndToEnd headers line := by
  rintro ⟨name, other, isField, notFixed, -⟩
  obtain ⟨connection, isField', folded⟩ := isConnection
  have same : some (name, other) = some (connection, value) := by
    rw [← splitHeaderLine_eq_some_iff.mpr isField, splitHeaderLine_eq_some_iff.mpr isField']
  cases same
  rw [folded] at notFixed
  exact notFixed (by decide)

/-- Only the lines of a block decide which fields are forwarded. -/
theorem isEndToEnd_congr {left right : Bytes}
    (same : ∀ line, line ∈ linesOf left ↔ line ∈ linesOf right) (line : Bytes) :
    IsEndToEnd left line ↔ IsEndToEnd right line := by
  have tokens : ∀ token, IsConnectionToken left token ↔ IsConnectionToken right token := by
    intro token
    unfold IsConnectionToken
    simp only [same]
  unfold IsEndToEnd
  simp only [tokens]

theorem linesOf_eq_of_split {headers : Bytes} {pieces : List Bytes}
    (split : headers.splitOnP (· = lf) = pieces) :
    linesOf headers = pieces.map stripCarriageReturn :=
  congrArg (List.map stripCarriageReturn) split

/-- A line is terminated by a line feed, with or without a carriage return. -/
theorem filterHopByHopHeaders_terminator {headers switched line : Bytes}
    {before after : List Bytes} (content : line.getLast? ≠ some cr)
    (split : headers.splitOnP (· = lf) = before ++ line :: after)
    (switchedSplit : switched.splitOnP (· = lf) = before ++ (line ++ [cr]) :: after) :
    filterHopByHopHeaders switched = filterHopByHopHeaders headers := by
  have sameLine : stripCarriageReturn (line ++ [cr]) = stripCarriageReturn line := by
    rw [stripCarriageReturn_concat, stripCarriageReturn, if_neg content]
  have sameLines : linesOf switched = linesOf headers := by
    rw [linesOf_eq_of_split split, linesOf_eq_of_split switchedSplit, List.map_append,
      List.map_append, List.map_cons, List.map_cons, sameLine]
  rw [filterHopByHopHeaders_eq_endToEnd, filterHopByHopHeaders_eq_endToEnd, sameLines]
  congr 1
  refine List.filter_congr fun other _ => decide_eq_decide.mpr (isEndToEnd_congr ?_ other)
  simp only [sameLines, implies_true]

/-- A `Connection` field acts on the fields before and after it. -/
theorem filterHopByHopHeaders_moved {headers moved line value : Bytes}
    {before between after : List Bytes}
    (isConnection : IsConnectionField (stripCarriageReturn line) value)
    (split : headers.splitOnP (· = lf) = before ++ line :: (between ++ after))
    (movedSplit : moved.splitOnP (· = lf) = before ++ (between ++ line :: after)) :
    filterHopByHopHeaders moved = filterHopByHopHeaders headers := by
  have sameMembers : ∀ other, other ∈ linesOf moved ↔ other ∈ linesOf headers := by
    intro other
    rw [linesOf_eq_of_split split, linesOf_eq_of_split movedSplit]
    simp only [List.map_append, List.map_cons, List.mem_append, List.mem_cons]
    tauto
  have sameFilter : (fun other => decide (IsEndToEnd moved other)) =
      fun other => decide (IsEndToEnd headers other) :=
    funext fun other => decide_eq_decide.mpr (isEndToEnd_congr sameMembers other)
  have dropped : ∀ others,
      (stripCarriageReturn line :: others).filter (fun other => IsEndToEnd headers other) =
        others.filter fun other => IsEndToEnd headers other := by
    intro others
    apply List.filter_cons_of_neg
    simpa using not_isEndToEnd_of_isConnectionField isConnection
  rw [filterHopByHopHeaders_eq_endToEnd, filterHopByHopHeaders_eq_endToEnd, sameFilter,
    linesOf_eq_of_split split, linesOf_eq_of_split movedSplit]
  simp only [List.map_append, List.map_cons, List.filter_append, dropped]

/-- The output has no `Connection` field, so that it names no token. -/
theorem not_isConnectionToken_filterHopByHopHeaders {headers token : Bytes} :
    ¬ IsConnectionToken (filterHopByHopHeaders headers) token := by
  rintro ⟨line, member, value, isConnection, -⟩
  have lineNonempty : line ≠ [] := by
    rintro rfl
    exact not_isField_nil isConnection.choose_spec.1
  have copied : line ∈ iterHeaderLines (filterHopByHopHeaders headers) := by
    rw [iterHeaderLines_eq]
    exact List.mem_filter.mpr ⟨member, decide_eq_true lineNonempty⟩
  rw [iterHeaderLines_filterHopByHopHeaders] at copied
  have endToEnd := keepsLine_eq_true_iff.mp (List.of_mem_filter copied)
  exact not_isEndToEnd_of_isConnectionField isConnection endToEnd

/-- What was forwarded once is forwarded again. -/
theorem filterHopByHopHeaders_idempotent (headers : Bytes) :
    filterHopByHopHeaders (filterHopByHopHeaders headers) = filterHopByHopHeaders headers := by
  rw [filterHopByHopHeaders_eq (filterHopByHopHeaders headers),
    iterHeaderLines_filterHopByHopHeaders, filterHopByHopHeaders_eq headers]
  congr 1
  rw [List.filter_eq_self]
  intro line copied
  have endToEnd := keepsLine_eq_true_iff.mp (List.of_mem_filter copied)
  obtain ⟨name, value, isField, notFixed, -⟩ := endToEnd
  rw [← filterHopByHopHeaders_eq, keepsLine_eq_true_iff]
  exact ⟨name, value, isField, notFixed, not_isConnectionToken_filterHopByHopHeaders⟩

/-- The filter forwards exactly the end-to-end lines, in order and with their
bytes. It reads both line terminators alike, does not depend on the place of a
`Connection` field, and changes nothing the second time. -/
theorem filter_keeps_endToEnd :
    (∀ headers, filterHopByHopHeaders headers =
      joinLines ((linesOf headers).filter fun line => IsEndToEnd headers line)) ∧
    (∀ (headers switched line : Bytes) (before after : List Bytes),
      line.getLast? ≠ some cr →
      headers.splitOnP (· = lf) = before ++ line :: after →
      switched.splitOnP (· = lf) = before ++ (line ++ [cr]) :: after →
      filterHopByHopHeaders switched = filterHopByHopHeaders headers) ∧
    (∀ (headers moved line value : Bytes) (before between after : List Bytes),
      IsConnectionField (stripCarriageReturn line) value →
      headers.splitOnP (· = lf) = before ++ line :: (between ++ after) →
      moved.splitOnP (· = lf) = before ++ (between ++ line :: after) →
      filterHopByHopHeaders moved = filterHopByHopHeaders headers) ∧
    ∀ headers, filterHopByHopHeaders (filterHopByHopHeaders headers) =
      filterHopByHopHeaders headers :=
  ⟨filterHopByHopHeaders_eq_endToEnd,
    fun _ _ _ _ _ content split switchedSplit =>
      filterHopByHopHeaders_terminator content split switchedSplit,
    fun _ _ _ _ _ _ _ isConnection split movedSplit =>
      filterHopByHopHeaders_moved isConnection split movedSplit,
    filterHopByHopHeaders_idempotent⟩

/-- The field named before and after it is dropped. -/
theorem filter_keeps_endToEnd_named :
    filterHopByHopHeaders (asBytes "A: 1\nConnection: x, a\nB: 2\r\n".toList) =
        filterHopByHopHeaders (asBytes "Connection: x, a\nA: 1\nB: 2\r\n".toList) ∧
      filterHopByHopHeaders (asBytes "Connection: x, a\nA: 1\nB: 2\r\n".toList) =
        asBytes "B: 2\r\n\r\n".toList :=
  ⟨filter_keeps_endToEnd.2.2.1
      (asBytes "Connection: x, a\nA: 1\nB: 2\r\n".toList)
      (asBytes "A: 1\nConnection: x, a\nB: 2\r\n".toList)
      (asBytes "Connection: x, a".toList) (asBytes "x, a".toList)
      [] [asBytes "A: 1".toList] [asBytes "B: 2\r".toList, []]
      ⟨asBytes "Connection".toList,
        splitHeaderLine_eq_some_iff.mp (by decide +kernel), by decide +kernel⟩
      (by decide +kernel) (by decide +kernel),
    by decide +kernel⟩

end SimpleForwarder
