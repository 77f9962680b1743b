import SimpleForwarder.Lib.Text

/-!
Contract: header blocks and the hop-by-hop filter (`proxy_server.rs`).

Owns: the lines and fields of a header block, `filterHopByHopHeaders`, the
lines of its output (`iterHeaderLines_filterHopByHopHeaders`), and the body
framing that a block announces.

`announcedFraming` is the reader's view of a block: the transfer coding if the
last one named is `chunked`, otherwise the content lengths. `framing_kept_iff`
says for which blocks the filter preserves it.

Does not own: where a header block ends.
-/

namespace SimpleForwarder

open RustText

def asciiColon : UInt8 := 0x3A

def asciiComma : UInt8 := 0x2C

def trimAsciiBytes (bytes : Bytes) : Bytes :=
  ((bytes.dropWhile isAsciiWhitespace).reverse.dropWhile isAsciiWhitespace).reverse

/-- The name and the value of a header line. -/
def splitHeaderLine (line : Bytes) : Option (Bytes × Bytes) :=
  match line.findIdx? (· = asciiColon) with
  | none => none
  | some colon =>
      let name := trimAsciiBytes (line.take colon)
      if name = [] then none else some (name, trimAsciiBytes (line.drop (colon + 1)))

/-- `line.strip_suffix(b"\r").unwrap_or(line)`. -/
def stripCarriageReturn (line : Bytes) : Bytes :=
  if line.getLast? = some cr then line.dropLast else line

def iterHeaderLines (headers : Bytes) : List Bytes :=
  (headers.splitOnP (· = lf)).filterMap fun line =>
    let line := stripCarriageReturn line
    if line = [] then none else some line

def hopByHop : List Bytes :=
  ["connection", "keep-alive", "proxy-authenticate", "proxy-authorization", "proxy-connection",
    "te", "trailers", "transfer-encoding", "upgrade"].map fun name => asBytes name.toList

def connectionName : Bytes := asBytes "connection".toList

/-- The tokens of one field, lower-cased, if it is a `Connection` field. -/
def connectionTokensOf (line : Bytes) : List Bytes :=
  match splitHeaderLine line with
  | none => []
  | some (name, value) =>
      if eqIgnoreAsciiCase name connectionName then
        ((value.splitOnP (· = asciiComma)).map trimAsciiBytes).filterMap fun token =>
          if token = [] then none else some (token.map toAsciiLowercase)
      else []

/-- The first pass of the filter. -/
def connectionTokens (headers : Bytes) : List Bytes :=
  (iterHeaderLines headers).flatMap connectionTokensOf

/-- The field has a fixed hop-by-hop name or one of the tokens. -/
def isHopField (tokens : List Bytes) (name : Bytes) : Bool :=
  hopByHop.any (eqIgnoreAsciiCase name) || tokens.contains (name.map toAsciiLowercase)

/-- A line of the second pass that is copied to the output. -/
def keepsLine (tokens : List Bytes) (line : Bytes) : Bool :=
  match splitHeaderLine line with
  | none => false
  | some (name, _) => !isHopField tokens name

def crlf : Bytes := [cr, lf]

def filterHopByHopHeaders (headers : Bytes) : Bytes :=
  let tokens := connectionTokens headers
  ((iterHeaderLines headers).flatMap fun line =>
    if keepsLine tokens line then line ++ crlf else []) ++ crlf

/-! ## The lines of the output -/

/-- Lines as the filter writes them. -/
def joinLines (lines : List Bytes) : Bytes := (lines.flatMap fun line => line ++ crlf) ++ crlf

theorem filterHopByHopHeaders_eq (headers : Bytes) :
    filterHopByHopHeaders headers =
      joinLines ((iterHeaderLines headers).filter (keepsLine (connectionTokens headers))) := by
  unfold filterHopByHopHeaders joinLines
  dsimp only
  congr 1
  induction iterHeaderLines headers with
  | nil => rfl
  | cons line lines inductionHypothesis =>
      rw [List.flatMap_cons, inductionHypothesis]
      by_cases kept : keepsLine (connectionTokens headers) line = true
      · rw [if_pos kept, List.filter_cons_of_pos kept, List.flatMap_cons]
      · rw [if_neg kept, List.filter_cons_of_neg kept, List.nil_append]

/-- A line of a block is not empty and does not contain a line feed. -/
theorem mem_iterHeaderLines {headers line : Bytes} (member : line ∈ iterHeaderLines headers) :
    line ≠ [] ∧ lf ∉ line := by
  obtain ⟨piece, pieceMember, kept⟩ := List.mem_filterMap.mp member
  dsimp only at kept
  split at kept
  · exact absurd kept nofun
  · next nonempty =>
      cases kept
      refine ⟨nonempty, fun feed => ?_⟩
      have inPiece : lf ∈ piece := by
        unfold stripCarriageReturn at feed
        split at feed
        · exact (List.dropLast_sublist piece).subset feed
        · exact feed
      have plain := of_mem_splitOnP pieceMember lf inPiece
      exact absurd plain nofun

theorem stripCarriageReturn_concat (line : Bytes) : stripCarriageReturn (line ++ [cr]) = line := by
  unfold stripCarriageReturn
  rw [if_pos List.getLast?_concat, List.dropLast_concat]

/-- The lines written are the lines read back. -/
theorem iterHeaderLines_joinLines {lines : List Bytes}
    (plain : ∀ line ∈ lines, line ≠ [] ∧ lf ∉ line) : iterHeaderLines (joinLines lines) = lines := by
  induction lines with
  | nil => decide
  | cons line lines inductionHypothesis =>
      obtain ⟨nonempty, noFeed⟩ := plain line List.mem_cons_self
      have rest := inductionHypothesis fun other member =>
        plain other (List.mem_cons_of_mem _ member)
      have noFeedReturn : ∀ byte ∈ line ++ [cr], decide (byte = lf) = false := by
        intro byte member
        rw [decide_eq_false_iff_not]
        rintro rfl
        rcases List.mem_append.mp member with inLine | atEnd
        · exact noFeed inLine
        · exact absurd (List.mem_singleton.mp atEnd) (by decide)
      have shape : joinLines (line :: lines) = (line ++ [cr]) ++ lf :: joinLines lines := by
        simp [joinLines, crlf]
      rw [shape, iterHeaderLines, List.splitOnP_append_cons_of_forall_mem noFeedReturn lf
        (decide_eq_true rfl), List.filterMap_cons]
      dsimp only
      rw [stripCarriageReturn_concat, if_neg nonempty]
      exact congrArg (line :: ·) rest

/-- The filter keeps lines as they are and in their order. -/
theorem iterHeaderLines_filterHopByHopHeaders (headers : Bytes) :
    iterHeaderLines (filterHopByHopHeaders headers) =
      (iterHeaderLines headers).filter (keepsLine (connectionTokens headers)) := by
  rw [filterHopByHopHeaders_eq]
  refine iterHeaderLines_joinLines fun line member => ?_
  exact mem_iterHeaderLines (List.mem_of_mem_filter member)

/-! ## Body framing -/

def transferEncodingName : Bytes := asBytes "transfer-encoding".toList

def contentLengthName : Bytes := asBytes "content-length".toList

def chunkedCoding : Bytes := asBytes "chunked".toList

/-- The value of a line that is a field of the given name. -/
def valueIfNamed (name line : Bytes) : Option Bytes :=
  match splitHeaderLine line with
  | none => none
  | some (fieldName, value) => if eqIgnoreAsciiCase fieldName name then some value else none

/-- The values of all fields of a name, in order. -/
def fieldValues (name headers : Bytes) : List Bytes :=
  (iterHeaderLines headers).filterMap (valueIfNamed name)

/-- How a block delimits the body that follows it. -/
inductive BodyFraming where
  | chunked
  | contentLength (values : List Bytes)
  | noBody
deriving DecidableEq

/-- The codings of the `Transfer-Encoding` fields. -/
def transferCodings (headers : Bytes) : List Bytes :=
  (fieldValues transferEncodingName headers).flatMap fun value =>
    ((value.splitOnP (· = asciiComma)).map trimAsciiBytes).filter (· ≠ [])

/-- The final transfer coding is `chunked`. -/
def announcesChunked (headers : Bytes) : Bool :=
  (transferCodings headers).getLast?.any fun coding => eqIgnoreAsciiCase coding chunkedCoding

/-- A folded line is read as a line of its own, as the filter reads it. -/
def announcedFraming (headers : Bytes) : BodyFraming :=
  if announcesChunked headers then .chunked
  else
    match fieldValues contentLengthName headers with
    | [] => .noBody
    | values => .contentLength values

/-- Whether a field is dropped depends on its name up to case only. -/
theorem isHopField_congr {tokens : List Bytes} {left right : Bytes}
    (same : eqIgnoreAsciiCase left right = true) :
    isHopField tokens left = isHopField tokens right := by
  have folded : left.map toAsciiLowercase = right.map toAsciiLowercase := eq_of_beq same
  unfold isHopField eqIgnoreAsciiCase
  rw [folded]

/-- The fields of one name are all kept or all dropped. -/
theorem fieldValues_filterHopByHopHeaders (name headers : Bytes) :
    fieldValues name (filterHopByHopHeaders headers) =
      if isHopField (connectionTokens headers) name then [] else fieldValues name headers := by
  unfold fieldValues
  rw [iterHeaderLines_filterHopByHopHeaders]
  -- A field of the name is kept exactly if the name is no hop-by-hop name.
  have decides : ∀ {line value}, valueIfNamed name line = some value →
      keepsLine (connectionTokens headers) line =
        !isHopField (connectionTokens headers) name := by
    intro line value named
    unfold valueIfNamed at named
    unfold keepsLine
    split at named
    · exact absurd named nofun
    · next fieldName _ _ =>
        split at named
        · next same =>
            exact congrArg (! ·) (isHopField_congr same)
        · exact absurd named nofun
  induction iterHeaderLines headers with
  | nil => exact (ite_self _).symm
  | cons line lines inductionHypothesis =>
      cases named : valueIfNamed name line with
      | none =>
          rw [List.filterMap_cons_none named, ← inductionHypothesis]
          by_cases kept : keepsLine (connectionTokens headers) line = true
          · rw [List.filter_cons_of_pos kept, List.filterMap_cons_none named]
          · rw [List.filter_cons_of_neg kept]
      | some value =>
          have kept := decides named
          rw [List.filterMap_cons_some named]
          by_cases hop : isHopField (connectionTokens headers) name = true
          · rw [if_pos hop] at inductionHypothesis ⊢
            rw [List.filter_cons_of_neg (by rw [kept, hop]; exact Bool.false_ne_true),
              inductionHypothesis]
          · rw [if_neg hop] at inductionHypothesis ⊢
            rw [List.filter_cons_of_pos (by rw [kept, Bool.eq_false_iff.mpr hop]; rfl),
              List.filterMap_cons_some named, inductionHypothesis]

theorem isHopField_transferEncoding (tokens : List Bytes) :
    isHopField tokens transferEncodingName = true := by
  have fixed : hopByHop.any (eqIgnoreAsciiCase transferEncodingName) = true := by decide
  rw [isHopField, fixed, Bool.true_or]

theorem isHopField_contentLength (tokens : List Bytes) :
    isHopField tokens contentLengthName = tokens.contains contentLengthName := by
  have notFixed : hopByHop.any (eqIgnoreAsciiCase contentLengthName) = false := by decide
  have folded : contentLengthName.map toAsciiLowercase = contentLengthName := by decide
  rw [isHopField, notFixed, folded, Bool.false_or]

/-- The output of the filter is never announced as chunked. -/
theorem announcesChunked_filterHopByHopHeaders (headers : Bytes) :
    announcesChunked (filterHopByHopHeaders headers) = false := by
  unfold announcesChunked transferCodings
  rw [fieldValues_filterHopByHopHeaders, if_pos (isHopField_transferEncoding _)]
  rfl

/-- The filter preserves the announced framing exactly for blocks that are not
chunked and whose content lengths, if any, are not named by `Connection`. -/
theorem framing_kept_iff (headers : Bytes) :
    announcedFraming (filterHopByHopHeaders headers) = announcedFraming headers ↔
      announcesChunked headers = false ∧
        (fieldValues contentLengthName headers = [] ∨
          contentLengthName ∉ connectionTokens headers) := by
  have output : announcedFraming (filterHopByHopHeaders headers) =
      match if contentLengthName ∈ connectionTokens headers then []
        else fieldValues contentLengthName headers with
      | [] => .noBody
      | values => .contentLength values := by
    unfold announcedFraming
    rw [announcesChunked_filterHopByHopHeaders, if_neg Bool.false_ne_true,
      fieldValues_filterHopByHopHeaders, isHopField_contentLength]
    simp only [List.contains_iff_mem]
  rw [output]
  unfold announcedFraming
  by_cases chunked : announcesChunked headers = true
  · rw [if_pos chunked, chunked]
    constructor
    · intro same
      split at same
      · exact absurd same nofun
      · exact absurd same nofun
    · rintro ⟨impossible, -⟩
      exact absurd impossible nofun
  · rw [if_neg chunked]
    by_cases named : contentLengthName ∈ connectionTokens headers
    · rw [if_pos named]
      cases lengths : fieldValues contentLengthName headers with
      | nil => exact ⟨fun _ => ⟨Bool.eq_false_iff.mpr chunked, .inl rfl⟩, fun _ => rfl⟩
      | cons value values =>
          constructor
          · intro same
            exact absurd same nofun
          · rintro ⟨-, impossible | notNamed⟩
            · exact absurd impossible nofun
            · exact absurd named notNamed
    · rw [if_neg named]
      exact ⟨fun _ => ⟨Bool.eq_false_iff.mpr chunked, .inr named⟩, fun _ => rfl⟩

end SimpleForwarder
