import SimpleForwarder.Arrival
import SimpleForwarder.ProxyServer.Http

/-!
Contract: HTTP heads are framed by their bytes alone.

Owns: what the two head readers, `read_http_headers` and the response loop of
`http_connect`, come to on every stream and every way of cutting it into reads
(`FramesHead`), and that no outcome depends on the cuts
(`heads_are_framed`).

The buffer of a reader grows by what it reads, so a bound on all bytes read is
a bound on the buffer at every point.

Does not own: what a head says.
-/

namespace SimpleForwarder

open RustText EffectProgram Program

/-- A head within the limit. -/
def HeadWithin (limit : Nat) (stream : Bytes) : Prop := ∃ size ≤ limit, IsHeadEnd stream size

/-- What the reading of a head comes to. `stream` is everything that is sent,
`bytes` what has been read of it, both with what was handed over before. -/
structure FramesHead (limit : Nat) (errors : HeadErrors) (closes : Bool) (stream bytes : Bytes)
    (outcome : Outcome Text (Bytes × Bytes)) : Prop where
  fromStream : bytes <+: stream
  bounded : bytes.length ≤ limit + 1024
  accepts_iff : (∃ head leftover, outcome = .returned (head, leftover)) ↔ HeadWithin limit stream
  split : ∀ head leftover, outcome = .returned (head, leftover) →
    head ++ leftover = bytes ∧ ∀ size, IsHeadEnd stream size → head = stream.take size
  tooLong : ¬ HeadWithin limit stream → limit < stream.length → outcome = .failed errors.tooLong
  ended : ¬ HeadWithin limit stream → stream.length ≤ limit →
    outcome = if closes then .failed errors.closed else .cut

/-- What an outcome says about the head, without the leftover. -/
def headOf : Outcome Text (Bytes × Bytes) → Outcome Text Bytes
  | .returned (head, _) => .returned head
  | .failed error => .failed error
  | .cut => .cut

variable {limit : Nat} {errors : HeadErrors} {closes : Bool} {stream bytes : Bytes}
  {outcome : Outcome Text (Bytes × Bytes)}

namespace FramesHead

/-- Two readings of one stream find the same head, or fail alike. -/
theorem headOf_eq {otherBytes : Bytes} {otherOutcome : Outcome Text (Bytes × Bytes)}
    (frames : FramesHead limit errors closes stream bytes outcome)
    (other : FramesHead limit errors closes stream otherBytes otherOutcome) :
    headOf outcome = headOf otherOutcome := by
  by_cases within : HeadWithin limit stream
  · obtain ⟨head, leftover, rfl⟩ := frames.accepts_iff.mpr within
    obtain ⟨otherHead, otherLeftover, rfl⟩ := other.accepts_iff.mpr within
    obtain ⟨size, -, headEnd⟩ := within
    have headEq := (frames.split head leftover rfl).2 size headEnd
    have otherEq := (other.split otherHead otherLeftover rfl).2 size headEnd
    rw [headEq, otherEq]
    rfl
  · rcases Nat.lt_or_ge limit stream.length with long | short
    · rw [frames.tooLong within long, other.tooLong within long]
    · rw [frames.ended within short, other.ended within short]

/-- An accepted head. -/
theorem of_head {size : Nat} (headEnd : IsHeadEnd bytes size) (atMost : size ≤ limit)
    (rest : Bytes) (bounded : bytes.length ≤ limit + 1024) :
    FramesHead limit errors closes (bytes ++ rest) bytes
      (.returned (bytes.take size, bytes.drop size)) where
  fromStream := List.prefix_append bytes rest
  bounded := bounded
  accepts_iff := ⟨fun _ => ⟨size, atMost, headEnd.append rest⟩, fun _ => ⟨_, _, rfl⟩⟩
  split := by
    intro head leftover same
    cases same
    refine ⟨List.take_append_drop size bytes, fun other otherEnd => ?_⟩
    rw [otherEnd.unique (headEnd.append rest), List.take_append_of_le_length headEnd.inside]
  tooLong := fun without => absurd ⟨size, atMost, headEnd.append rest⟩ without
  ended := fun without => absurd ⟨size, atMost, headEnd.append rest⟩ without

/-- A stream that exceeds the limit before its head ends. -/
theorem of_tooLong (without : ¬ HeadWithin limit (bytes ++ stream)) (long : limit < bytes.length)
    (bounded : bytes.length ≤ limit + 1024) :
    FramesHead limit errors closes (bytes ++ stream) bytes (.failed errors.tooLong) where
  fromStream := List.prefix_append bytes stream
  bounded := bounded
  accepts_iff := ⟨fun ⟨_, _, impossible⟩ => absurd impossible nofun, fun within =>
    absurd within without⟩
  split := nofun
  tooLong := fun _ _ => rfl
  ended := by
    intro _ short
    rw [List.length_append] at short
    omega

/-- A stream that ends before its head does. -/
theorem of_ended (without : ¬ HeadWithin limit bytes) (short : bytes.length ≤ limit) :
    FramesHead limit errors closes bytes bytes
      (if closes then .failed errors.closed else .cut) where
  fromStream := List.prefix_rfl
  bounded := Nat.le_add_right_of_le short
  accepts_iff := by
    refine ⟨fun ⟨_, _, impossible⟩ => ?_, fun within => absurd within without⟩
    cases closes with
    | true => exact absurd impossible nofun
    | false => exact absurd impossible nofun
  split := by
    cases closes with
    | true => exact nofun
    | false => exact nofun
  tooLong := fun _ long => absurd long (Nat.not_lt.mpr short)
  ended := fun _ _ => rfl

end FramesHead

/-- A head ends after the bytes in which no separator ends. -/
theorem not_headWithin_of_none {rest : Bytes} (long : limit < bytes.length)
    (none : ∀ size ≤ bytes.length, ¬ EndsWithSeparator (bytes.take size)) :
    ¬ HeadWithin limit (bytes ++ rest) := by
  rintro ⟨size, atMost, headEnd⟩
  have inside : size ≤ bytes.length := by omega
  have ends := headEnd.ends
  rw [List.take_append_of_le_length inside] at ends
  exact none size inside ends

/-- The loop of the readers, by the number of iterations left. Each iteration
adds a byte, so they do not run out. -/
theorem exec_readHeadLoop {peer : Peer} {time fuel startPos : Nat} {rest : Bytes}
    (cutting : Cutting 1024 rest)
    (fresh : ∀ earlier ≤ startPos, ¬ EndsWithSeparator (bytes.take earlier))
    (bounded : bytes.length ≤ limit + 1024) (enough : limit + 2 ≤ fuel + bytes.length)
    (positive : 0 < fuel) :
    let run := exec (Arrival.answer peer) time
      (readHeadLoop peer limit errors fuel bytes startPos) (cutting.arrival closes)
    FramesHead limit errors closes (bytes ++ rest) (bytes ++ received peer run.1) run.2 := by
  induction fuel generalizing bytes startPos rest with
  | zero => exact absurd positive (Nat.lt_irrefl 0)
  | succ fuel inductionHypothesis =>
      unfold readHeadLoop
      split
      · next size found =>
          have headEnd := (findHeaderSeparator_eq_some_iff fresh).mp found
          have inside := headEnd.inside
          split
          · next long =>
              have without : ¬ HeadWithin limit (bytes ++ rest) := by
                rintro ⟨other, atMost, otherEnd⟩
                have same := otherEnd.unique (headEnd.append rest)
                omega
              simp only [exec, received_nil, List.append_nil]
              exact FramesHead.of_tooLong without (by omega) bounded
          · next short =>
              simp only [exec, received_nil, List.append_nil]
              exact FramesHead.of_head headEnd (Nat.le_of_not_lt short) rest bounded
      · next missed =>
          have none := (findHeaderSeparator_eq_none_iff fresh).mp missed
          split
          · next long =>
              simp only [exec, received_nil, List.append_nil]
              exact FramesHead.of_tooLong (not_headWithin_of_none long none) long bounded
          · next short =>
              rcases cutting.eq_nil_or_cons with
                ⟨rfl, nothing⟩ | ⟨chunk, later, rest, nonempty, fits, rfl, first⟩
              · have without : ¬ HeadWithin limit bytes := by
                  rintro ⟨size, -, headEnd⟩
                  exact none size headEnd.inside headEnd.ends
                have ended : FramesHead limit errors closes bytes bytes
                    (if closes then .failed errors.closed else .cut) :=
                  FramesHead.of_ended without (Nat.le_of_not_lt short)
                rw [Cutting.arrival, nothing, exec_read_nil]
                cases closes with
                | true => simpa [exec, receivedBy] using ended
                | false => simpa [receivedBy] using ended
              · rw [Cutting.arrival, first, exec_read_cons fits]
                have resumed : ∀ earlier ≤ bytes.length,
                    ¬ EndsWithSeparator ((bytes ++ chunk).take earlier) := by
                  intro earlier inside
                  rw [List.take_append_of_le_length inside]
                  exact none earlier inside
                have grown : (bytes ++ chunk).length = bytes.length + chunk.length :=
                  List.length_append
                have advances : 0 < chunk.length := List.length_pos_iff.mpr nonempty
                have next := inductionHypothesis rest resumed (by omega) (by omega) (by omega)
                simpa [exec, received_cons, receivedBy, nonempty, Cutting.arrival] using next

theorem exec_readHead {peer : Peer} {time : Nat} {rest : Bytes} (cutting : Cutting 1024 rest)
    (handedOver : bytes.length ≤ limit + 1024) :
    let run := exec (Arrival.answer peer) time (readHead peer limit errors bytes)
      (cutting.arrival closes)
    FramesHead limit errors closes (bytes ++ rest) (bytes ++ received peer run.1) run.2 :=
  exec_readHeadLoop cutting (fresh_at_start bytes) handedOver (Nat.le_add_right _ _)
    (Nat.succ_pos _)

/-- The reading of a request head. -/
def readRequestHead (firstByte : UInt8) (time : Nat) (arrival : Arrival) :
    List SocketEvent × Outcome Text (Bytes × Bytes) :=
  exec (Arrival.answer .client) time (readHttpHeaders firstByte) arrival

/-- The response loop of `http_connect`. -/
def readResponseHead (time : Nat) (arrival : Arrival) :
    List SocketEvent × Outcome Text (Bytes × Bytes) :=
  exec (Arrival.answer .target) time
    (readHead .target connectResponseMaxLen connectResponseErrors []) arrival

theorem readRequestHead_frames (firstByte : UInt8) {rest : Bytes} (cutting : Cutting 1024 rest)
    (closes : Bool) (time : Nat) :
    let run := readRequestHead firstByte time (cutting.arrival closes)
    FramesHead httpHeaderMaxLen httpHeaderErrors closes (firstByte :: rest)
      (firstByte :: received .client run.1) run.2 := by
  have handedOver : [firstByte].length ≤ httpHeaderMaxLen + 1024 := Nat.le_add_left 1 _
  exact exec_readHead cutting handedOver

theorem readResponseHead_frames {stream : Bytes} (cutting : Cutting 1024 stream) (closes : Bool)
    (time : Nat) :
    let run := readResponseHead time (cutting.arrival closes)
    FramesHead connectResponseMaxLen connectResponseErrors closes stream
      (received .target run.1) run.2 := by
  have handedOver : ([] : Bytes).length ≤ connectResponseMaxLen + 1024 := Nat.zero_le _
  exact exec_readHead cutting handedOver

/-- `http_connect` writes its request, runs the response loop and judges the
head it yields. -/
theorem exec_httpConnect (host : Text) (port : UInt16) (time : Nat) (arrival : Arrival) :
    exec (Arrival.answer .target) time (httpConnect host port) arrival =
      (⟨.writeAll .target (asBytes (connectRequest host port)), time, .ready (.ok ())⟩ ::
          (readResponseHead time arrival).1,
        (readResponseHead time arrival).2.andThen fun (response, leftover) =>
          (checkConnectResponse response).map fun () => leftover) := by
  have shape : httpConnect host port =
      (writeAll .target (asBytes (connectRequest host port))).bind fun () =>
        (readHead .target connectResponseMaxLen connectResponseErrors []).bind fun value =>
          (settle (checkConnectResponse value.1)).bind fun () => .ret value.2 := rfl
  rw [shape, exec_writeAll, exec_bind_settle]
  rfl

/-- Both head readers accept exactly the streams with a head within their
limit, whatever the cuts: the head they return, and the failure otherwise, are
functions of the stream. -/
theorem heads_are_framed (closes : Bool) (time : Nat) :
    (∀ (firstByte : UInt8) (rest : Bytes) (cutting : Cutting 1024 rest),
      let run := readRequestHead firstByte time (cutting.arrival closes)
      FramesHead httpHeaderMaxLen httpHeaderErrors closes (firstByte :: rest)
          (firstByte :: received .client run.1) run.2 ∧
        ∀ other : Cutting 1024 rest,
          headOf run.2 = headOf (readRequestHead firstByte time (other.arrival closes)).2) ∧
    (∀ (stream : Bytes) (cutting : Cutting 1024 stream),
      let run := readResponseHead time (cutting.arrival closes)
      FramesHead connectResponseMaxLen connectResponseErrors closes stream
          (received .target run.1) run.2 ∧
        (∀ other : Cutting 1024 stream,
          headOf run.2 = headOf (readResponseHead time (other.arrival closes)).2) ∧
        ∀ (host : Text) (port : UInt16),
          (exec (Arrival.answer .target) time (httpConnect host port) (cutting.arrival closes)).2 =
            run.2.andThen fun (response, leftover) =>
              (checkConnectResponse response).map fun () => leftover) := by
  constructor
  · intro firstByte rest cutting
    have frames := readRequestHead_frames firstByte cutting closes time
    exact ⟨frames, fun other => frames.headOf_eq (readRequestHead_frames firstByte other _ _)⟩
  · intro stream cutting
    have frames := readResponseHead_frames cutting closes time
    refine ⟨frames, fun other => ?_, fun host port => ?_⟩
    · exact frames.headOf_eq (readResponseHead_frames other _ _)
    · rw [exec_httpConnect]

end SimpleForwarder
