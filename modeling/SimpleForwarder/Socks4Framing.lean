import SimpleForwarder.Arrival
import SimpleForwarder.Lib.Framing
import SimpleForwarder.ProxyServer.Socks4

/-!
Contract: the SOCKS4 and SOCKS4a grammar is read from the bytes alone.

Owns: which client streams `handle_socks4` accepts, whatever the cuts
(`socks4_grammar`), what it has read of them, and that none of its slices and
splits is out of bounds.

The source slices and splits the buffer with operations that panic behind its
end. `readSocks4RequestChecked` makes each of them an explicit check, `none`
being the panic; it is the same program as `readSocks4Request`.

Does not own: the connection attempt.
-/

namespace SimpleForwarder

open RustText IpText EffectProgram Program Framing

/-! ## The handler with explicit bounds -/

/-- `&buf[start..]`. -/
def sliceFrom (buf : Bytes) (start : Nat) : Option Bytes :=
  if start ≤ buf.length then some (buf.drop start) else none

/-- `&buf[..stop]`. -/
def sliceTo (buf : Bytes) (stop : Nat) : Option Bytes :=
  if stop ≤ buf.length then some (buf.take stop) else none

/-- `BytesMut::split_to`: the part before `position`, and the rest. -/
def splitTo (buf : Bytes) (position : Nat) : Option (Bytes × Bytes) :=
  if position ≤ buf.length then some (buf.take position, buf.drop position) else none

def Socks4Ends.scanChecked (ends : Socks4Ends) (isSocks4a : Bool) (buf : Bytes) :
    Option Socks4Ends :=
  let userIdEnd :=
    match ends.userIdEnd with
    | some uEnd => some uEnd
    | none => nulPosition buf
  match ends.domainEnd, userIdEnd with
  | some dEnd, _ => some ⟨userIdEnd, some dEnd⟩
  | none, some uEnd =>
      if isSocks4a then
        (sliceFrom buf (uEnd + 1)).map fun slice =>
          ⟨userIdEnd, (nulPosition slice).map (uEnd + 1 + ·)⟩
      else some ⟨userIdEnd, none⟩
  | none, none => some ⟨userIdEnd, none⟩

def readSocks4FieldsChecked (isSocks4a : Bool) :
    (fuel : Nat) → (buf : Bytes) → Socks4Ends → Async (Option (Bytes × Socks4Ends))
  | 0, _, _ => .fail "SOCKS4 handshake data too long".toList
  | fuel + 1, buf, ends =>
      match ends.scanChecked isSocks4a buf with
      | none => .ret none
      | some ends =>
          if ends.userIdEnd.isSome && (!isSocks4a || ends.domainEnd.isSome) then
            .ret (some (buf, ends))
          else if buf.length > socks4HandshakeMaxLen then
            .fail "SOCKS4 handshake data too long".toList
          else
            (read .client 256).bind fun chunk =>
              if chunk.bytes = [] then .fail "Connection closed during SOCKS4 handshake".toList
              else readSocks4FieldsChecked isSocks4a fuel (buf ++ chunk.bytes) ends

def splitSocks4FieldsChecked (isSocks4a : Bool) (addr : Ipv4Addr) (buf : Bytes)
    (ends : Socks4Ends) : Option (Except Text (Text × Bytes)) :=
  match ends.userIdEnd with
  | none => some (.error "SOCKS4: missing User ID terminator".toList)
  | some uEnd =>
      if uEnd > 255 then
        some (.error ("SOCKS4: User ID too long (".toList ++ decimal uEnd ++ " bytes)".toList))
      else do
        let (_userId, buf) ← splitTo buf (uEnd + 1)
        if isSocks4a then
          match ends.domainEnd with
          | none => some (.error "SOCKS4a: missing domain name terminator".toList)
          | some dEnd => do
              let domainLen ← checkedSub dEnd (uEnd + 1)
              if domainLen > 253 then
                some (.error ("SOCKS4a: domain name too long (".toList ++ decimal domainLen ++
                  " bytes)".toList))
              else do
                let (domain, buf) ← splitTo buf (domainLen + 1)
                let name ← sliceTo domain domainLen
                some (.ok (fromUtf8Lossy name, buf))
        else some (.ok (addr.toText, buf))

/-- `handle_socks4` up to the connection attempt; `none` is a panic. -/
def readSocks4RequestChecked : Async (Option Socks4Request) := do
  let header ← readExact .client 7
  let cmd := byteAt 0 header
  if cmd ≠ 0x01 then do
    sendSocks4Reply 0x5B
    .fail ("Unsupported SOCKS4 command: ".toList ++ decimal cmd.toNat)
  else do
    let port := fromBeBytes (byteAt 1 header) (byteAt 2 header)
    let addr : Ipv4Addr := ⟨byteAt 3 header, byteAt 4 header, byteAt 5 header, byteAt 6 header⟩
    let isSocks4a := isSocks4aAddr addr
    match ← readSocks4FieldsChecked isSocks4a (socks4HandshakeMaxLen + 2) [] ⟨none, none⟩ with
    | none => pure none
    | some (buf, ends) =>
        match splitSocks4FieldsChecked isSocks4a addr buf ends with
        | none => pure none
        | some fields => do
            let (host, leftover) ← settle fields
            pure (some ⟨host, port, isSocks4a, if isSocks4a then none else some (.v4 addr),
              leftover⟩)

/-- The positions found lie inside the buffer, the domain behind the user id. -/
structure Socks4Ends.InBounds (ends : Socks4Ends) (buf : Bytes) : Prop where
  userId : ∀ uEnd, ends.userIdEnd = some uEnd → uEnd < buf.length
  domain : ∀ dEnd, ends.domainEnd = some dEnd →
    ∃ uEnd, ends.userIdEnd = some uEnd ∧ uEnd < dEnd ∧ dEnd < buf.length

namespace Socks4Ends.InBounds

variable {ends : Socks4Ends} {isSocks4a : Bool} {buf : Bytes}

theorem append (inBounds : ends.InBounds buf) (more : Bytes) : ends.InBounds (buf ++ more) where
  userId := by
    intro uEnd found
    have inside := inBounds.userId uEnd found
    rw [List.length_append]
    omega
  domain := by
    intro dEnd found
    obtain ⟨uEnd, userId, before, inside⟩ := inBounds.domain dEnd found
    refine ⟨uEnd, userId, before, ?_⟩
    rw [List.length_append]
    omega

theorem sliceFrom_eq_some {start : Nat} (inside : start ≤ buf.length) :
    sliceFrom buf start = some (buf.drop start) :=
  if_pos inside

/-- A terminator behind the user id. -/
theorem behind {uEnd : Nat} (inside : uEnd < buf.length) :
    Socks4Ends.InBounds ⟨some uEnd,
      if isSocks4a then (nulPosition (buf.drop (uEnd + 1))).map (uEnd + 1 + ·) else none⟩ buf where
  userId := by
    intro position same
    cases same
    exact inside
  domain := by
    intro dEnd found
    cases isSocks4a with
    | false => exact absurd found nofun
    | true =>
        obtain ⟨position, isFound, rfl⟩ := Option.map_eq_some_iff.mp found
        have last := nulPosition_lt isFound
        rw [List.length_drop] at last
        exact ⟨uEnd, rfl, by omega, by omega⟩

/-- The scan slices inside the buffer and finds positions inside it. -/
theorem scan (isSocks4a : Bool) (inBounds : ends.InBounds buf) :
    ends.scanChecked isSocks4a buf = some (ends.scan isSocks4a buf) ∧
      (ends.scan isSocks4a buf).InBounds buf := by
  obtain ⟨userIdEnd, domainEnd⟩ := ends
  cases domainEnd with
  | some dEnd =>
      obtain ⟨uEnd, rfl, -⟩ := inBounds.domain dEnd rfl
      exact ⟨rfl, inBounds⟩
  | none =>
      have fresh : ∀ {uEnd : Nat}, uEnd < buf.length →
          (Socks4Ends.mk (some uEnd) none).scanChecked isSocks4a buf =
            some ((Socks4Ends.mk (some uEnd) none).scan isSocks4a buf) := by
        intro uEnd inside
        cases isSocks4a with
        | false => rfl
        | true =>
            simp only [Socks4Ends.scanChecked, Socks4Ends.scan, if_true,
              sliceFrom_eq_some (Nat.succ_le_of_lt inside), Option.map_some]
      cases userIdEnd with
      | some uEnd =>
          have inside := inBounds.userId uEnd rfl
          exact ⟨fresh inside, behind inside⟩
      | none =>
          cases found : nulPosition buf with
          | none =>
              simp only [Socks4Ends.scanChecked, Socks4Ends.scan, found, true_and]
              exact inBounds
          | some uEnd =>
              have inside := nulPosition_lt found
              have checked := fresh inside
              simp only [Socks4Ends.scanChecked, Socks4Ends.scan, found] at checked ⊢
              exact ⟨checked, behind inside⟩

end Socks4Ends.InBounds

/-- The splits lie inside the buffer. -/
theorem splitSocks4FieldsChecked_eq {isSocks4a : Bool} {addr : Ipv4Addr} {buf : Bytes}
    {ends : Socks4Ends} (inBounds : ends.InBounds buf) :
    splitSocks4FieldsChecked isSocks4a addr buf ends =
      some (splitSocks4Fields isSocks4a addr buf ends) := by
  unfold splitSocks4FieldsChecked splitSocks4Fields
  obtain ⟨userIdEnd, domainEnd⟩ := ends
  cases userIdEnd with
  | none => rfl
  | some uEnd =>
      have inside := inBounds.userId uEnd rfl
      have split : splitTo buf (uEnd + 1) = some (buf.take (uEnd + 1), buf.drop (uEnd + 1)) :=
        if_pos inside
      dsimp only
      split
      · rfl
      · rw [split]
        dsimp only [Option.bind_eq_bind, Option.bind_some]
        cases isSocks4a with
        | false => rfl
        | true =>
            cases domainEnd with
            | none => rfl
            | some dEnd =>
                obtain ⟨_, same, before, last⟩ := inBounds.domain dEnd rfl
                cases same
                have sub : checkedSub dEnd (uEnd + 1) = some (dEnd - (uEnd + 1)) := if_pos before
                simp only [if_true, sub, Option.bind_some]
                by_cases long : dEnd - (uEnd + 1) > 253
                · rw [if_pos long, if_pos long]
                · let domainLen := dEnd - (uEnd + 1)
                  have domainSplit : splitTo (buf.drop (uEnd + 1)) (domainLen + 1) =
                      some ((buf.drop (uEnd + 1)).take (domainLen + 1),
                        (buf.drop (uEnd + 1)).drop (domainLen + 1)) := by
                    apply if_pos
                    rw [List.length_drop]
                    omega
                  have name : sliceTo ((buf.drop (uEnd + 1)).take (domainLen + 1)) domainLen =
                      some ((buf.drop (uEnd + 1)).take domainLen) := by
                    have shorter : domainLen ≤
                        ((buf.drop (uEnd + 1)).take (domainLen + 1)).length := by
                      rw [List.length_take, List.length_drop]
                      omega
                    rw [sliceTo, if_pos shorter, List.take_take, Nat.min_eq_left (Nat.le_succ _)]
                  rw [if_neg long, if_neg long, domainSplit, Option.bind_some, name,
                    Option.bind_some]

/-- The loop with explicit bounds, followed by what agrees on positions inside
the buffer. -/
theorem readSocks4FieldsChecked_bind {isSocks4a : Bool} {α : Type}
    {checkedRest : Option (Bytes × Socks4Ends) → Async α} {rest : Bytes × Socks4Ends → Async α}
    (agree : ∀ buf ends, ends.InBounds buf → checkedRest (some (buf, ends)) = rest (buf, ends))
    (fuel : Nat) {buf : Bytes} {ends : Socks4Ends} (inBounds : ends.InBounds buf) :
    (readSocks4FieldsChecked isSocks4a fuel buf ends).bind checkedRest =
      (readSocks4Fields isSocks4a fuel buf ends).bind rest := by
  induction fuel generalizing buf ends with
  | zero => rfl
  | succ fuel inductionHypothesis =>
      obtain ⟨scanned, found⟩ := inBounds.scan isSocks4a
      unfold readSocks4FieldsChecked readSocks4Fields
      rw [scanned]
      dsimp only
      split
      · exact agree buf _ found
      · split
        · rfl
        · rw [bind_bind, bind_bind]
          congr 1
          funext chunk
          split
          · rfl
          · exact inductionHypothesis (found.append chunk.bytes)

/-- No slice or split of the handler is out of bounds: in every environment it
runs as if none were checked. -/
theorem readSocks4RequestChecked_eq :
    readSocks4RequestChecked = readSocks4Request.bind fun request => .ret (some request) := by
  have start : Socks4Ends.InBounds ⟨none, none⟩ [] := ⟨nofun, nofun⟩
  unfold readSocks4RequestChecked readSocks4Request
  simp only [bind_eq, pure_eq, bind_bind]
  congr 1
  funext header
  split
  · simp only [bind_bind]
    rfl
  · simp only [bind_bind]
    apply readSocks4FieldsChecked_bind _ _ start
    intro buf ends inBounds
    dsimp only
    rw [splitSocks4FieldsChecked_eq inBounds]
    rfl

/-! ## The fields are complete -/

/-- A scan of the bytes finds the terminators that end the request. -/
def hasFields (isSocks4a : Bool) (bytes : Bytes) : Bool :=
  let ends := Socks4Ends.scan ⟨none, none⟩ isSocks4a bytes
  ends.userIdEnd.isSome && (!isSocks4a || ends.domainEnd.isSome)

/-- The fields as they are sent. -/
def fieldBytes (isSocks4a : Bool) (userId domain : Bytes) : Bytes :=
  userId ++ 0 :: if isSocks4a then domain ++ [0] else []

theorem scan_of_hasFields {isSocks4a : Bool} {bytes : Bytes}
    (complete : hasFields isSocks4a bytes = true) (more : Bytes) :
    Socks4Ends.scan ⟨none, none⟩ isSocks4a (bytes ++ more) =
      Socks4Ends.scan ⟨none, none⟩ isSocks4a bytes := by
  rw [← Socks4Ends.scan_scan]
  unfold hasFields at complete
  generalize Socks4Ends.scan ⟨none, none⟩ isSocks4a bytes = found at complete
  obtain ⟨userIdEnd, domainEnd⟩ := found
  cases userIdEnd with
  | none => exact absurd complete nofun
  | some uEnd =>
      cases domainEnd with
      | some dEnd => rfl
      | none =>
          cases isSocks4a with
          | false => rfl
          | true => exact absurd complete nofun

theorem hasFields_append {isSocks4a : Bool} {bytes : Bytes}
    (complete : hasFields isSocks4a bytes = true) (more : Bytes) :
    hasFields isSocks4a (bytes ++ more) = true := by
  unfold hasFields
  rw [scan_of_hasFields complete]
  exact complete

section

variable {isSocks4a : Bool} {userId domain : Bytes}

/-- The terminators of the fields are found where they were written. -/
theorem scan_fieldBytes (isSocks4a : Bool) (noNul : 0 ∉ userId) (noNulDomain : 0 ∉ domain)
    (payload : Bytes) :
    Socks4Ends.scan ⟨none, none⟩ isSocks4a (fieldBytes isSocks4a userId domain ++ payload) =
      ⟨some userId.length,
        if isSocks4a then some (userId.length + 1 + domain.length) else none⟩ := by
  let after := (if isSocks4a then domain ++ [0] else []) ++ payload
  have shape : fieldBytes isSocks4a userId domain ++ payload = userId ++ 0 :: after := by
    simp [fieldBytes, after]
  have found : nulPosition (userId ++ 0 :: after) = some userId.length :=
    nulPosition_eq_some_iff.mpr ⟨userId, after, rfl, noNul, rfl⟩
  rw [shape]
  cases isSocks4a with
  | false => simp only [Socks4Ends.scan, found, if_neg Bool.false_ne_true]
  | true =>
      have afterShape : after = domain ++ 0 :: payload := by simp [after]
      have foundDomain : nulPosition after = some domain.length :=
        nulPosition_eq_some_iff.mpr ⟨domain, payload, afterShape, noNulDomain, rfl⟩
      simp only [Socks4Ends.scan, found, if_true, drop_after_nul, foundDomain, Option.map_some]

theorem hasFields_fieldBytes (noNul : 0 ∉ userId) (noNulDomain : 0 ∉ domain) :
    hasFields isSocks4a (fieldBytes isSocks4a userId domain) = true := by
  have scanned := scan_fieldBytes isSocks4a noNul noNulDomain []
  rw [List.append_nil] at scanned
  unfold hasFields
  rw [scanned]
  cases isSocks4a with
  | false => rfl
  | true => rfl

/-- Bytes that hold the fields, and belong to a stream that begins with them,
begin with them. -/
theorem fieldBytes_prefix (noNul : 0 ∉ userId) (noNulDomain : 0 ∉ domain) {bytes payload : Bytes}
    (fromStream : bytes <+: fieldBytes isSocks4a userId domain ++ payload)
    (complete : hasFields isSocks4a bytes = true) :
    fieldBytes isSocks4a userId domain <+: bytes := by
  obtain ⟨more, same⟩ := fromStream
  have scanned := scan_of_hasFields complete more
  rw [same, scan_fieldBytes _ noNul noNulDomain] at scanned
  have empty : Socks4Ends.InBounds ⟨none, none⟩ bytes := ⟨nofun, nofun⟩
  have inBounds := (empty.scan isSocks4a).2
  rw [← scanned] at inBounds
  have covered : (fieldBytes isSocks4a userId domain).length ≤ bytes.length := by
    cases isSocks4a with
    | false =>
        have inside := inBounds.userId _ rfl
        simp only [fieldBytes, if_neg Bool.false_ne_true, List.length_append, List.length_cons,
          List.length_nil]
        omega
    | true =>
        obtain ⟨_, -, -, inside⟩ := inBounds.domain _ rfl
        simp only [fieldBytes, if_true, List.length_append, List.length_cons, List.length_nil]
        omega
  exact List.prefix_of_prefix_length_le (List.prefix_append _ payload) ⟨more, same⟩ covered

/-- Fields within the limits are accepted, and what follows them is leftover. -/
theorem splitSocks4Fields_fieldBytes (isSocks4a : Bool) (noNul : 0 ∉ userId)
    (noNulDomain : 0 ∉ domain)
    (short : userId.length ≤ 255) (shortDomain : domain.length ≤ 253) (addr : Ipv4Addr)
    (leftover : Bytes) :
    splitSocks4Fields isSocks4a addr (fieldBytes isSocks4a userId domain ++ leftover)
        (Socks4Ends.scan ⟨none, none⟩ isSocks4a
          (fieldBytes isSocks4a userId domain ++ leftover)) =
      .ok (if isSocks4a then fromUtf8Lossy domain else addr.toText, leftover) := by
  have afterUserId : (fieldBytes isSocks4a userId domain ++ leftover).drop (userId.length + 1) =
      (if isSocks4a then domain ++ [0] else []) ++ leftover := by
    rw [fieldBytes, List.append_assoc, List.cons_append, drop_after_nul]
  unfold splitSocks4Fields
  rw [scan_fieldBytes _ noNul noNulDomain]
  dsimp only
  rw [if_neg (Nat.not_lt.mpr short), afterUserId]
  cases isSocks4a with
  | false => rfl
  | true =>
      simp only [if_true, Nat.add_sub_cancel_left]
      rw [if_neg (Nat.not_lt.mpr shortDomain), List.append_assoc, List.take_left' rfl,
        List.singleton_append, drop_after_nul]

end

/-! ## The loop under every cut -/

/-- What the reading of the fields comes to. -/
structure ReadsFields (isSocks4a : Bool) (stream bytes : Bytes)
    (outcome : Outcome Text (Bytes × Socks4Ends)) : Prop where
  bounded : bytes.length ≤ socks4HandshakeMaxLen + 256
  accepts : ∀ fields, fields <+: stream → fields.length ≤ socks4HandshakeMaxLen →
    hasFields isSocks4a fields = true → hasFields isSocks4a bytes = true ∧
      outcome = .returned (bytes, Socks4Ends.scan ⟨none, none⟩ isSocks4a bytes)

theorem exec_readSocks4Fields {isSocks4a : Bool} {time fuel : Nat} {buf rest : Bytes}
    {ends : Socks4Ends} {closes : Bool} (cutting : Cutting 256 rest)
    (sound : ∀ more, ends.scan isSocks4a (buf ++ more) =
      Socks4Ends.scan ⟨none, none⟩ isSocks4a (buf ++ more))
    (bounded : buf.length ≤ socks4HandshakeMaxLen + 256)
    (enough : socks4HandshakeMaxLen + 2 ≤ fuel + buf.length) (positive : 0 < fuel) :
    let run := exec (Arrival.answer .client) time (readSocks4Fields isSocks4a fuel buf ends)
      (cutting.arrival closes)
    ReadsFields isSocks4a (buf ++ rest) (buf ++ received .client run.1) run.2 := by
  induction fuel generalizing buf rest ends with
  | zero => exact absurd positive (Nat.lt_irrefl 0)
  | succ fuel inductionHypothesis =>
      have fresh : ends.scan isSocks4a buf = Socks4Ends.scan ⟨none, none⟩ isSocks4a buf := by
        have here := sound []
        rwa [List.append_nil] at here
      rw [readSocks4Fields, fresh]
      dsimp only
      split
      · next complete =>
          simp only [exec, received_nil, List.append_nil]
          exact ⟨bounded, fun fields _ _ _ => ⟨complete, rfl⟩⟩
      · next incomplete =>
          -- Complete fields reach behind an incomplete buffer.
          have beyond : ∀ fields, fields <+: buf ++ rest → hasFields isSocks4a fields = true →
              buf.length < fields.length := by
            intro fields inStream complete
            by_contra covered
            have inside : fields <+: buf := List.prefix_of_prefix_length_le inStream
              (List.prefix_append buf rest) (Nat.le_of_not_lt covered)
            obtain ⟨more, same⟩ := inside
            exact incomplete (same ▸ hasFields_append complete more)
          split
          · next long =>
              simp only [exec, received_nil, List.append_nil]
              refine ⟨bounded, fun fields inStream short complete => ?_⟩
              have longer := beyond fields inStream complete
              omega
          · next short =>
              rcases cutting.eq_nil_or_cons with
                ⟨rfl, nothing⟩ | ⟨chunk, later, rest, nonempty, fits, rfl, first⟩
              · have nothingRead : ∀ outcome,
                    ReadsFields isSocks4a (buf ++ []) (buf ++ []) outcome := by
                  intro outcome
                  refine ⟨by rw [List.append_nil]; exact bounded,
                    fun fields inStream _ complete => ?_⟩
                  have longer := beyond fields inStream complete
                  have inside := inStream.length_le
                  rw [List.append_nil] at inside
                  omega
                rw [Cutting.arrival, nothing, exec_read_nil]
                cases closes with
                | true => exact nothingRead _
                | false => exact nothingRead _
              · have resumed : ∀ more, (Socks4Ends.scan ⟨none, none⟩ isSocks4a buf).scan isSocks4a
                    (buf ++ chunk ++ more) =
                      Socks4Ends.scan ⟨none, none⟩ isSocks4a (buf ++ chunk ++ more) := by
                  intro more
                  rw [List.append_assoc]
                  exact Socks4Ends.scan_scan isSocks4a buf (chunk ++ more)
                have grown : (buf ++ chunk).length = buf.length + chunk.length :=
                  List.length_append
                have advances : 0 < chunk.length := List.length_pos_iff.mpr nonempty
                have next := inductionHypothesis rest resumed (by omega) (by omega) (by omega)
                rw [Cutting.arrival, first, exec_read_cons fits]
                simpa [received_cons, receivedBy, nonempty, Cutting.arrival] using next

/-- The reading of the fields, from its start. -/
def readFields (isSocks4a : Bool) (time : Nat) (arrival : Arrival) :
    List SocketEvent × Outcome Text (Bytes × Socks4Ends) :=
  exec (Arrival.answer .client) time
    (readSocks4Fields isSocks4a (socks4HandshakeMaxLen + 2) [] ⟨none, none⟩) arrival

theorem readFields_reads (isSocks4a : Bool) (time : Nat) {rest : Bytes}
    (cutting : Cutting 256 rest) (closes : Bool) :
    let run := readFields isSocks4a time (cutting.arrival closes)
    ReadsFields isSocks4a rest (received .client run.1) run.2 := by
  have empty : ([] : Bytes).length ≤ socks4HandshakeMaxLen + 256 := Nat.zero_le _
  exact exec_readSocks4Fields cutting (fun _ => rfl) empty (Nat.le_refl _) (Nat.succ_pos _)

/-- A stream that begins with complete fields is read up to them and split
behind them. -/
theorem readFields_accepts {isSocks4a : Bool} {userId domain payload rest : Bytes}
    (noNul : 0 ∉ userId) (noNulDomain : 0 ∉ domain) (short : userId.length ≤ 255)
    (shortDomain : domain.length ≤ 253)
    (fields : rest = fieldBytes isSocks4a userId domain ++ payload) (addr : Ipv4Addr) (time : Nat)
    (cutting : Cutting 256 rest) (closes : Bool) :
    ∃ buf ends host leftover,
      (readFields isSocks4a time (cutting.arrival closes)).2 = .returned (buf, ends) ∧
        splitSocks4Fields isSocks4a addr buf ends = .ok (host, leftover) := by
  have fits : (fieldBytes isSocks4a userId domain).length ≤ socks4HandshakeMaxLen := by
    have limit : socks4HandshakeMaxLen = 1024 := rfl
    unfold fieldBytes
    split
    · simp only [List.length_append, List.length_cons, List.length_nil]
      omega
    · simp only [List.length_append, List.length_cons, List.length_nil]
      omega
  have begins : fieldBytes isSocks4a userId domain <+: rest := ⟨payload, fields.symm⟩
  obtain ⟨complete, returned⟩ := (readFields_reads isSocks4a time cutting closes).accepts _ begins
    fits (hasFields_fieldBytes noNul noNulDomain)
  have fromStream : received .client (readFields isSocks4a time (cutting.arrival closes)).1 <+:
      fieldBytes isSocks4a userId domain ++ payload := by
    rw [← fields]
    exact cutting.received_exec .client closes time _
  obtain ⟨leftover, bytes⟩ := fieldBytes_prefix noNul noNulDomain fromStream complete
  have split :=
    splitSocks4Fields_fieldBytes isSocks4a noNul noNulDomain short shortDomain addr leftover
  rw [bytes] at split
  exact ⟨_, _, _, leftover, returned, split⟩

/-! ## The request -/

/-- The seven bytes before the fields. -/
def headerBytes (port : UInt16) (addr : Ipv4Addr) : Bytes :=
  [0x01] ++ toBeBytes port ++ addr.octets

theorem encode_eq (message : Socks4Message) :
    message.encode = 0x04 :: (headerBytes message.port message.addr ++
      fieldBytes (isSocks4aAddr message.addr) message.userId message.domain) := by
  simp only [Socks4Message.encode, headerBytes, fieldBytes, List.append_assoc, List.cons_append,
    List.nil_append]

/-- The reading of the header. -/
theorem exec_header {time : Nat} {closes : Bool} {stream : Bytes} (cutting : Cutting 256 stream)
    {header : Vector UInt8 7} (bytes : header.toList = stream.take 7) (enough : 7 ≤ stream.length)
    {α : Type} {rest : Vector UInt8 7 → Async α} :
    exec (Arrival.answer .client) time ((readExact .client 7).bind rest) (cutting.arrival closes) =
      let run := exec (Arrival.answer .client) time (rest header)
        ((cutting.dropBytes 7).arrival closes)
      (⟨.readExact .client 7, time, .ready (.ok header)⟩ :: run.1, run.2) := by
  have enoughChunks : 7 ≤ cutting.chunks.flatten.length := by
    rw [cutting.whole]
    exact enough
  have chunkBytes : header.toList = cutting.chunks.flatten.take 7 := by
    rw [cutting.whole]
    exact bytes
  exact exec_readExact_ok enoughChunks chunkBytes

/-- The request after its header. -/
theorem exec_readSocks4Request {time : Nat} {closes : Bool} {stream : Bytes}
    (cutting : Cutting 256 stream) {header : Vector UInt8 7}
    (bytes : header.toList = stream.take 7) (enough : 7 ≤ stream.length)
    (command : byteAt 0 header = 0x01) {addr : Ipv4Addr}
    (named : ⟨byteAt 3 header, byteAt 4 header, byteAt 5 header, byteAt 6 header⟩ = addr) :
    let isSocks4a := isSocks4aAddr addr
    let fields := readFields isSocks4a time ((cutting.dropBytes 7).arrival closes)
    exec (Arrival.answer .client) time readSocks4Request (cutting.arrival closes) =
      (⟨.readExact .client 7, time, .ready (.ok header)⟩ :: fields.1,
        fields.2.andThen fun (buf, ends) =>
          (splitSocks4Fields isSocks4a addr buf ends).map fun (host, leftover) =>
            ⟨host, fromBeBytes (byteAt 1 header) (byteAt 2 header), isSocks4a,
              if isSocks4a then none else some (.v4 addr), leftover⟩) := by
  subst named
  refine (exec_header cutting bytes enough).trans ?_
  rw [if_neg (not_not.mpr command)]
  simp only [bind_eq, pure_eq]
  rw [exec_bind_settle]
  rfl

/-- The refusal of another command. -/
theorem exec_unsupportedCommand {time : Nat} {closes : Bool} {stream : Bytes}
    (cutting : Cutting 256 stream) {header : Vector UInt8 7}
    (bytes : header.toList = stream.take 7) (enough : 7 ≤ stream.length)
    (command : byteAt 0 header ≠ 0x01) :
    exec (Arrival.answer .client) time readSocks4Request (cutting.arrival closes) =
      (⟨.readExact .client 7, time, .ready (.ok header)⟩ ::
          [⟨.writeAll .client (socks4Reply 0x5B), time, .ready (.ok ())⟩],
        .failed ("Unsupported SOCKS4 command: ".toList ++ decimal (byteAt 0 header).toNat)) := by
  refine (exec_header cutting bytes enough).trans ?_
  rw [if_pos command]
  rfl

/-- The request part of a client stream. -/
abbrev IsSocks4Stream (stream : Bytes) (message : Socks4Message) (payload : Bytes) : Prop :=
  IsFramed Socks4Message.encode Socks4Message.Short (0x04 :: stream) message payload

theorem accepted_of_isSocks4Stream {time : Nat} {closes : Bool} {stream payload : Bytes}
    {message : Socks4Message} (cutting : Cutting 256 stream)
    (grammar : IsSocks4Stream stream message payload) :
    ∃ request, (exec (Arrival.answer .client) time readSocks4Request
      (cutting.arrival closes)).2 = .returned request := by
  obtain ⟨port, addr, userId, domain, noNul, noNulDomain, unmarked⟩ := message
  let isSocks4a := isSocks4aAddr addr
  let header : Vector UInt8 7 :=
    #v[0x01, (toBeBytes port)[0], (toBeBytes port)[1], addr.first, addr.second, addr.third,
      addr.fourth]
  have streamShape : stream = headerBytes port addr ++
      (fieldBytes isSocks4a userId domain ++ payload) := by
    have split := grammar.split
    rw [encode_eq, List.cons_append, List.append_assoc] at split
    exact (List.cons.inj split).2
  have headerLength : (headerBytes port addr).length = 7 := rfl
  have bytes : header.toList = stream.take 7 := by
    rw [streamShape, List.take_left' headerLength]
    rfl
  have rest : stream.drop 7 = fieldBytes isSocks4a userId domain ++ payload := by
    rw [streamShape, List.drop_left' headerLength]
  have enough : 7 ≤ stream.length := by
    rw [streamShape, List.length_append, headerLength]
    omega
  obtain ⟨buf, ends, host, leftover, returned, fields⟩ := readFields_accepts noNul noNulDomain
    grammar.valid.userId grammar.valid.domain rest addr time (cutting.dropBytes 7) closes
  have named : (⟨byteAt 3 header, byteAt 4 header, byteAt 5 header, byteAt 6 header⟩ :
      Ipv4Addr) = addr := rfl
  rw [exec_readSocks4Request cutting bytes enough rfl named]
  dsimp only
  rw [returned]
  simp only [Outcome.andThen]
  rw [fields]
  exact ⟨_, rfl⟩

theorem isSocks4Stream_of_accepted {time : Nat} {closes : Bool} {stream : Bytes}
    {request : Socks4Request} (cutting : Cutting 256 stream)
    (accepted : (exec (Arrival.answer .client) time readSocks4Request
      (cutting.arrival closes)).2 = .returned request) :
    ∃ message payload, IsSocks4Stream stream message payload ∧
      0x04 :: received .client (exec (Arrival.answer .client) time readSocks4Request
        (cutting.arrival closes)).1 = message.encode ++ request.leftover ∧
      request = message.request request.leftover := by
  have run := runs_exec (Arrival.answer .client) time readSocks4Request (cutting.arrival closes)
  rw [accepted] at run
  obtain ⟨message, bytes, isRequest, short⟩ := readSocks4Request_returned run
  obtain ⟨more, whole⟩ := cutting.received_exec .client closes time readSocks4Request
  refine ⟨message, request.leftover ++ more, ⟨short, ?_⟩, bytes, isRequest⟩
  rw [← List.append_assoc, ← bytes, List.append_assoc, whole]
  rfl

/-- Behind its header the handler reads at most 1280 bytes. -/
theorem received_bounded {stream : Bytes} (cutting : Cutting 256 stream) (closes : Bool)
    (time : Nat) :
    ((received .client (exec (Arrival.answer .client) time readSocks4Request
      (cutting.arrival closes)).1).drop 7).length ≤ 1280 := by
  rcases Nat.lt_or_ge stream.length 7 with short | enough
  · have inside := (cutting.received_exec .client closes time readSocks4Request).length_le
    rw [List.length_drop]
    omega
  · have length : (stream.take 7).length = 7 := by
      rw [List.length_take, Nat.min_eq_left enough]
    obtain ⟨header, bytes⟩ := exists_block length
    by_cases command : byteAt 0 header = 0x01
    · rw [exec_readSocks4Request cutting bytes enough command rfl, received_cons]
      have taken : receivedBy .client ⟨.readExact .client 7, time, .ready (.ok header)⟩ =
          header.toList := rfl
      have fields := readFields_reads
        (isSocks4aAddr ⟨byteAt 3 header, byteAt 4 header, byteAt 5 header, byteAt 6 header⟩)
        time (cutting.dropBytes 7) closes
      rw [taken, bytes, List.drop_left' length]
      exact fields.bounded
    · rw [exec_unsupportedCommand cutting bytes enough command, received_cons]
      have taken : receivedBy .client ⟨.readExact .client 7, time, .ready (.ok header)⟩ =
          header.toList := rfl
      rw [taken, bytes, List.drop_left' length]
      exact Nat.zero_le _

/-- Whatever the cuts, `handle_socks4` accepts the streams that begin with a
message within the limits, has read that message and its leftover, and indexes
inside its buffer. -/
theorem socks4_grammar {stream : Bytes} (cutting : Cutting 256 stream) (closes : Bool)
    (time : Nat) :
    let run := exec (Arrival.answer .client) time readSocks4Request (cutting.arrival closes)
    ((∃ request, run.2 = .returned request) ↔
        ∃ message payload, IsSocks4Stream stream message payload) ∧
      (∀ request message payload, run.2 = .returned request →
        IsSocks4Stream stream message payload →
          request = message.request request.leftover ∧
            0x04 :: received .client run.1 = message.encode ++ request.leftover) ∧
      ((received .client run.1).drop 7).length ≤ 1280 ∧
      readSocks4RequestChecked = readSocks4Request.bind fun request => .ret (some request) := by
  refine ⟨⟨?_, ?_⟩, ?_, received_bounded cutting closes time, readSocks4RequestChecked_eq⟩
  · rintro ⟨request, accepted⟩
    obtain ⟨message, payload, grammar, -, -⟩ := isSocks4Stream_of_accepted cutting accepted
    exact ⟨message, payload, grammar⟩
  · rintro ⟨message, payload, grammar⟩
    exact accepted_of_isSocks4Stream cutting grammar
  · intro request message payload accepted grammar
    obtain ⟨other, otherPayload, otherGrammar, bytes, isRequest⟩ :=
      isSocks4Stream_of_accepted cutting accepted
    have same := (Socks4Message.encode_append_inj
      (grammar.split.symm.trans otherGrammar.split)).1
    rw [same]
    exact ⟨isRequest, bytes⟩

end SimpleForwarder
