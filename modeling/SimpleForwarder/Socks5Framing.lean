import SimpleForwarder.Arrival
import SimpleForwarder.Lib.Framing
import SimpleForwarder.Socks5Exchange

/-!
Contract: the SOCKS5 grammar is read from the bytes alone (`handle_socks5`).

Owns: the client streams that `handle_socks5` accepts and the ones it refuses,
with what it answers to each (`socks5_grammar`), for every cutting into reads.

A party that reads blocks and writes takes the same course however its input is
cut (`exec_of_solo`).

Does not own: the connection attempt.
-/

namespace SimpleForwarder

open RustText IpText EffectProgram Program Duplex Framing

/-! ## Parties under a cutting -/

section Executions

variable {α : Type} {peer : Peer} {time : Nat} {closes : Bool}

/-- One step of a party, in an execution whose stream begins with its input. -/
theorem exec_of_talk {program : Async α} {input rest : Bytes} {act : Act (Async α) UInt8}
    (acts : talk peer program input = some act) (all : act.count = input.length)
    {chunks : List Bytes} (whole : chunks.flatten = input ++ rest) :
    ∃ event later, later.flatten = rest ∧ receivedBy peer event = input ∧
      sentBy peer event = act.output ∧
      exec (Arrival.answer peer) time program ⟨chunks, closes⟩ =
        (event :: (exec (Arrival.answer peer) time act.next ⟨later, closes⟩).1,
          (exec (Arrival.answer peer) time act.next ⟨later, closes⟩).2) := by
  cases program with
  | ret value => cases acts
  | fail error => cases acts
  | clock next => cases acts
  | call op deadlines next =>
      cases op with
      | readExact side size =>
          dsimp only [talk] at acts
          split at acts
          · next enough =>
              cases acts
              have size_eq : size = input.length := all
              have inside : size ≤ chunks.flatten.length := by
                rw [whole, List.length_append, size_eq]
                exact Nat.le_add_right _ _
              have dropped : (dropBytes size chunks).flatten = rest := by
                rw [flatten_dropBytes, whole, size_eq, List.drop_left]
              have taken : chunks.flatten.take size = input := by
                rw [whole, size_eq, List.take_left]
              have inputTaken : input.take size = input := by rw [size_eq, List.take_length]
              have length : (input.take size).toArray.size = size := by
                rw [inputTaken, List.size_toArray, size_eq]
              refine ⟨⟨.readExact side size, time, .ready (.ok ⟨(input.take size).toArray, length⟩)⟩,
                _, dropped, (if_pos enough.1).trans inputTaken, rfl, ?_⟩
              simp only [exec, Arrival.answer, if_pos enough.1, Arrival.nextBlock, dif_pos inside,
                taken, inputTaken]
          · cases acts
      | writeAll side bytes =>
          dsimp only [talk] at acts
          split at acts
          · next same =>
              cases acts
              have empty : input = [] := List.length_eq_zero_iff.mp all.symm
              rw [empty, List.nil_append] at whole
              exact ⟨⟨.writeAll side bytes, time, .ready (.ok ())⟩, chunks, whole, empty.symm,
                if_pos same, rfl⟩
          · cases acts
      | read side limit => cases acts
      | connectProxy addr => cases acts
      | connectDirect host port => cases acts
      | lookupHost query => cases acts

/-- What a party does on its input, it does in every execution whose stream
begins with the input. -/
theorem exec_of_solo {program last : Async α} {input output : Bytes}
    (solo : Solo (speaker peer α) program input last output) {chunks : List Bytes} {rest : Bytes}
    (whole : chunks.flatten = input ++ rest) :
    ∃ events later, later.flatten = rest ∧ received peer events = input ∧
      sent peer events = output ∧
      exec (Arrival.answer peer) time program ⟨chunks, closes⟩ =
        (events ++ (exec (Arrival.answer peer) time last ⟨later, closes⟩).1,
          (exec (Arrival.answer peer) time last ⟨later, closes⟩).2) := by
  induction solo generalizing chunks with
  | refl state => exact ⟨[], chunks, whole, rfl, rfl, rfl⟩
  | @step program last input more output act acts all solo inductionHypothesis =>
      rw [List.append_assoc] at whole
      obtain ⟨event, middle, left, reads, writes, executed⟩ := exec_of_talk acts all whole
      obtain ⟨events, later, exhausted, readsMore, writesMore, executedMore⟩ := inductionHypothesis left
      refine ⟨event :: events, later, exhausted, ?_, ?_, ?_⟩
      · rw [received_cons, reads, readsMore]
      · rw [← List.singleton_append, sent_append, sent_singleton, writes, writesMore]
      · rw [executed, executedMore, List.cons_append]

end Executions

/-! ## What a stream is answered with -/

section Answers

variable {α : Type} {program last : Async α} {stream taken left answers : Bytes}

/-- The outcome of a read of more bytes than there are. -/
def starved (closes : Bool) : Outcome Text α := if closes then .failed unexpectedEof.text else .cut

/-- Whatever the cuts, the program reads `taken`, writes `answers`, and ends so. -/
def Answers (program : Async α) (stream taken answers : Bytes)
    (outcome : (closes : Bool) → Outcome Text α) : Prop :=
  ∀ {limit : Nat} (cutting : Cutting limit stream) (closes : Bool) (time : Nat),
    let run := exec (Arrival.answer .client) time program (cutting.arrival closes)
    received .client run.1 = taken ∧ sent .client run.1 = answers ∧ run.2 = outcome closes

/-- The program waits for more bytes than are left. -/
def Starves (program : Async α) (stream answers : Bytes) : Prop :=
  ∃ taken left size, ∃ next : Vector UInt8 size → Async α, stream = taken ++ left ∧
    left.length < size ∧
      Solo (speaker .client α) program taken ((readExact .client size).bind next) answers

theorem answers_of_solo {outcome : Bool → Outcome Text α} (split : stream = taken ++ left)
    (solo : Solo (speaker .client α) program taken last answers)
    (ends : ∀ time closes later, later.flatten = left →
      let run := exec (Arrival.answer .client) time last ⟨later, closes⟩
      received .client run.1 = [] ∧ sent .client run.1 = [] ∧ run.2 = outcome closes) :
    Answers program stream taken answers outcome := by
  intro limit cutting closes time
  have whole : cutting.chunks.flatten = taken ++ left := cutting.whole.trans split
  obtain ⟨events, later, exhausted, reads, writes, executed⟩ :=
    @exec_of_solo _ _ time closes _ _ _ _ solo _ _ whole
  obtain ⟨nothing, silent, ended⟩ := ends time closes later exhausted
  rw [Cutting.arrival, executed]
  dsimp only
  rw [received_append, sent_append, reads, writes, nothing, silent]
  exact ⟨List.append_nil _, List.append_nil _, ended⟩

theorem answers_of_returned {value : α} (split : stream = taken ++ left)
    (solo : Solo (speaker .client α) program taken (.ret value) answers) :
    Answers program stream taken answers fun _ => .returned value :=
  answers_of_solo split solo fun _ _ _ _ => ⟨rfl, rfl, rfl⟩

theorem answers_of_failed {error : Text} (split : stream = taken ++ left)
    (solo : Solo (speaker .client α) program taken (.fail error) answers) :
    Answers program stream taken answers fun _ => .failed error :=
  answers_of_solo split solo fun _ _ _ _ => ⟨rfl, rfl, rfl⟩

theorem Starves.answered (starves : Starves program stream answers) :
    ∃ taken, Answers program stream taken answers starved := by
  obtain ⟨taken, left, size, next, split, short, solo⟩ := starves
  refine ⟨taken, answers_of_solo split solo fun time closes later exhausted => ?_⟩
  have few : ¬size ≤ later.flatten.length := by
    rw [exhausted]
    exact Nat.not_le_of_lt short
  cases closes with
  | true =>
      have answered : Arrival.answer .client ⟨later, true⟩ (.readExact .client size) =
          some (.error unexpectedEof, ⟨[], true⟩) := by
        simp only [Arrival.answer, if_true, Arrival.nextBlock, dif_neg few]
      simp only [readExact, performOr, perform, Program.bind, exec, answered, Except.mapError,
        settle]
      exact ⟨rfl, rfl, rfl⟩
  | false =>
      have silent : Arrival.answer .client ⟨later, false⟩ (.readExact .client size) = none := by
        simp only [Arrival.answer, if_true, Arrival.nextBlock, dif_neg few, Bool.false_eq_true,
          if_false]
      rw [readExact, exec_performOr_none silent]
      exact ⟨rfl, rfl, rfl⟩

/-- What is read first only adds to the stream and to the answers. -/
theorem Starves.after {before said : Bytes} {first : Async α}
    (starves : Starves program stream answers)
    (solo : Solo (speaker .client α) first before program said) :
    Starves first (before ++ stream) (said ++ answers) := by
  obtain ⟨taken, left, size, next, rfl, short, more⟩ := starves
  exact ⟨before ++ taken, left, size, next, (List.append_assoc _ _ _).symm, short,
    solo.trans more⟩

/-- A read of a block waits if the stream is shorter. -/
theorem Starves.here {size : Nat} (short : stream.length < size)
    (next : Vector UInt8 size → Async α) : Starves ((readExact .client size).bind next) stream [] :=
  ⟨[], stream, size, next, rfl, short, .refl _⟩

theorem short_or_block (size : Nat) (stream : Bytes) :
    stream.length < size ∨
      ∃ (block : Vector UInt8 size) (left : Bytes), stream = block.toList ++ left := by
  rcases Nat.lt_or_ge stream.length size with short | enough
  · exact .inl short
  · have length : (stream.take size).length = size := by
      rw [List.length_take, Nat.min_eq_left enough]
    obtain ⟨block, bytes⟩ := exists_block length
    exact .inr ⟨block, stream.drop size, by rw [bytes, List.take_append_drop]⟩

end Answers

/-! ## The faults of a stream -/

/-- The address types that `handle_socks5` knows. -/
def isAddressType (atyp : UInt8) : Bool := atyp = 0x01 ∨ atyp = 0x03 ∨ atyp = 0x04

/-- The request after the greeting is refused: its bytes, the answer, the error. -/
inductive Socks5RequestFault : Bytes → Bytes → Text → Prop where
  | version {version : UInt8} (other : version ≠ 0x05) (command rsv atyp : UInt8) (rest : Bytes) :
      Socks5RequestFault ([version, command, rsv, atyp] ++ rest) []
        "Invalid SOCKS5 version in request".toList
  | command {command : UInt8} (other : command ≠ 0x01) (rsv atyp : UInt8) (rest : Bytes) :
      Socks5RequestFault ([0x05, command, rsv, atyp] ++ rest) (errorReply 0x07)
        ("Unsupported SOCKS5 command: ".toList ++ decimal command.toNat)
  | addressType {atyp : UInt8} (other : isAddressType atyp = false) (rsv : UInt8) (rest : Bytes) :
      Socks5RequestFault ([0x05, 0x01, rsv, atyp] ++ rest) (errorReply 0x08)
        ("Unsupported SOCKS5 address type: ".toList ++ decimal atyp.toNat)
  | nameLength {length : UInt8} (outside : length.toNat = 0 ∨ length.toNat > 253) (rsv : UInt8)
      (rest : Bytes) :
      Socks5RequestFault ([0x05, 0x01, rsv, 0x03] ++ length :: rest) (errorReply 0x08)
        "SOCKS5 domain name length must be between 1 and 253".toList

def greetingBytes (methods : Bytes) : Bytes := UInt8.ofNat methods.length :: methods

/-- The stream after the version byte is refused. -/
inductive Socks5Fault : Bytes → Bytes → Text → Prop where
  | noMethods (rest : Bytes) :
      Socks5Fault (0x00 :: rest) [] "SOCKS5 nmethods must be between 1 and 255".toList
  | noneAcceptable {methods : Bytes} (nonempty : methods ≠ []) (short : methods.length ≤ 255)
      (missing : 0x00 ∉ methods) (rest : Bytes) :
      Socks5Fault (greetingBytes methods ++ rest) [0x05, 0xFF]
        "No acceptable authentication method".toList
  | request {methods : Bytes} (short : methods.length ≤ 255) (offered : 0x00 ∈ methods)
      {rest answers : Bytes} {error : Text} (fault : Socks5RequestFault rest answers error) :
      Socks5Fault (greetingBytes methods ++ rest) ([0x05, 0x00] ++ answers) error

/-! ## The greeting -/

section Greeting

variable {α : Type} {methods : Bytes}

/-- The server tells its choice. -/
def chooseMethod (methods : Bytes) : Async Unit :=
  (writeAll .client [0x05, selectMethod methods]).bind fun _ =>
    if selectMethod methods = 0xFF then .fail "No acceptable authentication method".toList
    else .ret ()

theorem negotiateMethod_bind (next : Unit → Async α) :
    negotiateMethod.bind next = (readExact .client 1).bind fun secondByte =>
      (if (byteAt 0 secondByte).toNat = 0 ∨ (byteAt 0 secondByte).toNat > 255 then
          .fail "SOCKS5 nmethods must be between 1 and 255".toList
        else (readExact .client (byteAt 0 secondByte).toNat).bind fun methods =>
          chooseMethod methods.toList).bind next := bind_bind _ _ _

theorem solo_chooseMethod (methods : Bytes) (next : Unit → Async α) :
    Solo (speaker .client α) ((chooseMethod methods).bind next) []
      (if selectMethod methods = 0xFF then .fail "No acceptable authentication method".toList
        else next ())
      [0x05, selectMethod methods] := by
  have told : Solo (speaker .client α) ((chooseMethod methods).bind next) []
      ((if selectMethod methods = 0xFF then
          (.fail "No acceptable authentication method".toList : Async Unit)
        else .ret ()).bind next) [0x05, selectMethod methods] := by
    rw [chooseMethod, bind_bind]
    exact solo_writeAll _ _
  split at told
  · next refused =>
      rw [if_pos refused]
      exact told
  · next accepted =>
      rw [if_neg accepted]
      exact told

/-- A greeting with methods is read and answered. -/
theorem solo_greeting (nonempty : methods ≠ []) (short : methods.length ≤ 255)
    (next : Unit → Async α) :
    Solo (speaker .client α) (negotiateMethod.bind next) (greetingBytes methods)
      (if selectMethod methods = 0xFF then .fail "No acceptable authentication method".toList
        else next ())
      [0x05, selectMethod methods] := by
  have count : methods.length = (byteAt 0 #v[UInt8.ofNat methods.length]).toNat :=
    (UInt8.toNat_ofNat_of_lt' (Nat.lt_succ_of_le short)).symm
  have inRange : ¬((byteAt 0 #v[UInt8.ofNat methods.length]).toNat = 0 ∨
      (byteAt 0 #v[UInt8.ofNat methods.length]).toNat > 255) := by
    have positive := List.length_pos_of_ne_nil nonempty
    omega
  obtain ⟨block, bytes⟩ :
      ∃ block : Vector UInt8 (byteAt 0 #v[UInt8.ofNat methods.length]).toNat,
        block.toList = methods := exists_block count
  have chosen : Solo (speaker .client α)
      ((readExact .client (byteAt 0 #v[UInt8.ofNat methods.length]).toNat).bind fun methods =>
        (chooseMethod methods.toList).bind next)
      (block.toList ++ [])
      (if selectMethod block.toList = 0xFF then
        .fail "No acceptable authentication method".toList else next ())
      ([] ++ [0x05, selectMethod block.toList]) :=
    (solo_readExact block _).trans (solo_chooseMethod block.toList next)
  rw [bytes, List.append_nil] at chosen
  rw [negotiateMethod_bind]
  apply (solo_readExact #v[UInt8.ofNat methods.length] _).trans
  rw [if_neg inRange, bind_bind]
  exact chosen

/-- Every stream has a whole greeting, no methods, or too few bytes. -/
theorem greeting_classified (stream : Bytes) (next : Unit → Async α) :
    Starves (negotiateMethod.bind next) stream [] ∨ (∃ rest, stream = 0x00 :: rest) ∨
      ∃ methods rest, methods ≠ [] ∧ methods.length ≤ 255 ∧
        stream = greetingBytes methods ++ rest := by
  rw [negotiateMethod_bind]
  rcases short_or_block 1 stream with short | ⟨countByte, left, rfl⟩
  · exact .inl (.here short _)
  · have countBytes : countByte.toList = [byteAt 0 countByte] := toList_eq_ofFn countByte
    have bounded := (byteAt 0 countByte).toNat_lt
    by_cases zero : byteAt 0 countByte = 0x00
    · refine .inr (.inl ⟨left, ?_⟩)
      rw [countBytes, zero]
      rfl
    · have positive : (byteAt 0 countByte).toNat ≠ 0 := fun same =>
        zero (UInt8.toNat_inj.mp same)
      have inRange : ¬((byteAt 0 countByte).toNat = 0 ∨ (byteAt 0 countByte).toNat > 255) := by
        omega
      have read := @solo_readExact α .client 1 countByte fun secondByte =>
        (if (byteAt 0 secondByte).toNat = 0 ∨ (byteAt 0 secondByte).toNat > 255 then
          (.fail "SOCKS5 nmethods must be between 1 and 255".toList : Async Unit)
        else (readExact .client (byteAt 0 secondByte).toNat).bind fun methods =>
          chooseMethod methods.toList).bind next
      rw [if_neg inRange, bind_bind] at read
      rcases short_or_block (byteAt 0 countByte).toNat left with short | ⟨block, rest, rfl⟩
      · exact .inl ((Starves.here short _).after read)
      · have length := block.length_toList
        refine .inr (.inr ⟨block.toList, rest, ?_, by omega, ?_⟩)
        · exact List.ne_nil_of_length_pos (by omega)
        · rw [countBytes, greetingBytes, length, UInt8.ofNat_toNat]
          rfl

end Greeting

/-! ## The request -/

section Request

theorem solo_requestHeader (version command rsv atyp : UInt8) :
    Solo (speaker .client Socks5Request) readSocks5Target [version, command, rsv, atyp]
      (if version ≠ 0x05 then .fail "Invalid SOCKS5 version in request".toList
        else if command ≠ 0x01 then
          (sendErrorReply 0x07).bind fun _ =>
            .fail ("Unsupported SOCKS5 command: ".toList ++ decimal command.toNat)
        else readSocks5Address atyp) [] :=
  solo_readExact #v[version, command, rsv, atyp] _

/-- A refusal is told and is the error. -/
theorem solo_refuse (errorCode : UInt8) (error : Text) :
    Solo (speaker .client Socks5Request) ((sendErrorReply errorCode).bind fun _ => .fail error) []
      (.fail error) (errorReply errorCode) :=
  solo_writeAll _ _

theorem solo_unknownAddressType {atyp : UInt8} (other : isAddressType atyp = false) :
    Solo (speaker .client Socks5Request) (readSocks5Address atyp) []
      (.fail ("Unsupported SOCKS5 address type: ".toList ++ decimal atyp.toNat))
      (errorReply 0x08) := by
  have unknown := of_decide_eq_false other
  have notIpv4 : atyp ≠ 0x01 := fun same => unknown (.inl same)
  have notDomain : atyp ≠ 0x03 := fun same => unknown (.inr (.inl same))
  have notIpv6 : atyp ≠ 0x04 := fun same => unknown (.inr (.inr same))
  unfold readSocks5Address
  rw [if_neg notIpv4, if_neg notDomain, if_neg notIpv6]
  exact solo_refuse _ _

/-- The reading of a name, once its length is known. -/
theorem solo_nameLength (length : UInt8) :
    Solo (speaker .client Socks5Request) (readSocks5Address 0x03) [length]
      (if length.toNat = 0 ∨ length.toNat > 253 then
        (sendErrorReply 0x08).bind fun _ =>
          .fail "SOCKS5 domain name length must be between 1 and 253".toList
      else (readExact .client length.toNat).bind fun hostBuf =>
        (readExact .client 2).bind fun portBuf =>
          .ret ⟨fromUtf8Lossy hostBuf.toList, portOf portBuf, true, none⟩) [] :=
  solo_readExact #v[length] _

variable {stream answers : Bytes} {error : Text}

/-- A faulty request is refused, whatever follows it. -/
theorem solo_requestFault (fault : Socks5RequestFault stream answers error) :
    ∃ taken left, stream = taken ++ left ∧
      Solo (speaker .client Socks5Request) readSocks5Target taken (.fail error) answers := by
  cases fault with
  | @version version other command rsv atyp rest =>
      have read := solo_requestHeader version command rsv atyp
      rw [if_pos other] at read
      exact ⟨_, rest, rfl, read⟩
  | @command command other rsv atyp rest =>
      have read := solo_requestHeader 0x05 command rsv atyp
      rw [if_neg (by decide), if_pos other] at read
      exact ⟨_, rest, rfl, read.trans (solo_refuse _ _)⟩
  | @addressType atyp other rsv rest =>
      have read := solo_requestHeader 0x05 0x01 rsv atyp
      rw [if_neg (by decide), if_neg (by decide)] at read
      exact ⟨_, rest, rfl, read.trans (solo_unknownAddressType other)⟩
  | @nameLength length outside rsv rest =>
      have read := solo_requestHeader 0x05 0x01 rsv 0x03
      rw [if_neg (by decide), if_neg (by decide)] at read
      have refused := solo_nameLength length
      rw [if_pos outside] at refused
      have split : [0x05, 0x01, rsv, 0x03] ++ length :: rest =
          [0x05, 0x01, rsv, 0x03] ++ ([length] ++ []) ++ rest := by simp
      exact ⟨_, rest, split, read.trans (refused.trans (solo_refuse _ _))⟩

/-- A block of known size and a port, or too few bytes for them. -/
theorem fixed_classified (size : Nat) (stream : Bytes)
    (next : Vector UInt8 size → Vector UInt8 2 → Async Socks5Request) :
    Starves ((readExact .client size).bind fun block => (readExact .client 2).bind (next block))
        stream [] ∨
      ∃ (block : Vector UInt8 size) (port : UInt16) (rest : Bytes),
        stream = block.toList ++ (toBeBytes port ++ rest) := by
  rcases short_or_block size stream with short | ⟨block, left, rfl⟩
  · exact .inl (.here short _)
  · rcases short_or_block 2 left with short | ⟨portBuf, rest, rfl⟩
    · have read := @solo_readExact Socks5Request .client size block fun block =>
        (readExact .client 2).bind (next block)
      exact .inl ((Starves.here short _).after read)
    · refine .inr ⟨block, portOf portBuf, rest, ?_⟩
      have portBytes : portBuf.toList = toBeBytes (portOf portBuf) := by
        rw [portOf, toBeBytes_fromBeBytes]
        exact toList_eq_ofFn portBuf
      rw [portBytes]

/-- Every address field is whole, of an unknown type, of a wrong length, or has too
few bytes. -/
theorem address_classified (atyp : UInt8) (stream : Bytes) :
    Starves (readSocks5Address atyp) stream [] ∨ isAddressType atyp = false ∨
      (atyp = 0x03 ∧ ∃ length rest, stream = length :: rest ∧
        (length.toNat = 0 ∨ length.toNat > 253)) ∨
      ∃ (addr : Socks5Addr) (port : UInt16) (rest : Bytes), atyp = addr.atyp ∧
        stream = addr.encode ++ (toBeBytes port ++ rest) := by
  by_cases known : isAddressType atyp = true
  · rcases of_decide_eq_true known with rfl | rfl | rfl
    · have reads : readSocks5Address 0x01 =
          (readExact .client 4).bind fun addr => (readExact .client 2).bind fun portBuf =>
            .ret ⟨(Ipv4Addr.ofOctets addr).toText, portOf portBuf, false,
              some (.v4 (Ipv4Addr.ofOctets addr))⟩ := rfl
      rw [reads]
      rcases fixed_classified 4 stream _ with starves | ⟨block, port, rest, rfl⟩
      · exact .inl starves
      · refine .inr (.inr (.inr ⟨.ipv4 (.ofOctets block), port, rest, rfl, ?_⟩))
        rw [Socks5Addr.encode, Ipv4Addr.octets_ofOctets]
    · rcases short_or_block 1 stream with short | ⟨lenBuf, left, rfl⟩
      · exact .inl (Starves.here short _)
      · have lenBytes : lenBuf.toList = [byteAt 0 lenBuf] := toList_eq_ofFn lenBuf
        rw [lenBytes]
        by_cases outside : (byteAt 0 lenBuf).toNat = 0 ∨ (byteAt 0 lenBuf).toNat > 253
        · exact .inr (.inr (.inl ⟨rfl, _, left, rfl, outside⟩))
        · have read := solo_nameLength (byteAt 0 lenBuf)
          rw [if_neg outside] at read
          rcases fixed_classified (byteAt 0 lenBuf).toNat left fun hostBuf portBuf =>
            .ret ⟨fromUtf8Lossy hostBuf.toList, portOf portBuf, true, none⟩ with
            starves | ⟨block, port, rest, rfl⟩
          · exact .inl (starves.after read)
          · have length := block.length_toList
            have nonempty : block.toList ≠ [] := List.ne_nil_of_length_pos (by omega)
            have short : block.toList.length ≤ 253 := by omega
            refine .inr (.inr (.inr ⟨.domain block.toList nonempty short, port, rest, rfl, ?_⟩))
            rw [Socks5Addr.encode, length, UInt8.ofNat_toNat]
            rfl
    · have reads : readSocks5Address 0x04 =
          (readExact .client 16).bind fun addr => (readExact .client 2).bind fun portBuf =>
            .ret ⟨(Ipv6Addr.ofOctets addr).toText, portOf portBuf, false,
              some (.v6 (Ipv6Addr.ofOctets addr))⟩ := rfl
      rw [reads]
      rcases fixed_classified 16 stream _ with starves | ⟨block, port, rest, rfl⟩
      · exact .inl starves
      · refine .inr (.inr (.inr ⟨.ipv6 (.ofOctets block), port, rest, rfl, ?_⟩))
        rw [Socks5Addr.encode, Ipv6Addr.octets_ofOctets]
  · exact .inr (.inl (Bool.eq_false_iff.mpr known))

/-- The bytes of a request. -/
def requestBytes (rsv : UInt8) (addr : Socks5Addr) (port : UInt16) : Bytes :=
  [0x05, 0x01, rsv, addr.atyp] ++ addr.encode ++ toBeBytes port

theorem request_classified (stream : Bytes) :
    Starves readSocks5Target stream [] ∨ (∃ answers error, Socks5RequestFault stream answers error) ∨
      ∃ rsv addr port rest, stream = requestBytes rsv addr port ++ rest := by
  rcases short_or_block 4 stream with short | ⟨header, left, rfl⟩
  · exact .inl (Starves.here short _)
  · have headerBytes : header.toList =
        [byteAt 0 header, byteAt 1 header, byteAt 2 header, byteAt 3 header] :=
      toList_eq_ofFn header
    have read := solo_requestHeader (byteAt 0 header) (byteAt 1 header) (byteAt 2 header)
      (byteAt 3 header)
    rw [headerBytes]
    by_cases version : byteAt 0 header = 0x05
    · by_cases command : byteAt 1 header = 0x01
      · rw [if_neg (not_not.mpr version), if_neg (not_not.mpr command)] at read
        rcases address_classified (byteAt 3 header) left with
          starves | unknown | ⟨isName, length, rest, rfl, outside⟩ | ⟨addr, port, rest, atyp, rfl⟩
        · exact .inl (starves.after read)
        · rw [version, command]
          exact .inr (.inl ⟨_, _, .addressType unknown _ left⟩)
        · rw [version, command, isName]
          exact .inr (.inl ⟨_, _, .nameLength outside _ rest⟩)
        · refine .inr (.inr ⟨byteAt 2 header, addr, port, rest, ?_⟩)
          rw [version, command, atyp, requestBytes]
          simp only [List.append_assoc]
      · rw [version]
        exact .inr (.inl ⟨_, _, .command command _ _ left⟩)
    · exact .inr (.inl ⟨_, _, .version version _ _ _ left⟩)

end Request

/-! ## The grammar -/

/-- The stream after the version byte begins with a message. -/
abbrev IsSocks5Stream (stream : Bytes) (message : Socks5Message) (payload : Bytes) : Prop :=
  IsFramed Socks5Message.encode (fun _ => True) (0x05 :: stream) message payload

/-- What `handle_socks5` does with a stream before it connects: a message is read to
its end and no further, a fault is answered, and for anything else it waits. -/
structure Socks5Grammar (stream : Bytes) : Prop where
  accepts : ∀ message payload, IsSocks5Stream stream message payload →
    ∃ taken, 0x05 :: taken = message.encode ∧
      Answers readSocks5Request stream taken [0x05, 0x00] fun _ => .returned message.request
  refuses : ∀ answers error, Socks5Fault stream answers error →
    ∃ taken, Answers readSocks5Request stream taken answers fun _ => .failed error
  waits : (¬∃ message payload, IsSocks5Stream stream message payload) →
    (¬∃ answers error, Socks5Fault stream answers error) →
    ∃ taken answers, (answers = [] ∨ answers = [0x05, 0x00]) ∧
      Answers readSocks5Request stream taken answers starved

section Grammar

variable {methods stream answers : Bytes} {error : Text}

theorem readSocks5Request_eq :
    readSocks5Request = negotiateMethod.bind fun _ => readSocks5Target := rfl

/-- A greeting that offers no authentication is accepted. -/
theorem solo_accepted (short : methods.length ≤ 255) (offered : 0x00 ∈ methods) :
    Solo (speaker .client Socks5Request) readSocks5Request (greetingBytes methods)
      readSocks5Target [0x05, 0x00] := by
  have selected : selectMethod methods = 0x00 := if_pos offered
  have greeted := solo_greeting (List.ne_nil_of_mem offered) short fun _ => readSocks5Target
  rw [selected, if_neg (by decide)] at greeted
  exact greeted

theorem Socks5Fault.answered (fault : Socks5Fault stream answers error) :
    ∃ taken, Answers readSocks5Request stream taken answers fun _ => .failed error := by
  cases fault with
  | noMethods rest =>
      have read : Solo (speaker .client Socks5Request) readSocks5Request [0x00]
          (.fail "SOCKS5 nmethods must be between 1 and 255".toList) [] := by
        rw [readSocks5Request_eq, negotiateMethod_bind]
        exact solo_readExact #v[0x00] _
      exact ⟨_, answers_of_failed rfl read⟩
  | @noneAcceptable methods nonempty short missing rest =>
      have selected : selectMethod methods = 0xFF := if_neg missing
      have greeted := solo_greeting nonempty short fun _ => readSocks5Target
      rw [selected, if_pos rfl] at greeted
      exact ⟨_, answers_of_failed rfl greeted⟩
  | @request methods short offered rest answers error fault =>
      obtain ⟨taken, left, rfl, refused⟩ := solo_requestFault fault
      exact ⟨_, answers_of_failed (List.append_assoc _ _ _).symm
        ((solo_accepted short offered).trans refused)⟩

theorem Socks5Message.answered {message : Socks5Message} {payload : Bytes}
    (grammar : IsSocks5Stream stream message payload) :
    ∃ taken, 0x05 :: taken = message.encode ∧
      Answers readSocks5Request stream taken [0x05, 0x00] fun _ => .returned message.request := by
  obtain ⟨methods, rsv, addr, port, short, offered⟩ := message
  have encoded : Socks5Message.encode ⟨methods, rsv, addr, port, short, offered⟩ =
      0x05 :: (greetingBytes methods ++ requestBytes rsv addr port) := by
    simp [Socks5Message.encode, Socks5Message.greeting, greetingBytes, requestBytes]
  have split : stream = greetingBytes methods ++ requestBytes rsv addr port ++ payload := by
    have whole := grammar.split
    rw [encoded] at whole
    exact (List.cons.inj whole).2
  have asked : Solo (speaker .client Socks5Request) (readSocks5Target.bind .ret)
      (requestBytes rsv addr port) (.ret (addr.request port)) [] :=
    solo_readSocks5Target addr rsv .ret
  rw [bind_ret] at asked
  exact ⟨_, encoded.symm,
    answers_of_returned split ((solo_accepted short offered).trans asked)⟩

/-- Under every cutting, `handle_socks5` does with a stream what the grammar says. -/
theorem socks5_grammar (stream : Bytes) : Socks5Grammar stream where
  accepts := fun _ _ grammar => Socks5Message.answered grammar
  refuses := fun _ _ fault => fault.answered
  waits := by
    intro unframed faultless
    rcases greeting_classified stream fun _ => readSocks5Target with
      starves | ⟨rest, rfl⟩ | ⟨methods, rest, nonempty, short, rfl⟩
    · obtain ⟨taken, answers⟩ := Starves.answered starves
      exact ⟨taken, [], .inl rfl, answers⟩
    · exact absurd ⟨_, _, .noMethods rest⟩ faultless
    · by_cases offered : 0x00 ∈ methods
      · rcases request_classified rest with
          starves | ⟨answers, error, fault⟩ | ⟨rsv, addr, port, payload, rfl⟩
        · obtain ⟨taken, answers⟩ := (starves.after (solo_accepted short offered)).answered
          exact ⟨taken, _, .inr (List.append_nil _), answers⟩
        · exact absurd ⟨_, _, .request short offered fault⟩ faultless
        · refine absurd ⟨⟨methods, rsv, addr, port, short, offered⟩, payload, trivial, ?_⟩ unframed
          simp [Socks5Message.encode, Socks5Message.greeting, greetingBytes, requestBytes]
      · exact absurd ⟨_, _, .noneAcceptable nonempty short offered rest⟩ faultless

end Grammar

end SimpleForwarder
