import SimpleForwarder.HeadReader
import SimpleForwarder.Socks5Exchange

/-!
Contract: two programs that exchange one head each, cut anywhere on the way.

Owns: programs as parties whose reads return any number of the bytes that are
there, the progress of a head reader over one head, the course of an exchange
(a request, then a reply), and the law that every interleaving and every
cutting comes to the same end, in a bounded number of steps.

Does not own: what the heads say.
-/

namespace SimpleForwarder

open RustText EffectProgram Program Duplex

/-! ## Programs with cut reads -/

section Parties

variable {α β : Type} {peer : Peer} {count : Nat}

/-- As `talk`, and a read returns `count` bytes. -/
def talkCut (peer : Peer) (count : Nat) : Async α → Bytes → Option (Act (Async α) UInt8)
  | .call (.read side limit) _ next, input =>
      if fits : side = peer ∧ 1 ≤ count ∧ count ≤ limit ∧ count ≤ input.length then
        have bounded : (input.take count).length ≤ limit := by
          rw [List.length_take, Nat.min_eq_left fits.2.2.2]
          exact fits.2.2.1
        some ⟨next (.ready (.ok ⟨input.take count, bounded⟩)), count, []⟩
      else none
  | program, input => talk peer program input

def cutSpeaker (peer : Peer) (count : Nat) (α : Type) : Party (Async α) UInt8 where
  step := talkCut peer count
  available := by
    intro program input act acts
    unfold talkCut at acts
    split at acts
    · split at acts
      next fits => cases acts; exact fits.2.2.2
      next => cases acts
    · exact (speaker peer α).available acts
  monotone := by
    intro program input act acts more
    unfold talkCut at acts ⊢
    split at acts
    · split at acts
      next fits =>
        have still := Nat.le_add_right_of_le (k := more.length) fits.2.2.2
        rw [← List.length_append] at still
        cases acts
        simp only [fits.1, fits.2.1, fits.2.2.1, still, and_self, dite_true]
        simp only [List.take_append_of_le_length fits.2.2.2]
      next => cases acts
    · exact (speaker peer α).monotone acts more

variable {input : Bytes} {act : Act (Async α) UInt8}

theorem talkCut_write (bytes : Bytes) (next : Unit → Async α) :
    talkCut peer count ((writeAll peer bytes).bind next) input = some ⟨next (), 0, bytes⟩ :=
  if_pos rfl

theorem talkCut_readExact {size : Nat} {next : Vector UInt8 size → Async α}
    (acts : talkCut peer count ((readExact peer size).bind next) input = some act) :
    ∃ block : Vector UInt8 size, block.toList = input.take size ∧ size ≤ input.length ∧
      act = ⟨next block, size, []⟩ := by
  have acts : talk peer ((readExact peer size).bind next) input = some act := acts
  unfold talk readExact performOr perform at acts
  simp only [Program.bind] at acts
  split at acts
  next enough =>
    cases acts
    exact ⟨_, rfl, enough.2, rfl⟩
  next => cases acts

theorem talkCut_readExact_acts {size : Nat} (next : Vector UInt8 size → Async α)
    (enough : size ≤ input.length) :
    ∃ block, talkCut peer count ((readExact peer size).bind next) input =
      some ⟨next block, size, []⟩ := by
  have length : (input.take size).toArray.size = size := by
    rw [List.size_toArray, List.length_take, Nat.min_eq_left enough]
  have fits : peer = peer ∧ size ≤ input.length := ⟨rfl, enough⟩
  exact ⟨⟨(input.take size).toArray, length⟩, dif_pos fits⟩

theorem talkCut_read {limit : Nat} {next : Chunk limit → Async α}
    (acts : talkCut peer count ((read peer limit).bind next) input = some act) :
    ∃ chunk : Chunk limit, chunk.bytes = input.take count ∧ 1 ≤ count ∧ count ≤ input.length ∧
      act = ⟨next chunk, count, []⟩ := by
  unfold talkCut read performOr perform at acts
  simp only [Program.bind] at acts
  split at acts
  next fits =>
    cases acts
    exact ⟨_, rfl, fits.2.1, fits.2.2.2, rfl⟩
  next => cases acts

/-- A read that something is there for can return one byte. -/
theorem talkCut_read_one {limit : Nat} (next : Chunk limit → Async α) (some_limit : 1 ≤ limit)
    (nonempty : input ≠ []) :
    ∃ chunk : Chunk limit, chunk.bytes = input.take 1 ∧
      talkCut peer 1 ((read peer limit).bind next) input = some ⟨next chunk, 1, []⟩ := by
  have inside : 1 ≤ input.length := List.length_pos_of_ne_nil nonempty
  refine ⟨⟨input.take 1, ?_⟩, rfl, ?_⟩
  · rw [List.length_take, Nat.min_eq_left inside]
    exact some_limit
  · have fits : peer = peer ∧ 1 ≤ 1 ∧ 1 ≤ limit ∧ 1 ≤ input.length :=
      ⟨rfl, Nat.le_refl 1, some_limit, inside⟩
    exact dif_pos fits

/-- A turn of a party is an event of a run of its program. -/
theorem runs_of_act {program : Async α} (acts : talkCut peer count program input = some act)
    {start stop : Nat} {after : List SocketEvent} {outcome : Outcome Text α}
    (run : Runs act.next start after outcome stop) :
    ∃ event, Runs program start (event :: after) outcome stop ∧
      receivedBy peer event = input.take act.count ∧ sentBy peer event = act.output := by
  unfold talkCut at acts
  split at acts
  · split at acts
    next fits =>
      cases acts
      exact ⟨_, .ready _ (Nat.le_refl _) run, if_pos fits.1, rfl⟩
    next => cases acts
  · unfold talk at acts
    split at acts
    · split at acts
      next enough =>
        cases acts
        exact ⟨_, .ready _ (Nat.le_refl _) run, if_pos enough.1, rfl⟩
      next => cases acts
    · split at acts
      next same =>
        cases acts
        exact ⟨_, .ready _ (Nat.le_refl _) run, rfl, if_pos same⟩
      next => cases acts
    · cases acts

end Parties

/-! ## A reader on its way through one head -/

/-- The program of a head reader that has read `count` bytes of the head. -/
def ReadingHead (peer : Peer) (limit : Nat) (errors : HeadErrors) (head : Bytes) (count : Nat)
    (program : Async (Bytes × Bytes)) : Prop :=
  ∃ fuel startPos, program = readHeadLoop peer limit errors fuel (head.take count) startPos ∧
    limit + 2 ≤ fuel + count ∧
    ∀ earlier ≤ startPos, ¬ EndsWithSeparator ((head.take count).take earlier)

section Reading

variable {peer : Peer} {limit : Nat} {errors : HeadErrors} {head : Bytes} {count : Nat}
  {program : Async (Bytes × Bytes)}

theorem readHead_reading {buf : Bytes} (handedOver : buf = head.take count) :
    ReadingHead peer limit errors head count (readHead peer limit errors buf) := by
  refine ⟨limit + 2, 0, ?_, Nat.le_add_right _ _, ?_⟩
  · rw [← handedOver]
    rfl
  · exact fresh_at_start _

theorem ReadingHead.finished (reading : ReadingHead peer limit errors head head.length program)
    (headEnd : IsHeadEnd head head.length) (short : head.length ≤ limit) :
    program = .ret (head, []) := by
  obtain ⟨fuel, startPos, rfl, enough, fresh⟩ := reading
  obtain ⟨left, rfl⟩ : ∃ left, fuel = left + 1 := ⟨fuel - 1, by omega⟩
  rw [List.take_length] at fresh ⊢
  unfold readHeadLoop
  rw [(findHeaderSeparator_eq_some_iff fresh).mpr headEnd]
  dsimp only
  rw [if_neg (Nat.not_lt.mpr short), List.take_length, List.drop_length]

/-- Before the end of the head the reader waits, and takes what comes. -/
theorem ReadingHead.waits (reading : ReadingHead peer limit errors head count program)
    (headEnd : IsHeadEnd head head.length) (short : head.length ≤ limit)
    (inside : count < head.length) :
    ∃ next, program = (read peer 1024).bind next ∧
      ∀ (chunk : Chunk 1024) size, 1 ≤ size → size ≤ (head.drop count).length →
        chunk.bytes = (head.drop count).take size →
          ReadingHead peer limit errors head (count + size) (next chunk) := by
  obtain ⟨fuel, startPos, rfl, enough, fresh⟩ := reading
  obtain ⟨left, rfl⟩ : ∃ left, fuel = left + 1 := ⟨fuel - 1, by omega⟩
  have length : (head.take count).length = count := by
    rw [List.length_take, Nat.min_eq_left (Nat.le_of_lt inside)]
  have notYet : ∀ earlier ≤ count, ¬ EndsWithSeparator (head.take earlier) :=
    fun earlier within => headEnd.first earlier (Nat.lt_of_le_of_lt within inside)
  have missed : findHeaderSeparator (head.take count) startPos = none := by
    rw [findHeaderSeparator_eq_none_iff fresh, length]
    intro earlier within
    rw [List.take_take, Nat.min_eq_left within]
    exact notYet earlier within
  have notLong : ¬ (head.take count).length > limit := by
    rw [length]
    omega
  refine ⟨fun chunk => if chunk.bytes = [] then .fail errors.closed
    else readHeadLoop peer limit errors left (head.take count ++ chunk.bytes)
      (head.take count).length, ?_, ?_⟩
  · rw [readHeadLoop, missed]
    exact if_neg notLong
  · intro chunk size positive fits bytes
    have nonempty : chunk.bytes ≠ [] := by
      apply List.ne_nil_of_length_pos
      rw [bytes, List.length_take, Nat.min_eq_left fits]
      exact positive
    have joined : head.take count ++ chunk.bytes = head.take (count + size) := by
      rw [bytes, List.take_add]
    dsimp only
    rw [if_neg nonempty, joined, length]
    refine ⟨left, count, rfl, by omega, ?_⟩
    intro earlier within
    rw [List.take_take, Nat.min_eq_left (Nat.le_add_right_of_le within)]
    exact notYet earlier within

end Reading

/-! ## The exchange -/

/-- A client that writes a request and reads a head, and a server that reads a head
and answers it with a reply. -/
structure HeadExchange (α β : Type) where
  request : Bytes
  reply : Bytes
  requestLimit : Nat
  requestErrors : HeadErrors
  replyLimit : Nat
  replyErrors : HeadErrors
  /-- The client, once it has read a head with what came behind it. -/
  clientRest : Bytes × Bytes → Async α
  /-- The server, once it has detected its protocol. -/
  dispatch : Vector UInt8 1 → Async β
  serverRest : Bytes × Bytes → Async β
  clientEnd : Async α
  serverEnd : Async β
  requestHead : IsHeadEnd request request.length
  requestShort : request.length ≤ requestLimit
  replyHead : IsHeadEnd reply reply.length
  replyShort : reply.length ≤ replyLimit
  dispatches : ∀ firstByte : Vector UInt8 1, firstByte.toList = request.take 1 →
    dispatch firstByte =
      (readHead .client requestLimit requestErrors firstByte.toList).bind serverRest
  answers : ∀ count input,
    talkCut .client count (serverRest (request, [])) input = some ⟨serverEnd, 0, reply⟩
  accepts : clientRest (reply, []) = clientEnd
  clientSilent : ∀ count input, talkCut .target count clientEnd input = none
  serverSilent : ∀ count input, talkCut .client count serverEnd input = none

namespace HeadExchange

variable {α β : Type} (exchange : HeadExchange α β)

def client : Async α :=
  (writeAll .target exchange.request).bind fun _ =>
    (readHead .target exchange.replyLimit exchange.replyErrors []).bind exchange.clientRest

def server : Async β := (readExact .client 1).bind exchange.dispatch

/-- A party that moves, and the bytes a read of it returns. -/
abbrev Turn := Side × Nat

abbrev Talk (α β : Type) := Duplex.Conversation (Async α) (Async β) UInt8

def step (talk : Talk α β) (turn : Turn) : Option (Talk α β) :=
  Duplex.Conversation.step (cutSpeaker .target turn.2 α) (cutSpeaker .client turn.2 β) talk turn.1

/-- Both sides have ended, the pipes are empty, and each has read what the other
wrote. -/
def finished : Talk α β where
  left := exchange.clientEnd
  right := exchange.serverEnd
  toRight := ⟨exchange.request, []⟩
  toLeft := ⟨exchange.reply, []⟩

/-- The states of the exchange, with a bound on the steps that are left. -/
inductive Course : Talk α β → Nat → Prop where
  | begins : Course (.start exchange.client exchange.server)
      (exchange.request.length + exchange.reply.length + 2)
  | asked {own : Async (Bytes × Bytes)}
      (waiting : ReadingHead .target exchange.replyLimit exchange.replyErrors exchange.reply 0
        own) :
      Course ⟨own.bind exchange.clientRest, exchange.server, ⟨[], exchange.request⟩, ⟨[], []⟩⟩
        (exchange.request.length + exchange.reply.length + 1)
  | asking {own other : Async (Bytes × Bytes)} {count : Nat}
      (waiting : ReadingHead .target exchange.replyLimit exchange.replyErrors exchange.reply 0 own)
      (reading : ReadingHead .client exchange.requestLimit exchange.requestErrors exchange.request
        count other)
      (begun : 1 ≤ count) (inside : count ≤ exchange.request.length) :
      Course ⟨own.bind exchange.clientRest, other.bind exchange.serverRest,
          ⟨exchange.request.take count, exchange.request.drop count⟩, ⟨[], []⟩⟩
        (exchange.request.length - count + exchange.reply.length + 1)
  | replied {own : Async (Bytes × Bytes)} {count : Nat}
      (reading : ReadingHead .target exchange.replyLimit exchange.replyErrors exchange.reply count
        own)
      (inside : count ≤ exchange.reply.length) :
      Course ⟨own.bind exchange.clientRest, exchange.serverEnd, ⟨exchange.request, []⟩,
          ⟨exchange.reply.take count, exchange.reply.drop count⟩⟩
        (exchange.reply.length - count)

variable {exchange} {talk next : Talk α β} {bound : Nat}

theorem step_left_iff {left : Async α} {right : Async β} {toRight toLeft : Pipe UInt8}
    {count : Nat} :
    step ⟨left, right, toRight, toLeft⟩ (.left, count) = some next ↔
      ∃ act, talkCut .target count left toLeft.pending = some act ∧
        ⟨act.next, right, toRight.push act.output, toLeft.take act.count⟩ = next :=
  Option.map_eq_some_iff

theorem step_right_iff {left : Async α} {right : Async β} {toRight toLeft : Pipe UInt8}
    {count : Nat} :
    step ⟨left, right, toRight, toLeft⟩ (.right, count) = some next ↔
      ∃ act, talkCut .client count right toRight.pending = some act ∧
        ⟨left, act.next, toRight.take act.count, toLeft.push act.output⟩ = next :=
  Option.map_eq_some_iff

theorem length_pos_of_isHeadEnd {head : Bytes} (headEnd : IsHeadEnd head head.length) :
    0 < head.length := by
  apply List.length_pos_of_ne_nil
  rintro rfl
  exact absurd headEnd.ends (by decide)

/-- The client waits as long as nothing of the reply is there. -/
theorem waits_for_reply {own : Async (Bytes × Bytes)} {count : Nat}
    (waiting : ReadingHead .target exchange.replyLimit exchange.replyErrors exchange.reply 0 own)
    (act : Act (Async α) UInt8) :
    talkCut .target count (own.bind exchange.clientRest) [] ≠ some act := by
  intro acts
  obtain ⟨next, rfl, -⟩ := waiting.waits exchange.replyHead exchange.replyShort
    (length_pos_of_isHeadEnd exchange.replyHead)
  rw [bind_bind] at acts
  obtain ⟨-, -, positive, within, -⟩ := talkCut_read acts
  exact absurd (Nat.le_trans positive within) (Nat.not_succ_le_zero 0)

/-- The server reads more of the request, or it has all of it and answers. -/
theorem step_asking {own other : Async (Bytes × Bytes)} {count size : Nat}
    (waiting : ReadingHead .target exchange.replyLimit exchange.replyErrors exchange.reply 0 own)
    (reading : ReadingHead .client exchange.requestLimit exchange.requestErrors exchange.request
      count other)
    (begun : 1 ≤ count) (inside : count ≤ exchange.request.length)
    (stepped : step ⟨own.bind exchange.clientRest, other.bind exchange.serverRest,
      ⟨exchange.request.take count, exchange.request.drop count⟩, ⟨[], []⟩⟩ (.right, size) =
        some next) :
    ∃ fewer < exchange.request.length - count + exchange.reply.length + 1,
      exchange.Course next fewer := by
  obtain ⟨act, acts, rfl⟩ := step_right_iff.mp stepped
  rcases Nat.lt_or_eq_of_le inside with before | rfl
  · obtain ⟨following, rfl, reads⟩ :=
      reading.waits exchange.requestHead exchange.requestShort before
    rw [bind_bind] at acts
    obtain ⟨chunk, bytes, positive, within, rfl⟩ := talkCut_read acts
    have further := reads chunk size positive within bytes
    rw [List.length_drop] at within
    refine ⟨exchange.request.length - (count + size) + exchange.reply.length + 1, by omega, ?_⟩
    have course := Course.asking waiting further (by omega) (by omega)
    simpa only [Pipe.take, Pipe.push, List.take_add, List.drop_drop, List.append_nil] using course
  · rw [reading.finished exchange.requestHead exchange.requestShort] at acts
    cases acts.symm.trans (exchange.answers size _)
    refine ⟨exchange.reply.length, by omega, ?_⟩
    have course := Course.replied waiting (Nat.zero_le _)
    simpa [Pipe.take, Pipe.push] using course

/-- The client reads more of the reply; having read it, both have ended. -/
theorem step_replied {own : Async (Bytes × Bytes)} {count size : Nat}
    (reading : ReadingHead .target exchange.replyLimit exchange.replyErrors exchange.reply count
      own)
    (inside : count ≤ exchange.reply.length)
    (stepped : step ⟨own.bind exchange.clientRest, exchange.serverEnd, ⟨exchange.request, []⟩,
      ⟨exchange.reply.take count, exchange.reply.drop count⟩⟩ (.left, size) = some next) :
    ∃ fewer < exchange.reply.length - count, exchange.Course next fewer := by
  obtain ⟨act, acts, rfl⟩ := step_left_iff.mp stepped
  rcases Nat.lt_or_eq_of_le inside with before | rfl
  · obtain ⟨following, rfl, reads⟩ := reading.waits exchange.replyHead exchange.replyShort before
    rw [bind_bind] at acts
    obtain ⟨chunk, bytes, positive, within, rfl⟩ := talkCut_read acts
    have further := reads chunk size positive within bytes
    rw [List.length_drop] at within
    refine ⟨exchange.reply.length - (count + size), by omega, ?_⟩
    have course := Course.replied further (by omega)
    simpa only [Pipe.take, Pipe.push, List.take_add, List.drop_drop, List.append_nil] using course
  · rw [reading.finished exchange.replyHead exchange.replyShort] at acts
    have ended : (Program.ret (exchange.reply, []) : Async (Bytes × Bytes)).bind
        exchange.clientRest = exchange.clientEnd := exchange.accepts
    rw [ended] at acts
    cases acts.symm.trans (exchange.clientSilent size _)

/-- Every step leads on. -/
theorem Course.step {turn : Turn} (course : exchange.Course talk bound)
    (stepped : HeadExchange.step talk turn = some next) :
    ∃ fewer < bound, exchange.Course next fewer := by
  obtain ⟨side, count⟩ := turn
  cases course with
  | begins =>
      cases side with
      | left =>
          obtain ⟨act, acts, rfl⟩ := step_left_iff.mp stepped
          have wrote : talkCut .target count exchange.client [] =
              some ⟨(readHead .target exchange.replyLimit exchange.replyErrors []).bind
                exchange.clientRest, 0, exchange.request⟩ :=
            talkCut_write exchange.request _
          cases acts.symm.trans wrote
          exact ⟨_, Nat.lt_succ_self _, .asked (readHead_reading rfl)⟩
      | right =>
          obtain ⟨act, acts, rfl⟩ := step_right_iff.mp stepped
          obtain ⟨-, -, within, -⟩ := talkCut_readExact acts
          exact absurd within (by decide)
  | asked waiting =>
      cases side with
      | left =>
          obtain ⟨act, acts, rfl⟩ := step_left_iff.mp stepped
          exact absurd acts (waits_for_reply waiting act)
      | right =>
          obtain ⟨act, acts, rfl⟩ := step_right_iff.mp stepped
          obtain ⟨firstByte, bytes, within, rfl⟩ := talkCut_readExact acts
          have within : 1 ≤ exchange.request.length := within
          refine ⟨exchange.request.length - 1 + exchange.reply.length + 1, by omega, ?_⟩
          have course := Course.asking waiting (readHead_reading bytes) (Nat.le_refl 1) within
          rw [← exchange.dispatches firstByte bytes] at course
          exact course
  | asking waiting reading begun inside =>
      cases side with
      | left =>
          obtain ⟨act, acts, rfl⟩ := step_left_iff.mp stepped
          exact absurd acts (waits_for_reply waiting act)
      | right => exact step_asking waiting reading begun inside stepped
  | replied reading inside =>
      cases side with
      | left => exact step_replied reading inside stepped
      | right =>
          obtain ⟨act, acts, rfl⟩ := step_right_iff.mp stepped
          exact absurd (acts.symm.trans (exchange.serverSilent count _)) nofun

/-- The exchange is at its end, or some step is possible. -/
theorem Course.proceeds (course : exchange.Course talk bound) :
    talk = exchange.finished ∨ ∃ turn next, HeadExchange.step talk turn = some next := by
  cases course with
  | begins =>
      exact .inr ⟨(.left, 0), _, step_left_iff.mpr ⟨_, talkCut_write _ _, rfl⟩⟩
  | asked waiting =>
      have within : 1 ≤ exchange.request.length := length_pos_of_isHeadEnd exchange.requestHead
      obtain ⟨block, acts⟩ :
          ∃ block, talkCut .client 0 exchange.server exchange.request =
            some ⟨exchange.dispatch block, 1, []⟩ :=
        talkCut_readExact_acts exchange.dispatch within
      exact .inr ⟨(.right, 0), _, step_right_iff.mpr ⟨_, acts, rfl⟩⟩
  | @asking own other count waiting reading begun inside =>
      rcases Nat.lt_or_eq_of_le inside with before | rfl
      · obtain ⟨following, rfl, -⟩ :=
          reading.waits exchange.requestHead exchange.requestShort before
        have nonempty : exchange.request.drop count ≠ [] := by
          rw [Ne, List.drop_eq_nil_iff]
          omega
        obtain ⟨chunk, -, acts⟩ := @talkCut_read_one _ .client _ _
          (fun chunk => (following chunk).bind exchange.serverRest) (by decide : 1 ≤ 1024) nonempty
        rw [← bind_bind] at acts
        exact .inr ⟨(.right, 1), _, step_right_iff.mpr ⟨_, acts, rfl⟩⟩
      · rw [reading.finished exchange.requestHead exchange.requestShort]
        exact .inr ⟨(.right, 0), _, step_right_iff.mpr ⟨_, exchange.answers 0 _, rfl⟩⟩
  | @replied own count reading inside =>
      rcases Nat.lt_or_eq_of_le inside with before | rfl
      · obtain ⟨following, rfl, -⟩ := reading.waits exchange.replyHead exchange.replyShort before
        have nonempty : exchange.reply.drop count ≠ [] := by
          rw [Ne, List.drop_eq_nil_iff]
          omega
        obtain ⟨chunk, -, acts⟩ := @talkCut_read_one _ .target _ _
          (fun chunk => (following chunk).bind exchange.clientRest) (by decide : 1 ≤ 1024) nonempty
        rw [← bind_bind] at acts
        exact .inr ⟨(.left, 1), _, step_left_iff.mpr ⟨_, acts, rfl⟩⟩
      · have ended : (Program.ret (exchange.reply, []) : Async (Bytes × Bytes)).bind
            exchange.clientRest = exchange.clientEnd := exchange.accepts
        rw [reading.finished exchange.replyHead exchange.replyShort, ended, List.take_length,
          List.drop_length]
        exact .inl rfl

/-- Some interleaving and cutting leads from one state to the other. -/
def Reaches (first last : Talk α β) : Prop :=
  ∃ turns, Machine.run HeadExchange.step first turns = some last

theorem Course.reaches (course : exchange.Course talk bound) :
    Reaches talk exchange.finished := by
  induction bound using Nat.strongRecOn generalizing talk with
  | ind bound inductionHypothesis =>
      rcases course.proceeds with rfl | ⟨turn, next, stepped⟩
      · exact ⟨[], rfl⟩
      · obtain ⟨fewer, less, further⟩ := course.step stepped
        obtain ⟨turns, reached⟩ := inductionHypothesis fewer less further
        exact ⟨turn :: turns, (Machine.run_cons_of_step stepped turns).trans reached⟩

theorem Course.run {last : Talk α β} {turns : List Turn} (course : exchange.Course talk bound)
    (reached : Machine.run HeadExchange.step talk turns = some last) :
    ∃ left, turns.length + left ≤ bound ∧ exchange.Course last left := by
  induction turns generalizing talk bound with
  | nil =>
      cases reached
      exact ⟨bound, Nat.le_of_eq (Nat.zero_add bound), course⟩
  | cons turn turns inductionHypothesis =>
      obtain ⟨middle, stepped, further⟩ := Option.bind_eq_some_iff.mp reached
      obtain ⟨fewer, less, next⟩ := course.step stepped
      obtain ⟨left, few, last⟩ := inductionHypothesis next further
      refine ⟨left, ?_, last⟩
      rw [List.length_cons]
      omega

variable (exchange) in
/-- Whatever the parties have done, they can come to the end of the exchange, they
stop nowhere else, and they come there in a bounded number of steps. -/
theorem ends {turns : List Turn} {middle : Talk α β}
    (reached : Machine.run HeadExchange.step (.start exchange.client exchange.server) turns =
      some middle) :
    Reaches middle exchange.finished ∧
      (Machine.IsStuck HeadExchange.step middle → middle = exchange.finished) ∧
      turns.length ≤ exchange.request.length + exchange.reply.length + 2 := by
  obtain ⟨left, few, course⟩ := Course.run .begins reached
  refine ⟨course.reaches, fun stuck => ?_, by omega⟩
  rcases course.proceeds with same | ⟨turn, next, stepped⟩
  · exact same
  · exact absurd (stepped.symm.trans (stuck turn)) nofun

/-! ## The runs of the parties -/

section Runs

variable {first last : Talk α β} {turns : List Turn} {start stop : Nat}

/-- What the client does in a conversation is a run of it. -/
theorem client_runs (reached : Machine.run HeadExchange.step first turns = some last)
    {after : List SocketEvent} {outcome : Outcome Text α}
    (run : Runs last.left start after outcome stop) :
    ∃ before, Runs first.left start (before ++ after) outcome stop ∧
      last.toLeft.passed = first.toLeft.passed ++ received .target before ∧
      last.toRight.passed ++ last.toRight.pending =
        first.toRight.passed ++ first.toRight.pending ++ sent .target before := by
  induction turns generalizing first with
  | nil =>
      cases reached
      exact ⟨[], run, (List.append_nil _).symm, (List.append_nil _).symm⟩
  | cons turn turns inductionHypothesis =>
      obtain ⟨middle, stepped, further⟩ := Option.bind_eq_some_iff.mp reached
      obtain ⟨before, runs, reads, writes⟩ := inductionHypothesis further
      obtain ⟨side, count⟩ := turn
      cases side with
      | left =>
          obtain ⟨act, acts, rfl⟩ := step_left_iff.mp stepped
          obtain ⟨event, runsAll, readsOne, writesOne⟩ := runs_of_act acts runs
          refine ⟨event :: before, runsAll, ?_, ?_⟩
          · rw [reads, received_cons, readsOne]
            exact List.append_assoc _ _ _
          · rw [writes, ← List.singleton_append, sent_append, sent_singleton, writesOne]
            simp only [Pipe.push, List.append_assoc]
      | right =>
          obtain ⟨act, acts, rfl⟩ := step_right_iff.mp stepped
          refine ⟨before, runs, reads, writes.trans ?_⟩
          simp only [Pipe.take, List.append_assoc, List.take_append_drop]

end Runs

end HeadExchange

end SimpleForwarder
