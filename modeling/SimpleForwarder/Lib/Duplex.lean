import SimpleForwarder.Lib.Machine

/-!
Contract: two sequential parties that talk over two pipes.

Owns: parties that read from one pipe and write to another, their solo runs on
a given input, the conversation of two parties under every interleaving of
their steps, and the law that the interleaving does not matter: if the solo
runs of the two fit together to a conversation that ends, every conversation of
the two can be continued to that end and no other.

A pipe keeps what was written until it is read. A step of a party must not
depend on what the pipe holds beyond what the step reads.

Does not own: any party.
-/

namespace Duplex

variable {Symbol P Q : Type}

/-- What a step reads and writes: the next state, the number of symbols read,
and the symbols written. -/
structure Act (P Symbol : Type) where
  next : P
  count : Nat
  output : List Symbol

structure Party (P Symbol : Type) where
  step : P → List Symbol → Option (Act P Symbol)
  available : ∀ {state input act}, step state input = some act → act.count ≤ input.length
  monotone : ∀ {state input act}, step state input = some act →
    ∀ more, step state (input ++ more) = some act

/-! ## Solo runs -/

/-- The party reads exactly the input, writes the output, and comes from one
state to the other. -/
inductive Solo (party : Party P Symbol) : P → List Symbol → P → List Symbol → Prop where
  | refl (state : P) : Solo party state [] state []
  | step {state last : P} {input rest output : List Symbol} {act : Act P Symbol}
      (acts : party.step state input = some act) (all : act.count = input.length)
      (solo : Solo party act.next rest last output) :
      Solo party state (input ++ rest) last (act.output ++ output)

variable {left : Party P Symbol} {right : Party Q Symbol}

theorem Solo.trans {first middle last : P} {input more output further : List Symbol}
    (solo : Solo left first input middle output) (rest : Solo left middle more last further) :
    Solo left first (input ++ more) last (output ++ further) := by
  induction solo with
  | refl => exact rest
  | step acts all _ inductionHypothesis =>
      rw [List.append_assoc, List.append_assoc]
      exact .step acts all (inductionHypothesis rest)

/-- One step that reads the input. -/
theorem Solo.single {state : P} {input : List Symbol} {act : Act P Symbol}
    (acts : left.step state input = some act) (all : act.count = input.length) :
    Solo left state input act.next act.output := by
  have solo := Solo.step acts all (.refl act.next)
  rwa [List.append_nil, List.append_nil] at solo

/-! ## Conversations -/

/-- What has been read from a pipe, and what is in it. -/
structure Pipe (Symbol : Type) where
  passed : List Symbol
  pending : List Symbol

namespace Pipe

def empty : Pipe Symbol := ⟨[], []⟩

def take (pipe : Pipe Symbol) (count : Nat) : Pipe Symbol :=
  ⟨pipe.passed ++ pipe.pending.take count, pipe.pending.drop count⟩

def push (pipe : Pipe Symbol) (symbols : List Symbol) : Pipe Symbol :=
  ⟨pipe.passed, pipe.pending ++ symbols⟩

theorem take_push {pipe : Pipe Symbol} {count : Nat} (available : count ≤ pipe.pending.length)
    (symbols : List Symbol) : (pipe.push symbols).take count = (pipe.take count).push symbols := by
  simp [take, push, List.take_append_of_le_length available,
    List.drop_append_of_le_length available]

end Pipe

structure Conversation (P Q Symbol : Type) where
  left : P
  right : Q
  toRight : Pipe Symbol
  toLeft : Pipe Symbol

inductive Side where
  | left
  | right
deriving DecidableEq

namespace Conversation

def start (first : P) (second : Q) : Conversation P Q Symbol := ⟨first, second, .empty, .empty⟩

def step (left : Party P Symbol) (right : Party Q Symbol) (talk : Conversation P Q Symbol) :
    Side → Option (Conversation P Q Symbol)
  | .left => (left.step talk.left talk.toLeft.pending).map fun act =>
      ⟨act.next, talk.right, talk.toRight.push act.output, talk.toLeft.take act.count⟩
  | .right => (right.step talk.right talk.toRight.pending).map fun act =>
      ⟨talk.left, act.next, talk.toRight.take act.count, talk.toLeft.push act.output⟩

/-- A step of one party leaves the other one's step as it was. -/
theorem commutes : Machine.Commutes (step left right) := by
  intro talk side other next alternative distinct stepped steppedOther
  have sides : ∀ {first second : Conversation P Q Symbol},
      step left right talk .left = some first → step left right talk .right = some second →
      ∃ joined, step left right first .right = some joined ∧
        step left right second .left = some joined := by
    intro first second ofLeft ofRight
    obtain ⟨act, acts, rfl⟩ := Option.map_eq_some_iff.mp ofLeft
    obtain ⟨reply, replies, rfl⟩ := Option.map_eq_some_iff.mp ofRight
    refine ⟨⟨act.next, reply.next, (talk.toRight.push act.output).take reply.count,
      (talk.toLeft.push reply.output).take act.count⟩, ?_, ?_⟩
    · apply Option.map_eq_some_iff.mpr
      refine ⟨reply, right.monotone replies act.output, ?_⟩
      rw [Pipe.take_push (left.available acts)]
    · apply Option.map_eq_some_iff.mpr
      refine ⟨act, left.monotone acts reply.output, ?_⟩
      rw [Pipe.take_push (right.available replies)]
  cases side with
  | left =>
      cases other with
      | left => exact absurd rfl distinct
      | right => exact sides stepped steppedOther
  | right =>
      cases other with
      | left =>
          obtain ⟨joined, first, second⟩ := sides steppedOther stepped
          exact ⟨joined, second, first⟩
      | right => exact absurd rfl distinct

/-- Some interleaving leads from one state of the conversation to the other. -/
def Reaches (left : Party P Symbol) (right : Party Q Symbol)
    (first last : Conversation P Q Symbol) : Prop :=
  ∃ sides, Machine.run (step left right) first sides = some last

theorem Reaches.refl (talk : Conversation P Q Symbol) : Reaches left right talk talk := ⟨[], rfl⟩

theorem Reaches.trans {first middle last : Conversation P Q Symbol}
    (reaches : Reaches left right first middle) (further : Reaches left right middle last) :
    Reaches left right first last := by
  obtain ⟨sides, reached⟩ := reaches
  obtain ⟨more, reachedLast⟩ := further
  exact ⟨sides ++ more, Machine.run_append_eq_some.mpr ⟨middle, reached, reachedLast⟩⟩

/-- A solo run of the left party, on what stands first in its pipe. -/
theorem reaches_of_solo_left {first last : P} {input output : List Symbol}
    (solo : Solo left first input last output) {other : Q} {toRight : Pipe Symbol}
    {passed pending : List Symbol} :
    Reaches left right ⟨first, other, toRight, ⟨passed, input ++ pending⟩⟩
      ⟨last, other, toRight.push output, ⟨passed ++ input, pending⟩⟩ := by
  induction solo generalizing toRight passed with
  | refl state => simpa [Pipe.push] using Reaches.refl _
  | @step state last input rest output act acts all solo inductionHypothesis =>
      have stepped : step left right
          ⟨state, other, toRight, ⟨passed, input ++ (rest ++ pending)⟩⟩ .left =
          some ⟨act.next, other, toRight.push act.output, ⟨passed ++ input, rest ++ pending⟩⟩ := by
        apply Option.map_eq_some_iff.mpr
        refine ⟨act, left.monotone acts _, ?_⟩
        simp [Pipe.take, all]
      have further : Reaches left right
          ⟨act.next, other, toRight.push act.output, ⟨passed ++ input, rest ++ pending⟩⟩
          ⟨last, other, (toRight.push act.output).push output,
            ⟨passed ++ input ++ rest, pending⟩⟩ := inductionHypothesis
      obtain ⟨sides, reached⟩ := further
      refine ⟨.left :: sides, ?_⟩
      rw [List.append_assoc, Machine.run_cons_of_step stepped, reached]
      simp [Pipe.push]

theorem reaches_of_solo_right {first last : Q} {input output : List Symbol}
    (solo : Solo right first input last output) {other : P} {toLeft : Pipe Symbol}
    {passed pending : List Symbol} :
    Reaches left right ⟨other, first, ⟨passed, input ++ pending⟩, toLeft⟩
      ⟨other, last, ⟨passed ++ input, pending⟩, toLeft.push output⟩ := by
  induction solo generalizing toLeft passed with
  | refl state => simpa [Pipe.push] using Reaches.refl _
  | @step state last input rest output act acts all solo inductionHypothesis =>
      have stepped : step left right
          ⟨other, state, ⟨passed, input ++ (rest ++ pending)⟩, toLeft⟩ .right =
          some ⟨other, act.next, ⟨passed ++ input, rest ++ pending⟩, toLeft.push act.output⟩ := by
        apply Option.map_eq_some_iff.mpr
        refine ⟨act, right.monotone acts _, ?_⟩
        simp [Pipe.take, all]
      have further : Reaches left right
          ⟨other, act.next, ⟨passed ++ input, rest ++ pending⟩, toLeft.push act.output⟩
          ⟨other, last, ⟨passed ++ input ++ rest, pending⟩,
            (toLeft.push act.output).push output⟩ := inductionHypothesis
      obtain ⟨sides, reached⟩ := further
      refine ⟨.right :: sides, ?_⟩
      rw [List.append_assoc, Machine.run_cons_of_step stepped, reached]
      simp [Pipe.push]

/-- What one party has answered to the other is answered in the conversation. -/
theorem Reaches.thenLeft {talk : Conversation P Q Symbol} {first last : P} {other : Q}
    {asked said : List Symbol} {output heard : List Symbol}
    (reaches : Reaches left right talk ⟨first, other, ⟨said, []⟩, ⟨heard, asked⟩⟩)
    (solo : Solo left first asked last output) :
    Reaches left right talk ⟨last, other, ⟨said, output⟩, ⟨heard ++ asked, []⟩⟩ := by
  have further : Reaches left right ⟨first, other, ⟨said, []⟩, ⟨heard, asked ++ []⟩⟩
      ⟨last, other, Pipe.push ⟨said, []⟩ output, ⟨heard ++ asked, []⟩⟩ :=
    reaches_of_solo_left solo
  rw [List.append_nil] at further
  exact reaches.trans further

theorem Reaches.thenRight {talk : Conversation P Q Symbol} {first last : Q} {other : P}
    {asked said : List Symbol} {output heard : List Symbol}
    (reaches : Reaches left right talk ⟨other, first, ⟨heard, asked⟩, ⟨said, []⟩⟩)
    (solo : Solo right first asked last output) :
    Reaches left right talk ⟨other, last, ⟨heard ++ asked, []⟩, ⟨said, output⟩⟩ := by
  have further : Reaches left right ⟨other, first, ⟨heard, asked ++ []⟩, ⟨said, []⟩⟩
      ⟨other, last, ⟨heard ++ asked, []⟩, Pipe.push ⟨said, []⟩ output⟩ :=
    reaches_of_solo_right solo
  rw [List.append_nil] at further
  exact reaches.trans further

/-- If some interleaving ends the conversation, every interleaving comes to that
end if it goes on, and to no other. -/
theorem ends_alike {first last middle : Conversation P Q Symbol}
    (reaches : Reaches left right first last) (stuck : Machine.IsStuck (step left right) last)
    {sides : List Side} (reached : Machine.run (step left right) first sides = some middle) :
    Reaches left right middle last ∧
      (Machine.IsStuck (step left right) middle → middle = last) := by
  obtain ⟨complete, run⟩ := reaches
  obtain ⟨rest, further, -⟩ := Machine.run_completes commutes stuck run reached
  refine ⟨⟨rest, further⟩, fun stuckToo => ?_⟩
  cases rest with
  | nil => exact Option.some.inj further
  | cons side rest =>
      rw [Machine.run_cons, stuckToo side] at further
      cases further

end Conversation

end Duplex
