import Mathlib.Data.List.Basic

/-!
Contract: messages that delimit themselves in a byte stream.

Owns: encodings in which no message begins another one, and the payload that
follows the message a stream starts with.

Does not own: any particular encoding.
-/

namespace Framing

variable {Message α : Type} {encode : Message → List α} {Valid : Message → Prop}

/-- No valid message begins another one: a stream starts with at most one. -/
def PrefixFree (encode : Message → List α) (Valid : Message → Prop) : Prop :=
  ∀ ⦃message other : Message⦄ ⦃rest otherRest : List α⦄, Valid message → Valid other →
    encode message ++ rest = encode other ++ otherRest → message = other

/-- `stream` is a valid message and the `payload` that follows it. -/
structure IsFramed (encode : Message → List α) (Valid : Message → Prop) (stream : List α)
    (message : Message) (payload : List α) : Prop where
  valid : Valid message
  split : stream = encode message ++ payload

theorem PrefixFree.message_unique (prefixFree : PrefixFree encode Valid) {stream : List α}
    {message other : Message} {payload otherPayload : List α}
    (framed : IsFramed encode Valid stream message payload)
    (otherFramed : IsFramed encode Valid stream other otherPayload) : message = other :=
  prefixFree framed.valid otherFramed.valid (framed.split.symm.trans otherFramed.split)

theorem PrefixFree.payload_unique (prefixFree : PrefixFree encode Valid) {stream : List α}
    {message other : Message} {payload otherPayload : List α}
    (framed : IsFramed encode Valid stream message payload)
    (otherFramed : IsFramed encode Valid stream other otherPayload) : payload = otherPayload := by
  have same := prefixFree.message_unique framed otherFramed
  have split := framed.split
  rw [otherFramed.split, same] at split
  exact (List.append_cancel_left split).symm

/-- What arrives later extends the payload. -/
theorem IsFramed.append {stream payload : List α} {message : Message}
    (framed : IsFramed encode Valid stream message payload) (more : List α) :
    IsFramed encode Valid (stream ++ more) message (payload ++ more) where
  valid := framed.valid
  split := by rw [framed.split, List.append_assoc]

end Framing
