import SimpleForwarder.Lib.IpAddr

/-!
Contract: addresses and ports as the bytes of a protocol field.

Owns: big-endian `u16`, the octets of IPv4 and IPv6 addresses, and that
reading the octets of an address gives the address.

Does not own: where a protocol puts them.
-/

namespace IpText

open RustText

/-- A block of fixed size, byte by byte. -/
theorem toList_eq_ofFn {size : Nat} (block : Vector UInt8 size) :
    block.toList = List.ofFn fun index : Fin size => block[index] :=
  List.ext_getElem (by simp) fun index _ _ => by simp

/-- `block[index]`, where the size of the block admits the index. -/
def byteAt {rest : Nat} (index : Nat) (block : Vector UInt8 (rest + 1 + index)) : UInt8 :=
  block[index]

/-- Bytes of a known number, as a read of that many returns them. -/
theorem exists_block {size : Nat} {bytes : Bytes} (length : bytes.length = size) :
    ∃ block : Vector UInt8 size, block.toList = bytes :=
  ⟨⟨bytes.toArray, List.size_toArray.trans length⟩, rfl⟩

/-- `u16::to_be_bytes`. -/
def toBeBytes (value : UInt16) : Bytes :=
  [UInt8.ofNat (value.toNat / 256), UInt8.ofNat (value.toNat % 256)]

@[simp] theorem length_toBeBytes (value : UInt16) : (toBeBytes value).length = 2 := rfl

theorem toBeBytes_injective {left right : UInt16} (same : toBeBytes left = toBeBytes right) :
    left = right := by
  rw [toBeBytes, toBeBytes, List.cons.injEq, List.cons.injEq] at same
  rw [← fromBeBytes_split left, same.1, same.2.1, fromBeBytes_split]

theorem toBeBytes_fromBeBytes (high low : UInt8) :
    toBeBytes (fromBeBytes high low) = [high, low] := by
  have highBound := high.toNat_lt
  have lowBound := low.toNat_lt
  have value : (fromBeBytes high low).toNat = high.toNat * 256 + low.toNat := by
    rw [fromBeBytes, UInt16.toNat_ofNat']
    omega
  have first : (high.toNat * 256 + low.toNat) / 256 = high.toNat := by omega
  have second : (high.toNat * 256 + low.toNat) % 256 = low.toNat := by omega
  rw [toBeBytes, value, first, second, UInt8.ofNat_toNat, UInt8.ofNat_toNat]

/-- `u16::from_be_bytes` of a two-byte field. -/
def portOf (field : Vector UInt8 2) : UInt16 := fromBeBytes field[0] field[1]

theorem portOf_of_toList {field : Vector UInt8 2} {port : UInt16}
    (bytes : field.toList = toBeBytes port) : portOf field = port := by
  have first : field[0] = UInt8.ofNat (port.toNat / 256) := by
    rw [← Vector.getElem_toList (by simp)]
    simp only [bytes, toBeBytes, List.getElem_cons_zero]
  have second : field[1] = UInt8.ofNat (port.toNat % 256) := by
    rw [← Vector.getElem_toList (by simp)]
    simp only [bytes, toBeBytes, List.getElem_cons_succ, List.getElem_cons_zero]
  rw [portOf, first, second, fromBeBytes_split]

def Ipv4Addr.octets (addr : Ipv4Addr) : Bytes := [addr.first, addr.second, addr.third, addr.fourth]

/-- `Ipv4Addr::from` of four bytes. -/
def Ipv4Addr.ofOctets (octets : Vector UInt8 4) : Ipv4Addr :=
  ⟨octets[0], octets[1], octets[2], octets[3]⟩

theorem Ipv4Addr.octets_ofOctets (octets : Vector UInt8 4) :
    (ofOctets octets).octets = octets.toList := by
  rw [toList_eq_ofFn]
  rfl

theorem Ipv4Addr.octets_injective {left right : Ipv4Addr} (same : left.octets = right.octets) :
    left = right := by
  obtain ⟨first, second, third, fourth⟩ := left
  obtain ⟨first', second', third', fourth'⟩ := right
  simpa only [octets, List.cons.injEq, and_true, mk.injEq] using same

def Ipv6Addr.octets (addr : Ipv6Addr) : Bytes := addr.segments.flatMap toBeBytes

/-- The segments of pairs of octets. -/
def pairSegments : Bytes → List UInt16
  | high :: low :: rest => fromBeBytes high low :: pairSegments rest
  | _ => []

theorem length_pairSegments {count : Nat} :
    ∀ {octets : Bytes}, octets.length = 2 * count → (pairSegments octets).length = count := by
  induction count with
  | zero =>
      intro octets none
      rw [List.length_eq_zero_iff.mp none]
      rfl
  | succ count inductionHypothesis =>
      intro octets length
      match octets, length with
      | high :: low :: rest, length =>
          rw [List.length_cons, List.length_cons] at length
          rw [pairSegments, List.length_cons, inductionHypothesis (by omega)]

theorem pairSegments_flatMap_toBeBytes (segments : List UInt16) :
    pairSegments (segments.flatMap toBeBytes) = segments := by
  induction segments with
  | nil => rfl
  | cons segment segments inductionHypothesis =>
      rw [List.flatMap_cons, toBeBytes, List.cons_append, List.cons_append, List.nil_append,
        pairSegments, fromBeBytes_split, inductionHypothesis]

theorem flatMap_toBeBytes_pairSegments {count : Nat} :
    ∀ {octets : Bytes}, octets.length = 2 * count →
      (pairSegments octets).flatMap toBeBytes = octets := by
  induction count with
  | zero =>
      intro octets none
      rw [List.length_eq_zero_iff.mp none]
      rfl
  | succ count inductionHypothesis =>
      intro octets length
      match octets, length with
      | high :: low :: rest, length =>
          rw [List.length_cons, List.length_cons] at length
          rw [pairSegments, List.flatMap_cons, toBeBytes_fromBeBytes,
            inductionHypothesis (by omega)]
          rfl

theorem Ipv6Addr.octets_injective {left right : Ipv6Addr} (same : left.octets = right.octets) :
    left = right := by
  have paired : pairSegments left.octets = pairSegments right.octets := by rw [same]
  rw [octets, octets, pairSegments_flatMap_toBeBytes, pairSegments_flatMap_toBeBytes] at paired
  exact eq_of_segments paired

/-- `Ipv6Addr::from` of sixteen bytes. -/
def Ipv6Addr.ofOctets (octets : Vector UInt8 16) : Ipv6Addr where
  segments := pairSegments octets.toList
  size := length_pairSegments (by rw [Vector.length_toList])

theorem Ipv6Addr.length_octets (addr : Ipv6Addr) : addr.octets.length = 16 := by
  have each : ∀ segments : List UInt16,
      (segments.flatMap toBeBytes).length = 2 * segments.length := by
    intro segments
    induction segments with
    | nil => rfl
    | cons segment segments inductionHypothesis =>
        rw [List.flatMap_cons, List.length_append, inductionHypothesis, length_toBeBytes,
          List.length_cons]
        omega
  rw [Ipv6Addr.octets, each, addr.size]

theorem Ipv6Addr.octets_ofOctets (octets : Vector UInt8 16) :
    (ofOctets octets).octets = octets.toList := by
  have length : octets.toList.length = 2 * 8 := octets.length_toList
  exact flatMap_toBeBytes_pairSegments length

theorem Ipv6Addr.ofOctets_of_toList {octets : Vector UInt8 16} {addr : Ipv6Addr}
    (bytes : octets.toList = addr.octets) : ofOctets octets = addr := by
  refine eq_of_segments ?_
  unfold ofOctets
  dsimp only
  rw [bytes, Ipv6Addr.octets, pairSegments_flatMap_toBeBytes]

def IpAddr.octets : IpAddr → Bytes
  | .v4 addr => addr.octets
  | .v6 addr => addr.octets

end IpText
