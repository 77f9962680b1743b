import SimpleForwarder.Lib.Text

/-!
Contract: UTF-16.

Owns: the encoding of text in 16-bit units (`encode_utf16`), the decoding that
puts the replacement character for what is not well-formed
(`from_utf16_lossy`), units as bytes with the low one first, and the round trips.

Does not own: terminating zeros, and buffers.
-/

namespace RustText

abbrev Wide := List UInt16

/-- One unit, or a pair of surrogates. -/
def encodeUtf16Char (char : Char) : Wide :=
  let code := char.toNat
  if code < 0x10000 then [.ofNat code]
  else [.ofNat (0xD800 + (code - 0x10000) / 0x400), .ofNat (0xDC00 + (code - 0x10000) % 0x400)]

def encodeUtf16 (text : Text) : Wide := text.flatMap encodeUtf16Char

def isHighSurrogate (unit : UInt16) : Bool := 0xD800 ≤ unit.toNat && unit.toNat < 0xDC00

def isLowSurrogate (unit : UInt16) : Bool := 0xDC00 ≤ unit.toNat && unit.toNat < 0xE000

def joinSurrogates (high low : UInt16) : Char :=
  .ofNat (0x10000 + (high.toNat - 0xD800) * 0x400 + (low.toNat - 0xDC00))

def fromUtf16Lossy : Wide → Text
  | [] => []
  | [unit] =>
      [if isHighSurrogate unit || isLowSurrogate unit then replacementChar else .ofNat unit.toNat]
  | unit :: second :: rest =>
      if isLowSurrogate unit then replacementChar :: fromUtf16Lossy (second :: rest)
      else if isHighSurrogate unit then
        if isLowSurrogate second then joinSurrogates unit second :: fromUtf16Lossy rest
        -- the second unit is decoded on its own
        else replacementChar :: fromUtf16Lossy (second :: rest)
      else .ofNat unit.toNat :: fromUtf16Lossy (second :: rest)

/-! ## Round trip -/

/-- A unit that is not a surrogate is decoded alone. -/
theorem fromUtf16Lossy_cons_of_plain {unit : UInt16} (rest : Wide)
    (notLow : isLowSurrogate unit = false) (notHigh : isHighSurrogate unit = false) :
    fromUtf16Lossy (unit :: rest) = .ofNat unit.toNat :: fromUtf16Lossy rest := by
  cases rest with
  | nil => simp [fromUtf16Lossy, notLow, notHigh]
  | cons second rest => simp [fromUtf16Lossy, notLow, notHigh]

theorem fromUtf16Lossy_encode_append (char : Char) (rest : Wide) :
    fromUtf16Lossy (encodeUtf16Char char ++ rest) = char :: fromUtf16Lossy rest := by
  have bounds : char.toNat < 0xD800 ∨ (0xDFFF < char.toNat ∧ char.toNat < 0x110000) := char.valid
  unfold encodeUtf16Char
  by_cases basic : char.toNat < 0x10000
  · have value : (UInt16.ofNat char.toNat).toNat = char.toNat := by
      rw [UInt16.toNat_ofNat']
      omega
    have notLow : isLowSurrogate (.ofNat char.toNat) = false := by
      rw [isLowSurrogate, value]
      simp
      omega
    have notHigh : isHighSurrogate (.ofNat char.toNat) = false := by
      rw [isHighSurrogate, value]
      simp
      omega
    rw [if_pos basic, List.singleton_append,
      fromUtf16Lossy_cons_of_plain rest notLow notHigh, value,
      Char.ofNat_toNat]
  · have high : (UInt16.ofNat (0xD800 + (char.toNat - 0x10000) / 0x400)).toNat =
        0xD800 + (char.toNat - 0x10000) / 0x400 := by
      rw [UInt16.toNat_ofNat']
      omega
    have low : (UInt16.ofNat (0xDC00 + (char.toNat - 0x10000) % 0x400)).toNat =
        0xDC00 + (char.toNat - 0x10000) % 0x400 := by
      rw [UInt16.toNat_ofNat']
      omega
    have isHigh : isHighSurrogate (.ofNat (0xD800 + (char.toNat - 0x10000) / 0x400)) = true := by
      rw [isHighSurrogate, high]
      simp
      omega
    have highNotLow :
        isLowSurrogate (.ofNat (0xD800 + (char.toNat - 0x10000) / 0x400)) = false := by
      rw [isLowSurrogate, high]
      simp
      omega
    have isLow : isLowSurrogate (.ofNat (0xDC00 + (char.toNat - 0x10000) % 0x400)) = true := by
      rw [isLowSurrogate, low]
      simp
      omega
    have joined : 0x10000 + (char.toNat - 0x10000) / 0x400 * 0x400 +
        (char.toNat - 0x10000) % 0x400 = char.toNat := by
      omega
    rw [if_neg basic, List.cons_append, List.singleton_append, fromUtf16Lossy,
      if_neg (Bool.eq_false_iff.mp highNotLow), if_pos isHigh, if_pos isLow, joinSurrogates, high,
      low, Nat.add_sub_cancel_left, Nat.add_sub_cancel_left, joined, Char.ofNat_toNat]

/-- Decoding gives back every encoded text. -/
theorem fromUtf16Lossy_encodeUtf16 (text : Text) : fromUtf16Lossy (encodeUtf16 text) = text := by
  induction text with
  | nil => rfl
  | cons char text inductionHypothesis =>
      rw [encodeUtf16, List.flatMap_cons, fromUtf16Lossy_encode_append]
      exact congrArg (char :: ·) inductionHypothesis

/-! ## Bytes -/

def unitBytes (unit : UInt16) : Bytes := [.ofNat (unit.toNat % 256), .ofNat (unit.toNat / 256)]

/-- The memory of the units, as bytes. -/
def wideBytes (wide : Wide) : Bytes := wide.flatMap unitBytes

/-- The units that bytes in memory are; a last single byte is left out. -/
def readUnits : Bytes → Wide
  | low :: high :: rest => .ofNat (low.toNat + 256 * high.toNat) :: readUnits rest
  | _ => []

theorem readUnits_wideBytes_append (wide : Wide) (rest : Bytes) :
    readUnits (wideBytes wide ++ rest) = wide ++ readUnits rest := by
  induction wide with
  | nil => rfl
  | cons unit wide inductionHypothesis =>
      have bound := unit.toNat_lt
      have value : unit.toNat % 256 + 256 * (unit.toNat / 256) = unit.toNat := Nat.mod_add_div _ _
      have low : (UInt8.ofNat (unit.toNat % 256)).toNat = unit.toNat % 256 := by
        rw [UInt8.toNat_ofNat']
        omega
      have high : (UInt8.ofNat (unit.toNat / 256)).toNat = unit.toNat / 256 := by
        rw [UInt8.toNat_ofNat']
        omega
      rw [wideBytes, List.flatMap_cons, unitBytes, List.cons_append, List.singleton_append,
        List.cons_append, List.cons_append, readUnits, low, high, value, UInt16.ofNat_toNat]
      exact congrArg (unit :: ·) inductionHypothesis

theorem length_wideBytes (wide : Wide) : (wideBytes wide).length = 2 * wide.length := by
  induction wide with
  | nil => rfl
  | cons unit wide inductionHypothesis =>
      rw [wideBytes, List.flatMap_cons, List.length_append, List.length_cons]
      rw [wideBytes] at inductionHypothesis
      rw [inductionHypothesis]
      show 2 + 2 * wide.length = 2 * (wide.length + 1)
      omega

end RustText
