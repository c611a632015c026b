import Mathlib

/-!
# Unpadded base64url

`RawURLEncoding`: the decoder skips line breaks and does not look at the unused
bits of the last symbol, so that several texts decode to the same bytes.
-/

namespace Vc.Base64

open UInt8 List

/-- The symbol of a six-bit value. -/
def symbol (value : Nat) : Char :=
  if value < 26 then Char.ofNat ('A'.toNat + value)
  else if value < 52 then Char.ofNat ('a'.toNat + (value - 26))
  else if value < 62 then Char.ofNat ('0'.toNat + (value - 52))
  else if value = 62 then '-'
  else '_'

/-- The value of a symbol. -/
def value? (char : Char) : Option Nat :=
  if 'A' ≤ char ∧ char ≤ 'Z' then some (char.toNat - 'A'.toNat)
  else if 'a' ≤ char ∧ char ≤ 'z' then some (char.toNat - 'a'.toNat + 26)
  else if '0' ≤ char ∧ char ≤ '9' then some (char.toNat - '0'.toNat + 52)
  else if char = '-' then some 62
  else if char = '_' then some 63
  else none

/-- `EncodeToString` -/
def encode : List UInt8 → List Char
  | [] => []
  | [a] => [symbol (a.toNat / 4), symbol (a.toNat % 4 * 16)]
  | [a, b] =>
    [symbol (a.toNat / 4), symbol (a.toNat % 4 * 16 + b.toNat / 16), symbol (b.toNat % 16 * 4)]
  | a :: b :: c :: rest =>
    symbol (a.toNat / 4) :: symbol (a.toNat % 4 * 16 + b.toNat / 16) ::
      symbol (b.toNat % 16 * 4 + c.toNat / 64) :: symbol (c.toNat % 64) :: encode rest

/-- The bytes of a sequence of six-bit values. -/
def bytesOf : List Nat → Option (List UInt8)
  | [] => some []
  | [_] => none
  | [a, b] => some [ofNat (a * 4 + b / 16)]
  | [a, b, c] => some [ofNat (a * 4 + b / 16), ofNat (b % 16 * 16 + c / 4)]
  | a :: b :: c :: d :: rest => (bytesOf rest).map fun bytes =>
    ofNat (a * 4 + b / 16) :: ofNat (b % 16 * 16 + c / 4) ::
      ofNat (c % 4 * 64 + d) :: bytes

/-- `DecodeString` -/
def decode (text : List Char) : Option (List UInt8) :=
  ((text.filter fun char => char ≠ '\n' ∧ char ≠ '\r').mapM value?).bind bytesOf

/-- The bytes of which a text is the one encoding. -/
def decodeCanonical (text : List Char) : Option (List UInt8) :=
  match decode text with
  | none => none
  | some bytes => if encode bytes = text then some bytes else none

example : decodeCanonical "_-8B".toList = some [0xff, 0xef, 0x01] := by decide +kernel

-- the unused bits of the last symbol have to be zero
example : decodeCanonical "AQ".toList = some [1] ∧ decodeCanonical "AR".toList = none := by
  decide +kernel

/-! ## Round trip -/

/-- The six-bit values that encode some bytes. -/
def sextets : List UInt8 → List Nat
  | [] => []
  | [a] => [a.toNat / 4, a.toNat % 4 * 16]
  | [a, b] => [a.toNat / 4, a.toNat % 4 * 16 + b.toNat / 16, b.toNat % 16 * 4]
  | a :: b :: c :: rest =>
    a.toNat / 4 :: (a.toNat % 4 * 16 + b.toNat / 16) :: (b.toNat % 16 * 4 + c.toNat / 64) ::
      c.toNat % 64 :: sextets rest

variable (bytes : List UInt8)

theorem encode_eq_map : encode bytes = (sextets bytes).map symbol := by
  fun_induction encode bytes with
  | case1 => rfl
  | case2 => rfl
  | case3 => rfl
  | case4 a b c rest ih => simp [sextets, ih]

theorem sextets_lt : ∀ value ∈ sextets bytes, value < 64 := by
  fun_induction sextets bytes with
  | case1 => simp
  | case2 a =>
    have := a.toNat_lt
    simp only [forall_mem_cons, not_mem_nil, false_imp_iff, implies_true, and_true]
    omega
  | case3 a b =>
    have := a.toNat_lt
    have := b.toNat_lt
    simp only [forall_mem_cons, not_mem_nil, false_imp_iff, implies_true, and_true]
    omega
  | case4 a b c rest ih =>
    have := a.toNat_lt
    have := b.toNat_lt
    have := c.toNat_lt
    simp only [forall_mem_cons]
    exact ⟨by omega, by omega, by omega, by omega, ih⟩

theorem ofNat_eq {value : Nat} {byte : UInt8} (same : value = byte.toNat) :
    UInt8.ofNat value = byte := by
  rw [same, UInt8.ofNat_toNat]

theorem bytesOf_sextets : bytesOf (sextets bytes) = some bytes := by
  fun_induction sextets bytes with
  | case1 => rfl
  | case2 a =>
    simp only [bytesOf, ofNat_eq (show a.toNat / 4 * 4 + a.toNat % 4 * 16 / 16 = a.toNat by omega)]
  | case3 a b =>
    have := b.toNat_lt
    simp only [bytesOf,
      ofNat_eq (show a.toNat / 4 * 4 + (a.toNat % 4 * 16 + b.toNat / 16) / 16 = a.toNat by omega),
      ofNat_eq (show (a.toNat % 4 * 16 + b.toNat / 16) % 16 * 16 + b.toNat % 16 * 4 / 4 =
        b.toNat by omega)]
  | case4 a b c rest ih =>
    have := b.toNat_lt
    have := c.toNat_lt
    simp only [bytesOf, ih, Option.map_some,
      ofNat_eq (show a.toNat / 4 * 4 + (a.toNat % 4 * 16 + b.toNat / 16) / 16 = a.toNat by omega),
      ofNat_eq (show (a.toNat % 4 * 16 + b.toNat / 16) % 16 * 16 +
        (b.toNat % 16 * 4 + c.toNat / 64) / 4 = b.toNat by omega),
      ofNat_eq (show (b.toNat % 16 * 4 + c.toNat / 64) % 4 * 64 + c.toNat % 64 = c.toNat by omega)]

theorem value?_symbol : ∀ value < 64, value? (symbol value) = some value := by
  decide

theorem symbol_ne_newline : ∀ value < 64, symbol value ≠ '\n' ∧ symbol value ≠ '\r' := by
  decide

theorem decode_encode : decode (encode bytes) = some bytes := by
  have kept : (encode bytes).filter (fun char => char ≠ '\n' ∧ char ≠ '\r') = encode bytes := by
    refine filter_eq_self.mpr fun char member => ?_
    rw [encode_eq_map] at member
    obtain ⟨value, inside, rfl⟩ := mem_map.mp member
    simpa using symbol_ne_newline _ (sextets_lt _ _ inside)
  have values : (encode bytes).mapM value? = some (sextets bytes) := by
    rw [encode_eq_map]
    have small := sextets_lt bytes
    generalize sextets bytes = symbols at small ⊢
    induction symbols with
    | nil => rfl
    | cons first rest ih =>
      obtain ⟨here, later⟩ := forall_mem_cons.mp small
      simp [value?_symbol first here, ih later]
  rw [decode, kept, values, Option.bind_some, bytesOf_sextets]

end Vc.Base64
