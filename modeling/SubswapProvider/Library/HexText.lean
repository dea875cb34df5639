import Mathlib

/-!
# Bytes as hexadecimal text

`bytes.hex()` and `bytes.fromhex(s)`. Reading takes digits of both cases and skips spaces between the
bytes; what has been written is read back (`decode_encode`).
-/

namespace SubswapProvider.HexText

/-- The digit of a number below 16. -/
def digit (n : Nat) : Char := "0123456789abcdef".toList.getD n '0'

/-- The number a digit stands for. -/
def value (c : Char) : Option Nat :=
  if '0' ≤ c ∧ c ≤ '9' then some (c.toNat - '0'.toNat)
  else if 'a' ≤ c ∧ c ≤ 'f' then some (c.toNat - 'a'.toNat + 10)
  else if 'A' ≤ c ∧ c ≤ 'F' then some (c.toNat - 'A'.toNat + 10)
  else none

/-- What `bytes.fromhex` skips. -/
def isSpace (c : Char) : Bool := c ∈ [' ', '\t', '\n', '\r', '\x0b', '\x0c']

def encodeChars : List UInt8 → List Char
  | [] => []
  | b :: bs => digit (b.toNat / 16) :: digit (b.toNat % 16) :: encodeChars bs

def decodeChars : List Char → Option (List UInt8)
  | [] => some []
  | [c] => if isSpace c then some [] else none
  | c :: c' :: rest =>
    if isSpace c then decodeChars (c' :: rest)
    else
      match value c, value c' with
      | some high, some low => (decodeChars rest).map (UInt8.ofNat (16 * high + low) :: ·)
      | _, _ => none

/-- `b.hex()`. -/
def encode (b : List UInt8) : String := String.ofList (encodeChars b)

/-- `bytes.fromhex(s)`. -/
def decode (s : String) : Option (List UInt8) := decodeChars s.toList

theorem value_digit : ∀ n < 16, value (digit n) = some n := by decide

theorem isSpace_digit : ∀ n < 16, isSpace (digit n) = false := by decide

theorem decodeChars_encodeChars (b : List UInt8) : decodeChars (encodeChars b) = some b := by
  induction b with
  | nil => rfl
  | cons b bs ih =>
    have hlt : b.toNat < 256 := b.toNat_lt
    have hhigh : b.toNat / 16 < 16 := by omega
    have hlow : b.toNat % 16 < 16 := by omega
    have hbyte : 16 * (b.toNat / 16) + b.toNat % 16 = b.toNat := by omega
    unfold encodeChars decodeChars
    rw [isSpace_digit _ hhigh, value_digit _ hhigh, value_digit _ hlow, ih]
    simp [hbyte]

/-- **The round trip.** -/
theorem decode_encode (b : List UInt8) : decode (encode b) = some b := by
  unfold decode encode
  rw [String.toList_ofList]
  exact decodeChars_encodeChars b

end SubswapProvider.HexText
