import Mathlib.Tactic.Common

/-!
# Base64 with padding

The standard alphabet, padded to whole groups of four characters. Decoding is
strict: padding is required, stands only at the end, and the bits it leaves over
must be zero. Encoding is therefore the only text that decodes to given bytes.
-/

namespace Base64

/-- The character of a six-bit value. -/
def digit (n : Nat) : Char :=
  if n < 26 then Char.ofNat (65 + n)
  else if n < 52 then Char.ofNat (71 + n)
  else if n < 62 then Char.ofNat (n - 4)
  else if n = 62 then '+' else '/'

/-- The six-bit value of a character of the alphabet. -/
def value (c : Char) : Option Nat :=
  if 'A' ≤ c ∧ c ≤ 'Z' then some (c.toNat - 65)
  else if 'a' ≤ c ∧ c ≤ 'z' then some (c.toNat - 71)
  else if '0' ≤ c ∧ c ≤ '9' then some (c.toNat + 4)
  else if c = '+' then some 62
  else if c = '/' then some 63
  else none

/-- Three bytes give four characters; one or two bytes at the end are padded. -/
def encode : List UInt8 → List Char
  | [] => []
  | [a] => [digit (a.toNat / 4), digit (a.toNat % 4 * 16), '=', '=']
  | [a, b] =>
      [digit (a.toNat / 4), digit (a.toNat % 4 * 16 + b.toNat / 16), digit (b.toNat % 16 * 4), '=']
  | a :: b :: c :: rest =>
      digit (a.toNat / 4) :: digit (a.toNat % 4 * 16 + b.toNat / 16) ::
        digit (b.toNat % 16 * 4 + c.toNat / 64) :: digit (c.toNat % 64) :: encode rest

/-- One unpadded group. -/
def decodeGroup (a b c d : Char) : Option (List UInt8) := do
  let w ← value a
  let x ← value b
  let y ← value c
  let z ← value d
  return [UInt8.ofNat (w * 4 + x / 16), UInt8.ofNat (x % 16 * 16 + y / 4),
    UInt8.ofNat (y % 4 * 64 + z)]

/-- The last group when one padding character ends it. -/
def decodePadded (a b c : Char) : Option (List UInt8) := do
  let w ← value a
  let x ← value b
  let y ← value c
  if y % 4 = 0 then return [UInt8.ofNat (w * 4 + x / 16), UInt8.ofNat (x % 16 * 16 + y / 4)]
  else none

/-- The last group when two padding characters end it. -/
def decodeTwicePadded (a b : Char) : Option (List UInt8) := do
  let w ← value a
  let x ← value b
  if x % 16 = 0 then return [UInt8.ofNat (w * 4 + x / 16)] else none

def decode : List Char → Option (List UInt8)
  | [] => some []
  | a :: b :: c :: d :: rest =>
      if d ≠ '=' then do return (← decodeGroup a b c d) ++ (← decode rest)
      else if rest ≠ [] then none
      else if c ≠ '=' then decodePadded a b c
      else decodeTwicePadded a b
  | _ => none

theorem value_digit {n : Nat} (h : n < 64) : value (digit n) = some n := by
  have all : ∀ n : Fin 64, value (digit n) = some n.val := by decide
  exact all ⟨n, h⟩

theorem digit_ne_pad {n : Nat} (h : n < 64) : digit n ≠ '=' := by
  have all : ∀ n : Fin 64, digit n ≠ '=' := by decide
  exact all ⟨n, h⟩

private theorem byte_eq {n : Nat} {b : UInt8} (h : n = b.toNat) : UInt8.ofNat n = b := by
  rw [h, UInt8.ofNat_toNat]

theorem decode_encode (bytes : List UInt8) : decode (encode bytes) = some bytes := by
  induction bytes using encode.induct with
  | case1 => rfl
  | case2 a =>
      have ha := a.toNat_lt
      simp only [encode, decode, decodeTwicePadded, ne_eq, not_true_eq_false, if_false]
      rw [value_digit (by omega), value_digit (by omega)]
      have rest : a.toNat % 4 * 16 % 16 = 0 := by omega
      simp only [Option.bind_eq_bind, Option.bind_some, rest, if_true]
      rw [byte_eq (b := a) (by omega)]
      rfl
  | case3 a b =>
      have ha := a.toNat_lt
      have hb := b.toNat_lt
      have last : digit (b.toNat % 16 * 4) ≠ '=' := digit_ne_pad (by omega)
      simp only [encode, decode, decodePadded, ne_eq, not_true_eq_false, if_false, last,
        not_false_eq_true, if_true]
      rw [value_digit (by omega), value_digit (by omega), value_digit (by omega)]
      have rest : b.toNat % 16 * 4 % 4 = 0 := by omega
      simp only [Option.bind_eq_bind, Option.bind_some, rest, if_true]
      rw [byte_eq (b := a) (by omega), byte_eq (b := b) (by omega)]
      rfl
  | case4 a b c rest ih =>
      have ha := a.toNat_lt
      have hb := b.toNat_lt
      have hc := c.toNat_lt
      have last : digit (c.toNat % 64) ≠ '=' := digit_ne_pad (by omega)
      simp only [encode, decode, decodeGroup, ne_eq, last, not_false_eq_true, if_true, ih]
      rw [value_digit (by omega), value_digit (by omega), value_digit (by omega),
        value_digit (by omega)]
      simp only [Option.bind_eq_bind, Option.bind_some]
      rw [byte_eq (b := a) (by omega), byte_eq (b := b) (by omega), byte_eq (b := c) (by omega)]
      rfl

end Base64
