import Mathlib.Data.List.Infix
import OpGpui.Library.Delimited

/-!
# Strings of the Rust standard library

The functions on `str`, `String` and `char` that the sources call, on Lean's own
`String`. Both languages take a string to be a sequence of Unicode scalar values,
so every function below works on that sequence.

The mappings that Rust generates from the Unicode character database stay a
parameter, `UnicodeTables`: the code around them is the standard library's, the
tables are data. White space and control characters are short enough to list. Each
function has the name of the method; `contains`, `splitOnce` and `split` take the pattern
of their callers, and what is an iterator there is collected here.
-/

namespace Rust

/-- The generated tables behind `char` methods. Nothing is assumed of them. -/
class UnicodeTables where
  /-- `char::to_lowercase`, which may give several characters. -/
  toLowercase : Char → List Char
  cased : Char → Bool
  caseIgnorable : Char → Bool
  /-- Characters `Debug` writes as an escape: grapheme extenders and unprintables. -/
  debugEscaped : Char → Bool

/-- The tables on ASCII text, where `Debug` escapes only the control characters. -/
@[reducible] def UnicodeTables.ascii : UnicodeTables where
  toLowercase c := [c.toLower]
  cased c := c.isAlpha
  caseIgnorable c := [Char.ofNat 0x27, '.', ':', '^', Char.ofNat 0x60].contains c
  debugEscaped c := c.toNat < 0x20 || c.toNat = 0x7F

def isControl (c : Char) : Bool :=
  c.toNat < 0x20 || (0x7F ≤ c.toNat && c.toNat ≤ 0x9F)

def isWhitespace (c : Char) : Bool :=
  (0x09 ≤ c.toNat && c.toNat ≤ 0x0D) || c.toNat = 0x20 || c.toNat = 0x85 || c.toNat = 0xA0 ||
    c.toNat = 0x1680 || (0x2000 ≤ c.toNat && c.toNat ≤ 0x200A) || c.toNat = 0x2028 ||
    c.toNat = 0x2029 || c.toNat = 0x202F || c.toNat = 0x205F || c.toNat = 0x3000

def contains (s pattern : String) : Bool := decide (pattern.toList <:+: s.toList)

def containsChar (s : String) (c : Char) : Bool := s.toList.contains c

def trim (s : String) : String :=
  String.ofList (((s.toList.dropWhile isWhitespace).reverse.dropWhile isWhitespace).reverse)

def pop (s : String) : Option String :=
  if s.toList = [] then none else some (String.ofList s.toList.dropLast)

def stripPrefix (s start : String) : Option String :=
  (s.toList.dropPrefix? start.toList).map String.ofList

def splitOnce (s : String) (c : Char) : Option (String × String) :=
  (Delimited.splitOnce c s.toList).map fun (front, back) =>
    (String.ofList front, String.ofList back)

def split (s : String) (c : Char) : List String := (s.toList.splitOn c).map String.ofList

section Lowercase

variable [UnicodeTables]

def caseIgnorableThenCased (cs : List Char) : Bool :=
  match cs.dropWhile UnicodeTables.caseIgnorable with
  | c :: _ => UnicodeTables.cased c
  | [] => false

/-- The sigma rule of `str::to_lowercase`. `before` is read backwards. -/
def mapUppercaseSigma (before after : List Char) : Char :=
  if caseIgnorableThenCased before && !caseIgnorableThenCased after then 'ς' else 'σ'

/-- `str::to_lowercase` after the characters of `before`, which are kept in reverse. -/
def lowercaseFrom (before : List Char) : List Char → List Char
  | [] => []
  | c :: rest =>
      (if c = 'Σ' then [mapUppercaseSigma before rest] else UnicodeTables.toLowercase c) ++
        lowercaseFrom (c :: before) rest

def toLowercase (s : String) : String := String.ofList (lowercaseFrom [] s.toList)

end Lowercase

section Debug

variable [UnicodeTables]

/-- One character as `Debug` for `str` writes it. -/
def escapeDebug (c : Char) : List Char :=
  if c = '\x00' then ['\\', '0']
  else if c = '\t' then ['\\', 't']
  else if c = '\r' then ['\\', 'r']
  else if c = '\n' then ['\\', 'n']
  else if c = '\\' || c = '"' then ['\\', c]
  else if UnicodeTables.debugEscaped c then
    ['\\', 'u', '\x7b'] ++ Nat.toDigits 16 c.toNat ++ ['\x7d']
  else [c]

def debugStr (s : String) : String :=
  String.ofList (['"'] ++ s.toList.flatMap escapeDebug ++ ['"'])

end Debug

section Utf8

/-- An encoding begun by a lead byte: how many bytes it still owes, the range of
the next one, and the bits read so far. -/
structure PartialChar where
  owed : Nat
  low : UInt8
  high : UInt8
  bits : Nat

/-- Read a byte that stands first in a character: a character, or the start of one. -/
def leadByte (b : UInt8) : Char ⊕ PartialChar :=
  if b < 0x80 then .inl (Char.ofNat b.toNat)
  else if 0xC2 ≤ b && b ≤ 0xDF then .inr ⟨1, 0x80, 0xBF, b.toNat - 0xC0⟩
  else if b = 0xE0 then .inr ⟨2, 0xA0, 0xBF, 0⟩
  else if b = 0xED then .inr ⟨2, 0x80, 0x9F, 0xD⟩
  else if 0xE1 ≤ b && b ≤ 0xEF then .inr ⟨2, 0x80, 0xBF, b.toNat - 0xE0⟩
  else if b = 0xF0 then .inr ⟨3, 0x90, 0xBF, 0⟩
  else if 0xF1 ≤ b && b ≤ 0xF3 then .inr ⟨3, 0x80, 0xBF, b.toNat - 0xF0⟩
  else if b = 0xF4 then .inr ⟨3, 0x80, 0x8F, 4⟩
  else .inl '\uFFFD'

/-- Decode after a possibly unfinished character. Every maximal unfinished or
impossible encoding gives one replacement character. -/
def lossyFrom : Option PartialChar → List UInt8 → List Char
  | none, [] => []
  | some _, [] => ['\uFFFD']
  | none, b :: rest =>
      match leadByte b with
      | .inl c => c :: lossyFrom none rest
      | .inr started => lossyFrom (some started) rest
  | some begun, b :: rest =>
      if begun.low ≤ b && b ≤ begun.high then
        let bits := begun.bits * 64 + (b.toNat - 0x80)
        if begun.owed ≤ 1 then Char.ofNat bits :: lossyFrom none rest
        else lossyFrom (some ⟨begun.owed - 1, 0x80, 0xBF, bits⟩) rest
      else
        -- The byte that broke the encoding is read again as a first byte.
        '\uFFFD' :: match leadByte b with
          | .inl c => c :: lossyFrom none rest
          | .inr started => lossyFrom (some started) rest

def fromUtf8Lossy (bytes : List UInt8) : String := String.ofList (lossyFrom none bytes)

end Utf8

end Rust
