import Mathlib.Data.List.Nodup
import OpGpui.Serde.Json

/-!
# Compact printing, and a codec for known documents

`Json.render` is the compact formatter of `serde_json`: no white space, and in
strings an escape for the quote, the backslash and the control characters.
`Codec.ofDocuments` is the codec that prints this way and reads back the documents
of a given list, with the base64 of `Library.Base64`. Examples run on it.
-/

namespace Serde

namespace Json

/-- The four hexadecimal digits of a control character. -/
def unicodeEscape (c : Char) : List Char :=
  let digits := Nat.toDigits 16 c.toNat
  ['\\', 'u'] ++ List.replicate (4 - digits.length) '0' ++ digits

/-- One character inside a string literal. -/
def escape (c : Char) : List Char :=
  if c.toNat = 0x22 ∨ c.toNat = 0x5C then ['\\', c]
  else if c.toNat = 0x08 then ['\\', 'b']
  else if c.toNat = 0x09 then ['\\', 't']
  else if c.toNat = 0x0A then ['\\', 'n']
  else if c.toNat = 0x0C then ['\\', 'f']
  else if c.toNat = 0x0D then ['\\', 'r']
  else if c.toNat < 0x20 then unicodeEscape c
  else [c]

def quote : Char := Char.ofNat 0x22

def renderString (s : String) : List Char := [quote] ++ s.toList.flatMap escape ++ [quote]

def renderNumber : Number → List Char
  | .posInt value => Nat.toDigits 10 value.toNat
  | .negInt value => '-' :: Nat.toDigits 10 value.toInt.natAbs
  | .float text => text.toList

/-- The parts with a comma between each two. -/
def commaSeparated (parts : List (List Char)) : List Char := List.intercalate [','] parts

mutual

def render : Json → List Char
  | .null => "null".toList
  | .bool value => if value then "true".toList else "false".toList
  | .number value => renderNumber value
  | .string value => renderString value
  | .array items => ['['] ++ commaSeparated (renderItems items) ++ [']']
  | .object members =>
      [Char.ofNat 0x7B] ++ commaSeparated (renderMembers members) ++ [Char.ofNat 0x7D]

def renderItems : List Json → List (List Char)
  | [] => []
  | item :: items => render item :: renderItems items

def renderMember : String × Json → List Char
  | (name, value) => renderString name ++ [':'] ++ render value

def renderMembers : List (String × Json) → List (List Char)
  | [] => []
  | member :: members => renderMember member :: renderMembers members

end

/-- The document as UTF-8 text. -/
def toBytes (json : Json) : Bytes := json.render.flatMap String.utf8EncodeChar

end Json

/-- Print compactly, and read back the given documents. -/
@[reducible] def Codec.ofDocuments (documents : List Json) : Codec where
  document bytes := documents.find? fun json => json.toBytes = bytes
  toVec := Json.toBytes
  errorText target _ := "invalid value for " ++ target
  encode bytes := String.ofList (Base64.encode bytes)
  decode text := Base64.decode text.toList

/-- Documents that print differently are read back as they are. -/
theorem Codec.ofDocuments_document {documents : List Json} {json : Json}
    (distinct : (documents.map Json.toBytes).Nodup) (known : json ∈ documents) :
    (Codec.ofDocuments documents).document json.toBytes = some json := by
  have unique : ∀ other ∈ documents, other.toBytes = json.toBytes → other = json :=
    fun other member same => List.inj_on_of_nodup_map distinct member known same
  cases found : (Codec.ofDocuments documents).document json.toBytes with
  | none =>
      have missing := List.find?_eq_none.mp found json known
      simp at missing
  | some other =>
      have same := List.find?_some found
      rw [unique other (List.mem_of_find?_eq_some found) (by simpa using same)]

example : (Json.array [.null, .object [("id", .string "a\nb"), ("n", .number (.posInt 7))]]).render =
    ("[null,\x7b\"id\":\"a\\nb\",\"n\":7\x7d]").toList := by decide

end Serde
