import OpGpui.Library.Base64

/-!
# JSON documents and derived decoding

`serde_json` and `base64` are not part of the sources. What the SDK needs from
them is the class `Codec`: which document a byte slice holds, how a value is
written, and the two directions of base64. A document keeps the members of an
object in the order of the text, repeated names included.

The decoding of a struct is generated from its declaration. Fields are found by
name in an object and by position in an array; unknown members are ignored, a
repeated known member is an error, and `#[serde(default)]` fills in only what is
absent. A decoder here returns `none` wherever the generated code reports an error.
-/

namespace Serde

abbrev Bytes := List UInt8

/-- A JSON number as the parser classifies it. -/
inductive Number where
  | posInt (value : UInt64)
  | negInt (value : Int64)
  | float (text : String)

inductive Json where
  | null
  | bool (value : Bool)
  | number (value : Number)
  | string (value : String)
  | array (items : List Json)
  | object (members : List (String × Json))

/-- What the SDK uses of `serde_json` and of the standard `base64` engine. -/
class Codec where
  /-- The document a byte slice holds, if it is JSON text. -/
  document : Bytes → Option Json
  /-- `serde_json::to_vec` on a value that has been turned into a document. -/
  toVec : Json → Bytes
  /-- The text of the error that reading a slice as a type reports. -/
  errorText : String → Bytes → String
  /-- `STANDARD.encode`. -/
  encode : Bytes → String
  /-- `STANDARD.decode`. -/
  decode : String → Option Bytes

/-- `serde_json::from_slice` at a type with the given decoder. The failure is the
text of the reported error. -/
def fromSlice [Codec] {α : Type} (target : String) (deserialize : Json → Option α)
    (bytes : Bytes) : Except String α :=
  match (Codec.document bytes).bind deserialize with
  | some value => .ok value
  | none => .error (Codec.errorText target bytes)

theorem fromSlice_eq_ok_iff [Codec] {α : Type} {target : String} {deserialize : Json → Option α}
    {bytes : Bytes} {value : α} :
    fromSlice target deserialize bytes = .ok value ↔
      ∃ json, Codec.document bytes = some json ∧ deserialize json = some value := by
  unfold fromSlice
  rw [← Option.bind_eq_some_iff]
  cases (Codec.document bytes).bind deserialize <;> simp

namespace Json

def deserializeBool : Json → Option Bool
  | .bool value => some value
  | _ => none

def deserializeString : Json → Option String
  | .string value => some value
  | _ => none

/-- An unsigned integer type with values below `bound`. -/
def deserializeUnsigned (bound : Nat) : Json → Option UInt64
  | .number (.posInt value) => if value.toNat < bound then some value else none
  | _ => none

def deserializeU64 : Json → Option UInt64 := deserializeUnsigned UInt64.size

def deserializeU32 (json : Json) : Option UInt32 :=
  (deserializeUnsigned UInt32.size json).map UInt64.toUInt32

def deserializeU8 (json : Json) : Option UInt8 :=
  (deserializeUnsigned UInt8.size json).map UInt64.toUInt8

/-- A number is read as a byte exactly when it is one. -/
theorem deserializeU8_eq_some_iff {json : Json} {byte : UInt8} :
    json.deserializeU8 = some byte ↔ json = .number (.posInt byte.toUInt64) := by
  constructor
  · intro read
    match json with
    | .number (.posInt value) =>
        simp only [deserializeU8, deserializeUnsigned] at read
        split at read
        · rename_i small
          obtain rfl := Option.some.inj read
          have same : value.toUInt8.toUInt64 = value := by
            apply UInt64.toNat_inj.mp
            simpa using Nat.mod_eq_of_lt small
          rw [same]
        · cases read
  · rintro rfl
    have small : byte.toUInt64.toNat < UInt8.size := by simpa using byte.toNat_lt
    simp only [deserializeU8, deserializeUnsigned, small, if_true, Option.map_some]
    simp

/-- `Option<T>`: `null` is `None`. -/
def deserializeOption {α : Type} (deserialize : Json → Option α) : Json → Option (Option α)
  | .null => some none
  | json => (deserialize json).map some

/-- `Vec<T>`. -/
def deserializeVec {α : Type} (deserialize : Json → Option α) : Json → Option (List α)
  | .array items => items.mapM deserialize
  | _ => none

/-- The values found for each field of a struct with `count` fields: by position
in an array that is not too long, by name in an object. -/
def fields (count : Nat) : Json → Option (Nat → String → List Json)
  | .array items =>
      if items.length ≤ count then some fun position _ => items[position]?.toList else none
  | .object members => some fun _ name => (members.filter (·.1 = name)).map (·.2)
  | _ => none

/-- A field without a default is present exactly once. -/
def required {α : Type} (deserialize : Json → Option α) : List Json → Option α
  | [json] => deserialize json
  | _ => none

/-- `#[serde(default)]` supplies the default only for an absent field. -/
def defaulted {α : Type} (default : α) (deserialize : Json → Option α) : List Json → Option α
  | [] => some default
  | [json] => deserialize json
  | _ => none

end Json

end Serde
