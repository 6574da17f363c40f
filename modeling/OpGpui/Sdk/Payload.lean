import OpGpui.Serde.Print
import OpGpui.Sdk.Protocol

/-!
# The two payload shapes

A response carries its payload as a base64 text or as an array of bytes. Which of
the two it is makes no difference to `decodeResponse`, neither for a success nor
for a failure, whose payload is read a second time. Anything else in its place is a
protocol error and never taken for one of the shapes.

Base64 itself is a parameter here. What is assumed of it is that decoding inverts
encoding.
-/

namespace Sdk

open Serde

section Shapes

variable [Codec] {bytes payload : Bytes} {success : Bool} {payloads : List Json}

/-- A response document: an object, or an array in the order of the fields. It has one
success flag, and `payloads` is what it gives for the payload. -/
def Envelope (bytes : Bytes) (success : Bool) (payloads : List Json) : Prop :=
  ∃ json field, Codec.document bytes = some json ∧ json.fields 2 = some field ∧
    field 0 "success" = [.bool success] ∧ field 1 "payload" = payloads

/-- Everything a payload must not be. -/
inductive Malformed : List Json → Prop
  | missing : Malformed []
  | null : Malformed [.null]
  | bool (value : Bool) : Malformed [.bool value]
  | number (value : Number) : Malformed [.number value]
  | object (members : List (String × Json)) : Malformed [.object members]
  | notBase64 {text : String} (refused : Codec.decode text = none) : Malformed [.string text]
  | notBytes {items : List Json} {item : Json} (member : item ∈ items)
      (not_byte : ∀ byte : UInt8, item ≠ .number (.posInt byte.toUInt64)) : Malformed [.array items]
  | repeated (first second : Json) (others : List Json) : Malformed (first :: second :: others)

omit [Codec] in
theorem mapM_deserializeU8_eq_some_iff {items : List Json} :
    items.mapM Json.deserializeU8 = some payload ↔ Json.array items = byteArray payload := by
  rw [byteArray, Json.array.injEq]
  exact Collect.mapM_eq_some_iff fun _ _ => Json.deserializeU8_eq_some_iff

/-- What a payload is read as, in either shape. -/
theorem deserialize_eq_some_iff {json : Json} :
    Base64Bytes.deserialize json = some payload ↔
      (∃ text, json = .string text ∧ Codec.decode text = some payload) ∨ json = byteArray payload := by
  cases json with
  | string text => simp [Base64Bytes.deserialize, Base64Bytes.Payload.deserialize,
      Json.deserializeString, byteArray]
  | array items =>
      rw [← mapM_deserializeU8_eq_some_iff]
      cases read : items.mapM Json.deserializeU8 <;>
        simp [Base64Bytes.deserialize, Base64Bytes.Payload.deserialize, Json.deserializeString,
          Json.deserializeVec, read]
  | _ => simp [Base64Bytes.deserialize, Base64Bytes.Payload.deserialize, Json.deserializeString,
      Json.deserializeVec, byteArray]

/-- What is not malformed has one of the shapes, and the other way round. -/
theorem malformed_iff :
    Malformed payloads ↔ Json.required Base64Bytes.deserialize payloads = none := by
  constructor
  · intro malformed
    cases malformed with
    | missing => rfl
    | repeated _ _ _ => rfl
    | @notBytes items item member not_byte =>
        rw [Json.required, Option.eq_none_iff_forall_ne_some]
        intro payload read
        obtain ⟨text, impossible, _⟩ | shape := deserialize_eq_some_iff.mp read
        · cases impossible
        · rw [byteArray, Json.array.injEq] at shape
          rw [shape] at member
          obtain ⟨byte, _, eq⟩ := List.mem_map.mp member
          exact not_byte byte eq.symm
    | @notBase64 text refused =>
        simp [Json.required, Base64Bytes.deserialize, Base64Bytes.Payload.deserialize,
          Json.deserializeString, refused]
    | _ => rfl
  · intro refused
    cases payloads with
    | nil => exact .missing
    | cons json others =>
        cases others with
        | cons second others => exact .repeated json second others
        | nil =>
            have unread : ∀ payload, Base64Bytes.deserialize json ≠ some payload :=
              Option.eq_none_iff_forall_ne_some.mp refused
            cases json with
            | null => exact .null
            | bool value => exact .bool value
            | number value => exact .number value
            | object members => exact .object members
            | string text =>
                refine .notBase64 (Option.eq_none_iff_forall_ne_some.mpr ?_)
                intro payload decoded
                exact unread payload (deserialize_eq_some_iff.mpr (.inl ⟨text, rfl, decoded⟩))
            | array items =>
                by_contra wellFormed
                have bytes : ∀ item ∈ items, ∃ byte, item.deserializeU8 = some byte := by
                  intro item member
                  by_contra! notByte
                  exact wellFormed (.notBytes member fun byte eq =>
                    notByte byte (Json.deserializeU8_eq_some_iff.mpr eq))
                obtain ⟨payload, read⟩ := Collect.exists_mapM_eq_some bytes
                exact unread payload (deserialize_eq_some_iff.mpr
                  (.inr (mapM_deserializeU8_eq_some_iff.mp read)))

/-- An envelope is read as its flag and its payload, or not at all. -/
theorem Envelope.decodeResponse_eq (envelope : Envelope bytes success payloads) :
    decodeResponse bytes = match Json.required Base64Bytes.deserialize payloads with
      | some payload =>
          if success then .ok payload else .error (RemoteError.ofPayload payload).toError
      | none => .error (protocolError (Codec.errorText "Response" bytes)) := by
  obtain ⟨json, field, document, shape, flag, rfl⟩ := envelope
  have read : Response.deserialize json =
      (Json.required Base64Bytes.deserialize (field 1 "payload")).map (Response.mk success) := by
    simp only [Response.deserialize, shape, Option.bind_eq_bind, Option.bind_some, flag,
      Json.required, Json.deserializeBool]
    exact (Option.map_eq_bind ..).symm
  simp only [decodeResponse, fromSliceOrProtocol, fromSlice, document, Option.bind_some, read]
  cases Json.required Base64Bytes.deserialize (field 1 "payload") <;> rfl

/-- The two payload shapes are one format. Whatever the payload and the flag, both
shapes are decoded to the same result, what requests write is read back, and an
envelope whose payload is in neither shape is a protocol error. -/
theorem payload_shapes_agree (inverts : ∀ payload, Codec.decode (Codec.encode payload) = some payload) :
    (∀ payload success text array, Envelope text success [.string (Codec.encode payload)] →
      Envelope array success [byteArray payload] →
      decodeResponse text = decodeResponse array ∧
        (success = true → decodeResponse text = .ok payload) ∧
        (success = false → ∃ name message, decodeResponse text = .error (.remote name message))) ∧
    (∀ payload, Base64Bytes.deserialize (Base64Bytes.serialize payload) = some payload) ∧
    ∀ bytes success payloads, Envelope bytes success payloads → Malformed payloads →
      ∃ message, decodeResponse bytes = .error (.protocol message) := by
  have readText : ∀ payload, Base64Bytes.deserialize (.string (Codec.encode payload)) = some payload :=
    fun payload => deserialize_eq_some_iff.mpr (.inl ⟨_, rfl, inverts payload⟩)
  refine ⟨?_, readText, ?_⟩
  · intro payload success text array asText asArray
    have readArray : Base64Bytes.deserialize (byteArray payload) = some payload :=
      deserialize_eq_some_iff.mpr (.inr rfl)
    rw [asText.decodeResponse_eq, asArray.decodeResponse_eq]
    simp only [Json.required, readText, readArray]
    refine ⟨trivial, ?_, ?_⟩
    · rintro rfl
      rfl
    · rintro rfl
      exact ⟨_, _, rfl⟩
  · intro bytes success payloads envelope malformed
    rw [envelope.decodeResponse_eq, malformed_iff.mp malformed]
    exact ⟨_, rfl⟩

end Shapes

section TwoShapes

/-- A failure whose payload names it, in both shapes. -/
def lockedPayload : Bytes := (Json.object [("name", .string "Locked")]).toBytes

def lockedText : Json :=
  .object [("payload", .string (String.ofList (Base64.encode lockedPayload))), ("success", .bool false)]

def lockedArray : Json := .array [.bool false, byteArray lockedPayload]

/-- A codec that knows both envelopes. -/
local instance twoShapesCodec : Codec := .ofDocuments [lockedText, lockedArray]

theorem payload_shapes_agree_locked :
    decodeResponse lockedText.toBytes = decodeResponse lockedArray.toBytes := by
  have distinct : ([lockedText, lockedArray].map Json.toBytes).Nodup := by decide +kernel
  have asText : Envelope lockedText.toBytes false [.string (Codec.encode lockedPayload)] :=
    ⟨_, _, Codec.ofDocuments_document distinct (.head _), rfl, rfl, rfl⟩
  have asArray : Envelope lockedArray.toBytes false [byteArray lockedPayload] :=
    ⟨_, _, Codec.ofDocuments_document distinct (.tail _ (.head _)), rfl, rfl, rfl⟩
  exact ((payload_shapes_agree fun payload => by
    simp [Codec.encode, Codec.decode, Base64.decode_encode]).1 _ _ _ _ asText asArray).1

end TwoShapes

end Sdk
