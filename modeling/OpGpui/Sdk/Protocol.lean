import OpGpui.Library.Collect
import OpGpui.Sdk.Types

/-!
# Message envelopes

Requests and responses of the desktop app. A request names its kind and account
and carries base64 of a payload; a response carries a success flag and a payload
in either of two shapes. A failed response is turned into `Error.remote`, from a
structured payload where it has one and from its raw text otherwise.

Serialization is given as the document each struct is written as, in declaration
order. The parameters of an invocation are listed as they are inserted.
-/

namespace Sdk

open Serde

variable [Codec]

structure Request where
  kind : String
  accountName : String
  payload : Bytes
  deriving DecidableEq

structure Response where
  success : Bool
  payload : Bytes
  deriving DecidableEq

structure ClientConfig where
  serviceAccountToken : String
  programmingLanguage : String
  sdkVersion : String
  integrationName : String
  integrationVersion : String
  requestLibraryName : String
  requestLibraryVersion : String
  os : String
  osVersion : String
  architecture : String
  accountName : String

structure Parameters where
  name : String
  parameters : List (String × Json)

structure Invocation where
  clientId : UInt64
  parameters : Parameters

structure InvokeConfig where
  invocation : Invocation

structure RemoteError where
  name : String
  message : String

def ClientConfig.serialize (config : ClientConfig) : Json :=
  .object [
    ("serviceAccountToken", .string config.serviceAccountToken),
    ("programmingLanguage", .string config.programmingLanguage),
    ("sdkVersion", .string config.sdkVersion),
    ("integrationName", .string config.integrationName),
    ("integrationVersion", .string config.integrationVersion),
    ("requestLibraryName", .string config.requestLibraryName),
    ("requestLibraryVersion", .string config.requestLibraryVersion),
    ("os", .string config.os),
    ("osVersion", .string config.osVersion),
    ("architecture", .string config.architecture),
    ("account_name", .string config.accountName)]

/-- An integer identifier is written as a number. -/
def serializeU64 (value : UInt64) : Json := .number (.posInt value)

def InvokeConfig.serialize (config : InvokeConfig) : Json :=
  .object [("invocation", .object [
    ("clientId", serializeU64 config.invocation.clientId),
    ("parameters", .object [
      ("name", .string config.invocation.parameters.name),
      ("parameters", .object config.invocation.parameters.parameters)])])]

namespace Base64Bytes

/-- Requests follow the Go SDK and encode bytes as base64. -/
def serialize (bytes : Bytes) : Json := .string (Codec.encode bytes)

/-- The untagged enum of the two shapes desktop app versions have returned. -/
inductive Payload where
  | base64 (encoded : String)
  | bytes (bytes : Bytes)

def Payload.deserialize (json : Json) : Option Payload :=
  match json.deserializeString with
  | some encoded => some (.base64 encoded)
  | none => (Json.deserializeVec Json.deserializeU8 json).map .bytes

def deserialize (json : Json) : Option Bytes :=
  match Payload.deserialize json with
  | some (.base64 encoded) => Codec.decode encoded
  | some (.bytes bytes) => some bytes
  | none => none

end Base64Bytes

def Request.serialize (request : Request) : Json :=
  .object [
    ("kind", .string request.kind),
    ("account_name", .string request.accountName),
    ("payload", Base64Bytes.serialize request.payload)]

def Response.deserialize (json : Json) : Option Response := do
  let field ← json.fields 2
  let success ← Json.required Json.deserializeBool (field 0 "success")
  let payload ← Json.required Base64Bytes.deserialize (field 1 "payload")
  return { success, payload }

/-- The array shape of a payload. -/
def byteArray (payload : Bytes) : Json :=
  .array (payload.map fun byte => .number (.posInt byte.toUInt64))

/-- A response as the desktop app may write it, in the byte array shape. -/
def Response.arrayShape (response : Response) : Json :=
  .object [("success", .bool response.success), ("payload", byteArray response.payload)]

/-- The byte array shape is read back as the response it was written for. -/
theorem Response.deserialize_arrayShape (response : Response) :
    Response.deserialize response.arrayShape = some response := by
  have bytes : (response.payload.map fun b => Json.number (.posInt b.toUInt64)).mapM
      Json.deserializeU8 = some response.payload :=
    (Collect.mapM_eq_some_iff fun _ _ => Json.deserializeU8_eq_some_iff).mpr rfl
  simp [Response.deserialize, arrayShape, byteArray, Json.fields, Json.required, Json.deserializeBool,
    Base64Bytes.deserialize, Base64Bytes.Payload.deserialize, Json.deserializeString,
    Json.deserializeVec, bytes]

def RemoteError.deserialize (json : Json) : Option RemoteError := do
  let field ← json.fields 2
  let name ← Json.defaulted "" Json.deserializeString (field 0 "name")
  let message ← Json.defaulted "" Json.deserializeString (field 1 "message")
  return { name, message }

/-- The bytes a request travels as. -/
def encodeRequest (request : Request) : Bytes := Codec.toVec request.serialize

def protocolError (text : String) : Error := .protocol text

/-- `serde_json::from_slice` with its failure turned into a protocol error. -/
def fromSliceOrProtocol {α : Type} (target : String) (deserialize : Json → Option α)
    (bytes : Bytes) : Result α :=
  match fromSlice target deserialize bytes with
  | .ok value => .ok value
  | .error text => .error (protocolError text)

/-- The remote error of a failed response, with the fallback for a payload that is
not one. -/
def RemoteError.ofPayload (payload : Bytes) : RemoteError :=
  match fromSlice "RemoteError" RemoteError.deserialize payload with
  | .ok remote => remote
  | .error _ => { name := "Unknown", message := Rust.fromUtf8Lossy payload }

/-- Neither text of a reported remote error is empty. -/
def RemoteError.toError (remote : RemoteError) : Error :=
  .remote (if remote.name = "" then "Unknown" else remote.name)
    (if remote.message = "" then "the desktop app returned an unspecified error"
      else remote.message)

def decodeResponse (bytes : Bytes) : Result Bytes :=
  match fromSliceOrProtocol "Response" Response.deserialize bytes with
  | .error error => .error error
  | .ok response =>
      if response.success then .ok response.payload
      else .error (RemoteError.ofPayload response.payload).toError

section Failure

variable {bytes payload : Bytes} {name : String} {members : List (String × Json)}

/-- The values a document gives under one name. -/
def valuesNamed (name : String) (members : List (String × Json)) : List Json :=
  (members.filter (·.1 = name)).map (·.2)

/-- The envelope of a failure whose payload is a JSON object with exactly one
`name`, a non-empty string. Nothing is said of the other members. -/
structure NamedFailure (bytes payload : Bytes) (name : String)
    (members : List (String × Json)) : Prop where
  envelope : fromSlice "Response" Response.deserialize bytes = .ok ⟨false, payload⟩
  document : Codec.document payload = some (.object members)
  name_once : valuesNamed "name" members = [.string name]
  name_ne : name ≠ ""

/-- The member `message` is absent, or it occurs once and is a string. -/
def MessageReadable (members : List (String × Json)) : Prop :=
  valuesNamed "message" members = [] ∨ ∃ message, valuesNamed "message" members = [.string message]

theorem NamedFailure.decodeResponse_eq (failure : NamedFailure bytes payload name members) :
    decodeResponse bytes = .error (RemoteError.ofPayload payload).toError := by
  simp [decodeResponse, fromSliceOrProtocol, failure.envelope]

/-- The structured decoding of a named failure, member by member. -/
theorem NamedFailure.deserialize_eq (failure : NamedFailure bytes payload name members) :
    RemoteError.deserialize (.object members) =
      (Json.defaulted "" Json.deserializeString (valuesNamed "message" members)).map
        (RemoteError.mk name) := by
  have once := failure.name_once
  simp only [valuesNamed] at once ⊢
  simp only [RemoteError.deserialize, Json.fields, Option.bind_eq_bind, Option.bind_some, once,
    Json.defaulted, Json.deserializeString]
  exact (Option.map_eq_bind ..).symm

omit [Codec] in
theorem messageReadable_iff :
    MessageReadable members ↔ ∃ message,
      Json.defaulted "" Json.deserializeString (valuesNamed "message" members) = some message := by
  simp only [MessageReadable]
  match valuesNamed "message" members with
  | [] => simp [Json.defaulted]
  | [json] => cases json <;> simp [Json.defaulted, Json.deserializeString]
  | _ :: _ :: _ => simp [Json.defaulted]

omit [Codec] in
/-- Neither branch of the reported texts is empty. -/
theorem RemoteError.toError_message_ne (remote : RemoteError) :
    ∃ message, message ≠ "" ∧
      remote.toError = .remote (if remote.name = "" then "Unknown" else remote.name) message := by
  refine ⟨_, ?_, rfl⟩
  split
  · decide
  · assumption

/-- A readable message leaves the name alone. -/
theorem NamedFailure.remote_of_readable (failure : NamedFailure bytes payload name members)
    (readable : MessageReadable members) :
    ∃ message, message ≠ "" ∧ decodeResponse bytes = .error (.remote name message) := by
  obtain ⟨text, read⟩ := messageReadable_iff.mp readable
  have structured : RemoteError.ofPayload payload = ⟨name, text⟩ := by
    have decoded : fromSlice "RemoteError" RemoteError.deserialize payload = .ok ⟨name, text⟩ :=
      fromSlice_eq_ok_iff.mpr ⟨_, failure.document, by rw [failure.deserialize_eq, read]; rfl⟩
    simp [RemoteError.ofPayload, decoded]
  obtain ⟨message, some, eq⟩ := RemoteError.toError_message_ne ⟨name, text⟩
  refine ⟨message, some, ?_⟩
  rw [failure.decodeResponse_eq, structured, eq]
  simp [failure.name_ne]

/-- Any other message makes the whole payload fall back to its raw text, and the
reported name to `Unknown`. -/
theorem NamedFailure.unknown_of_not_readable (failure : NamedFailure bytes payload name members)
    (unreadable : ¬ MessageReadable members) :
    ∃ message, message ≠ "" ∧ decodeResponse bytes = .error (.remote "Unknown" message) := by
  have undecoded : RemoteError.deserialize (.object members) = none := by
    rw [failure.deserialize_eq, Option.map_eq_none_iff]
    cases read : Json.defaulted "" Json.deserializeString (valuesNamed "message" members) with
    | none => rfl
    | some text => exact absurd (messageReadable_iff.mpr ⟨text, read⟩) unreadable
  have fallback : RemoteError.ofPayload payload = ⟨"Unknown", Rust.fromUtf8Lossy payload⟩ := by
    simp [RemoteError.ofPayload, fromSlice, failure.document, undecoded]
  obtain ⟨message, some, eq⟩ :=
    RemoteError.toError_message_ne ⟨"Unknown", Rust.fromUtf8Lossy payload⟩
  refine ⟨message, some, ?_⟩
  rw [failure.decodeResponse_eq, fallback, eq]
  rfl

end Failure

end Sdk
