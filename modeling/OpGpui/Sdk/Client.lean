import Mathlib.Data.Stream.Init
import OpGpui.Sdk.Protocol

/-!
# The client and its transport

A client owns a transport, the identity it connects under, and the id of its
desktop session, absent once it is closed. Every operation runs under
`operation_lock`, so it is a function of the whole client. The locks themselves
leave no trace: without panics they are never poisoned.

A transport answers messages from a stream of answers, each of which may be
anything a transport can return, and logs every message it is given. Operations
return their result together with the client they leave behind, on failure too.
-/

namespace Sdk

open Serde

/-- What the crate is compiled for. -/
class Target where
  os : String
  arch : String

@[reducible] def Target.linux : Target where
  os := "linux"
  arch := "x86_64"

structure IntegrationInfo where
  name : String
  version : String

/-- One message: the request, the bytes it travelled as, and the answer to it. -/
structure Exchange where
  request : Request
  input : Bytes
  answer : Result Bytes

structure Transport where
  answers : Stream' (Result Bytes)
  log : List Exchange

structure ClientInner where
  transport : Transport
  accountName : String
  integration : IntegrationInfo
  clientId : Option UInt64

structure ClientBuilder where
  accountName : Option String
  integration : Option IntegrationInfo

structure SecretValue where
  exposeSecret : String
  deriving DecidableEq

structure WireField where
  id : FieldId
  title : String
  sectionId : Option SectionId
  kind : FieldKind

structure WireSection where
  id : SectionId
  title : String

structure WireItem where
  fields : List WireField
  sections : List WireSection

def WireField.deserialize (json : Json) : Option WireField := do
  let field ← json.fields 4
  let id ← Json.required Id.deserialize (field 0 "id")
  let title ← Json.required Json.deserializeString (field 1 "title")
  let sectionId ← Json.defaulted none (Json.deserializeOption Id.deserialize) (field 2 "sectionId")
  let kind ← Json.required Json.deserializeString (field 3 "fieldType")
  return { id, title, sectionId, kind := ⟨kind⟩ }

/-- A decoded field has no section id exactly when the member is absent or `null`. -/
theorem WireField.sectionId_eq_none_iff {members : List (String × Json)} {field : WireField}
    (decoded : WireField.deserialize (.object members) = some field) :
    field.sectionId = none ↔ valuesNamed "sectionId" members = [] ∨
      valuesNamed "sectionId" members = [.null] := by
  simp only [WireField.deserialize, Json.fields, Option.bind_eq_bind, Option.bind_some,
    Option.bind_eq_some_iff, Option.pure_def, Option.some.injEq] at decoded
  obtain ⟨id, _, title, _, sectionId, read, kind, _, rfl⟩ := decoded
  change sectionId = none ↔ _
  simp only [valuesNamed]
  generalize (members.filter (·.1 = "sectionId")).map (·.2) = values at read ⊢
  cases values with
  | nil => simpa [Json.defaulted, eq_comm] using read
  | cons json others =>
      cases others with
      | nil =>
          simp only [Json.defaulted] at read
          cases json <;>
            simp_all [Json.deserializeOption, Id.deserialize, Json.deserializeString, eq_comm]
      | cons _ _ => simp [Json.defaulted] at read

def WireSection.deserialize (json : Json) : Option WireSection := do
  let field ← json.fields 2
  let id ← Json.required Id.deserialize (field 0 "id")
  let title ← Json.required Json.deserializeString (field 1 "title")
  return { id, title }

def WireItem.deserialize (json : Json) : Option WireItem := do
  let field ← json.fields 2
  let fields ← Json.defaulted [] (Json.deserializeVec WireField.deserialize) (field 0 "fields")
  let sections ←
    Json.defaulted [] (Json.deserializeVec WireSection.deserialize) (field 1 "sections")
  return { fields, sections }

section Version

/-- A number in decimal, filled with zeros up to a width. -/
def zeroPadded (width n : Nat) : String :=
  let digits := Nat.toDigits 10 n
  String.ofList (List.replicate (width - digits.length) '0' ++ digits)

/-- The crate's version, as Cargo reports it to the build. -/
def cargoPkgVersion : Nat × Nat × Nat := (0, 1, 0)

/-- The packed form the desktop app requires: one digit and three pairs. -/
def packedVersion : String :=
  let (major, minor, patch) := cargoPkgVersion
  zeroPadded 1 (major % 10) ++ zeroPadded 2 (minor % 100) ++ zeroPadded 2 (patch % 100) ++
    zeroPadded 2 0

def wireOs [Target] : String :=
  if Target.os = "macos" then "darwin"
  else if Target.os = "linux" then "linux"
  else if Target.os = "windows" then "windows"
  else Target.os

def wireArchitecture [Target] : String :=
  if Target.arch = "aarch64" then "arm64"
  else if Target.arch = "x86_64" then "amd64"
  else Target.arch

end Version

section Messages

variable [Codec] [Target]

/-- The request of an `init_client` message. -/
def initRequest (accountName : String) (integration : IntegrationInfo) : Request where
  kind := "init_client"
  accountName
  payload := Codec.toVec (ClientConfig.serialize {
    serviceAccountToken := ""
    programmingLanguage := "Rust"
    sdkVersion := packedVersion
    integrationName := integration.name
    integrationVersion := integration.version
    requestLibraryName := "libloading"
    requestLibraryVersion := "0.8"
    os := wireOs
    osVersion := "0.0.0"
    architecture := wireArchitecture
    accountName })

/-- The request of an `invoke` message for one session. -/
def invokeRequest (accountName : String) (clientId : UInt64) (method : String)
    (parameters : List (String × Json)) : Request where
  kind := "invoke"
  accountName
  payload := Codec.toVec (InvokeConfig.serialize ⟨⟨clientId, ⟨method, parameters⟩⟩⟩)

/-- The request of a `release_client` message for one session. -/
def releaseRequest (accountName : String) (clientId : UInt64) : Request where
  kind := "release_client"
  accountName
  payload := Codec.toVec (serializeU64 clientId)

/-- A request as it is logged, with its answer. -/
def exchange (request : Request) (answer : Result Bytes) : Exchange :=
  ⟨request, encodeRequest request, answer⟩

/-- What `send` makes of an answer: a transport failure, or the decoded response. -/
def readAnswer (answer : Result Bytes) : Result Bytes :=
  match answer with
  | .ok bytes => decodeResponse bytes
  | .error error => .error error

/-- What `initializeSession` makes of an answer: the id of the new session. -/
def readSession (answer : Result Bytes) : Result UInt64 :=
  match readAnswer answer with
  | .ok response => fromSliceOrProtocol "u64" Json.deserializeU64 response
  | .error error => .error error

end Messages

/-- Give a transport the answers to the messages that follow. -/
def ClientInner.listen (inner : ClientInner) (answers : Stream' (Result Bytes)) : ClientInner :=
  { inner with transport := { inner.transport with answers } }

/-- Whether the client still holds a session. -/
def ClientInner.isOpen (inner : ClientInner) : Bool := inner.clientId.isSome

section Operations

variable [Codec] [Target]

/-- `Transport::call` on the encoded request. -/
def Transport.call (transport : Transport) (request : Request) : Result Bytes × Transport :=
  (transport.answers.head,
    ⟨transport.answers.tail, transport.log ++ [exchange request transport.answers.head]⟩)

namespace ClientInner

def send (inner : ClientInner) (kind : String) (payload : Bytes) : Result Bytes × ClientInner :=
  match inner.transport.call ⟨kind, inner.accountName, payload⟩ with
  | (.error error, transport) => (.error error, { inner with transport })
  | (.ok response, transport) => (decodeResponse response, { inner with transport })

def initializeSession (inner : ClientInner) : Result UInt64 × ClientInner :=
  match inner.send "init_client" (initRequest inner.accountName inner.integration).payload with
  | (.error error, inner) => (.error error, inner)
  | (.ok response, inner) => (fromSliceOrProtocol "u64" Json.deserializeU64 response, inner)

def invokeOnce (inner : ClientInner) (clientId : UInt64) (method : String)
    (parameters : List (String × Json)) : Result Bytes × ClientInner :=
  inner.send "invoke" (invokeRequest inner.accountName clientId method parameters).payload

def currentClientId (inner : ClientInner) : Result UInt64 :=
  match inner.clientId with
  | some clientId => .ok clientId
  | none => .error .clientClosed

/-- The id is taken before the message is sent, whatever becomes of the message. -/
def releaseLocked (inner : ClientInner) : Result Unit × ClientInner :=
  match inner.clientId with
  | none => (.ok (), inner)
  | some clientId =>
      match { inner with clientId := none }.send "release_client"
        (releaseRequest inner.accountName clientId).payload with
      | (.error error, inner) => (.error error, inner)
      | (.ok _, inner) => (.ok (), inner)

/-- `Drop`: the same message, with its outcome thrown away. -/
def drop (inner : ClientInner) : ClientInner :=
  match inner.clientId with
  | none => inner
  | some clientId =>
      ({ inner with clientId := none }.send "release_client"
        (releaseRequest inner.accountName clientId).payload).2

/-- Only an expired session is renewed, and only once. -/
def invokeBytes (inner : ClientInner) (method : String) (parameters : List (String × Json)) :
    Result Bytes × ClientInner :=
  match inner.currentClientId with
  | .error error => (.error error, inner)
  | .ok clientId =>
      match inner.invokeOnce clientId method parameters with
      | (.error error, inner) =>
          if error.isSessionExpired then
            match inner.initializeSession with
            | (.error error, inner) => (.error error, inner)
            | (.ok renewed, inner) =>
                { inner with clientId := some renewed }.invokeOnce renewed method parameters
          else (.error error, inner)
      | result => result

def invokeTyped {α : Type} (inner : ClientInner) (target : String) (deserialize : Json → Option α)
    (method : String) (parameters : List (String × Json)) : Result α × ClientInner :=
  match inner.invokeBytes method parameters with
  | (.error error, inner) => (.error error, inner)
  | (.ok response, inner) => (fromSliceOrProtocol target deserialize response, inner)

/-- Lists the vaults available to the authenticated desktop session. -/
def vaults (inner : ClientInner) : Result (List VaultOverview) × ClientInner :=
  inner.invokeTyped "Vec<VaultOverview>" (Json.deserializeVec VaultOverview.deserialize)
    "VaultsList" [("params", .null)]

/-- Lists active item overviews in a vault. -/
def items (inner : ClientInner) (vaultId : VaultId) : Result (List ItemOverview) × ClientInner :=
  inner.invokeTyped "Vec<ItemOverview>" (Json.deserializeVec ItemOverview.deserialize)
    "ItemsList" [("vault_id", .string vaultId.asStr), ("filters", .array [])]

/-- Looks a section up in a map collected from pairs: the last pair of a key wins. -/
def sectionTitle (sections : List WireSection) (sectionId : SectionId) : Option String :=
  (sections.reverse.find? (·.id = sectionId)).map WireSection.title

/-- Field metadata of one wire field. An empty section id means no section. -/
def fieldOverview (sections : List WireSection) (field : WireField) : FieldOverview :=
  let sectionId := field.sectionId.filter fun sectionId => sectionId.asStr ≠ ""
  { id := field.id
    title := field.title
    sectionId
    sectionTitle := sectionId.bind (sectionTitle sections)
    kind := field.kind }

/-- Returns field metadata for an item without retaining field values. -/
def fields (inner : ClientInner) (vaultId : VaultId) (itemId : ItemId) :
    Result (List FieldOverview) × ClientInner :=
  match inner.invokeTyped "WireItem" WireItem.deserialize "ItemsGet"
    [("vault_id", .string vaultId.asStr), ("item_id", .string itemId.asStr)] with
  | (.error error, inner) => (.error error, inner)
  | (.ok item, inner) => (.ok (item.fields.map (fieldOverview item.sections)), inner)

/-- Resolves a reference through the authenticated desktop session. -/
def resolve (inner : ClientInner) (reference : SecretReference) :
    Result SecretValue × ClientInner :=
  match inner.invokeTyped "String" Json.deserializeString "SecretsResolve"
    [("secret_reference", .string reference.asStr)] with
  | (.error error, inner) => (.error error, inner)
  | (.ok value, inner) => (.ok ⟨value⟩, inner)

/-- Releases the desktop SDK client. -/
def close (inner : ClientInner) : Result Unit × ClientInner := inner.releaseLocked

end ClientInner

/-- A configured text must not be blank. -/
def required (value : Option String) (field : String) : Result String :=
  match value with
  | some value => if Rust.trim value ≠ "" then .ok value else .error (.missingConfiguration field)
  | none => .error (.missingConfiguration field)

/-- Connects over a transport, and returns what has become of it. A client that
could not be initialized is dropped on the way out. -/
def ClientBuilder.connectWithTransport (builder : ClientBuilder) (transport : Transport) :
    Result ClientInner × Transport :=
  match required builder.accountName "account name" with
  | .error error => (.error error, transport)
  | .ok accountName =>
      match builder.integration with
      | none => (.error (.missingConfiguration "integration name and version"), transport)
      | some integration =>
          if Rust.trim integration.name = "" then
            (.error (.missingConfiguration "integration name"), transport)
          else if Rust.trim integration.version = "" then
            (.error (.missingConfiguration "integration version"), transport)
          else
            match ClientInner.initializeSession ⟨transport, accountName, integration, none⟩ with
            | (.error error, inner) => (.error error, inner.drop.transport)
            | (.ok clientId, inner) =>
                (.ok { inner with clientId := some clientId }, inner.transport)

end Operations

end Sdk
