import OpGpui.Sdk.Client

/-!
# Providers of picker rows

The rows a picker shows, the interface it loads them through, and the provider
backed by the desktop SDK. Row identifiers are strings of the provider's choosing:
only the SDK's own provider checks them, and only on the way in.

A provider may answer every call differently, so `SecretProvider` is what one would
answer at one moment. The SDK's provider answers from the state of its client.
-/

namespace Picker

open Serde Sdk

structure ProviderError where
  message : String
  deriving DecidableEq

abbrev ProviderResult (α : Type) := Except ProviderError α

/-- `From<op_sdk::Error>`: the displayed text of the error. -/
def ProviderError.ofSdk [Rust.UnicodeTables] (error : Sdk.Error) : ProviderError := ⟨error.toString⟩

structure Vault where
  id : String
  title : String
  description : String
  activeItemCount : Option UInt32
  deriving DecidableEq

structure Item where
  id : String
  vaultId : String
  title : String
  category : String
  deriving DecidableEq

structure Field where
  id : String
  title : String
  sectionTitle : Option String
  kind : String
  reference : SecretReference
  deriving DecidableEq

def Vault.new (id title : String) : Vault := ⟨id, title, "", none⟩

def Vault.withDescription (vault : Vault) (description : String) : Vault := { vault with description }

def Vault.withActiveItemCount (vault : Vault) (count : UInt32) : Vault :=
  { vault with activeItemCount := some count }

def Item.new (vaultId id title : String) : Item := ⟨id, vaultId, title, ""⟩

def Item.withCategory (item : Item) (category : String) : Item := { item with category }

def Field.new (id title : String) (reference : SecretReference) : Field :=
  ⟨id, title, none, "", reference⟩

def Field.withSectionTitle (field : Field) (title : String) : Field :=
  { field with sectionTitle := some title }

def Field.withKind (field : Field) (kind : String) : Field := { field with kind }

/-- Supplies the picker with vault, item and field metadata. -/
structure SecretProvider where
  vaults : ProviderResult (List Vault)
  items : String → ProviderResult (List Item)
  fields : String → String → ProviderResult (List Field)

/-- The provider backed by an authenticated client. -/
structure OnePasswordProvider where
  client : ClientInner

namespace OnePasswordProvider

variable [Codec] [Target] [Rust.UnicodeTables]

def vaultRow (vault : VaultOverview) : Vault :=
  ((Vault.new vault.id.asStr vault.title).withDescription vault.description).withActiveItemCount
    vault.activeItemCount

def vaults (provider : OnePasswordProvider) : ProviderResult (List Vault) × OnePasswordProvider :=
  match provider.client.vaults with
  | (.error error, client) => (.error (.ofSdk error), ⟨client⟩)
  | (.ok vaults, client) => (.ok (vaults.map vaultRow), ⟨client⟩)

def itemRow (item : ItemOverview) : Item :=
  (Item.new item.vaultId.asStr item.id.asStr item.title).withCategory item.category.asStr

def items (provider : OnePasswordProvider) (vaultId : String) :
    ProviderResult (List Item) × OnePasswordProvider :=
  match (Id.new vaultId : Result VaultId) with
  | .error error => (.error (.ofSdk error), provider)
  | .ok vaultId =>
      match provider.client.items vaultId with
      | (.error error, client) => (.error (.ofSdk error), ⟨client⟩)
      | (.ok items, client) => (.ok (items.map itemRow), ⟨client⟩)

/-- One field row. A field whose reference is refused fails the whole listing. -/
def fieldRow (vaultId : VaultId) (itemId : ItemId) (field : FieldOverview) :
    ProviderResult Field :=
  match SecretReference.forField vaultId itemId field with
  | .error error => .error (.ofSdk error)
  | .ok reference =>
      let row := (Field.new field.id.asStr field.title reference).withKind field.kind.asStr
      match field.sectionTitle with
      | some sectionTitle => .ok (row.withSectionTitle sectionTitle)
      | none => .ok row

def fields (provider : OnePasswordProvider) (vaultId itemId : String) :
    ProviderResult (List Field) × OnePasswordProvider :=
  match (Id.new vaultId : Result VaultId) with
  | .error error => (.error (.ofSdk error), provider)
  | .ok vaultId =>
      match (Id.new itemId : Result ItemId) with
      | .error error => (.error (.ofSdk error), provider)
      | .ok itemId =>
          match provider.client.fields vaultId itemId with
          | (.error error, client) => (.error (.ofSdk error), ⟨client⟩)
          | (.ok fields, client) => (fields.mapM (fieldRow vaultId itemId), ⟨client⟩)

/-- What the provider would answer in its present state. -/
def answers (provider : OnePasswordProvider) : SecretProvider where
  vaults := provider.vaults.1
  items vaultId := (provider.items vaultId).1
  fields vaultId itemId := (provider.fields vaultId itemId).1

end OnePasswordProvider

end Picker
