import OpGpui.Sdk.Error
import OpGpui.Serde.Json

/-!
# Identifiers, overviews and secret references

The four identifier types are one declaration of the source, made for four names.
A value enters them in two ways: `Id.new` checks that the text can stand as one
segment of a reference, and the derived decoding takes any JSON string. The type
therefore promises nothing about its text.

A `SecretReference` has one entrance, `SecretReference.parse`. Its text is private
in the source, so here the structure carries the fact that `parse` accepted it.
-/

namespace Sdk

open Serde

/-- Reject the texts that cannot be one segment of a reference. -/
def validateReferenceSegment (segment : String) : Result Unit :=
  if segment = "" || segment.toList.any (fun c => c = '/' || c = '?' || c = '#') then
    .error (.invalidReferenceSegment segment)
  else .ok ()

/-- The texts `validateReferenceSegment` lets through. -/
def ValidSegment (segment : String) : Prop := validateReferenceSegment segment = .ok ()

instance (segment : String) : Decidable (ValidSegment segment) :=
  inferInstanceAs (Decidable (validateReferenceSegment segment = .ok ()))

theorem validSegment_iff {segment : String} :
    ValidSegment segment ↔ segment ≠ "" ∧
      '/' ∉ segment.toList ∧ '?' ∉ segment.toList ∧ '#' ∉ segment.toList := by
  simp only [ValidSegment, validateReferenceSegment]
  split
  · rename_i bad
    simp only [reduceCtorEq, false_iff]
    rintro ⟨some, slash, mark, hash⟩
    simp only [Bool.or_eq_true, decide_eq_true_eq, some, false_or, List.any_eq_true] at bad
    obtain ⟨c, member, (rfl | rfl) | rfl⟩ := bad
    · exact slash member
    · exact mark member
    · exact hash member
  · rename_i good
    simp only [Bool.or_eq_true, decide_eq_true_eq, not_or, List.any_eq_true, not_exists,
      not_and] at good
    simp only [true_iff]
    exact ⟨good.1, fun h => (good.2 _ h).1.1 rfl, fun h => (good.2 _ h).1.2 rfl,
      fun h => (good.2 _ h).2 rfl⟩

/-- The names `id_type!` is instantiated with. -/
inductive IdKind where
  | vault
  | item
  | field
  | fieldSection
  deriving DecidableEq

/-- `id_type!`: a string newtype. -/
structure Id (kind : IdKind) where
  asStr : String
  deriving DecidableEq

namespace Id

variable {kind : IdKind}

/-- The checked constructor. -/
def new (value : String) : Result (Id kind) :=
  match validateReferenceSegment value with
  | .ok () => .ok ⟨value⟩
  | .error error => .error error

/-- The derived, transparent decoding: any string. -/
def deserialize (json : Json) : Option (Id kind) := json.deserializeString.map Id.mk

@[simp] theorem new_eq_ok_iff {value : String} {id : Id kind} :
    new value = .ok id ↔ ValidSegment value ∧ id = ⟨value⟩ := by
  simp only [new, ValidSegment]
  cases validateReferenceSegment value with
  | error error => simp
  | ok _ =>
      simp only [Except.ok.injEq, true_and]
      exact eq_comm

end Id

abbrev VaultId := Id .vault
abbrev ItemId := Id .item
abbrev FieldId := Id .field
abbrev SectionId := Id .fieldSection

structure VaultOverview where
  id : VaultId
  title : String
  description : String
  activeItemCount : UInt32
  deriving DecidableEq

def VaultOverview.deserialize (json : Json) : Option VaultOverview := do
  let field ← json.fields 4
  let id ← Json.required Id.deserialize (field 0 "id")
  let title ← Json.required Json.deserializeString (field 1 "title")
  let description ← Json.defaulted "" Json.deserializeString (field 2 "description")
  let activeItemCount ← Json.defaulted 0 Json.deserializeU32 (field 3 "activeItemCount")
  return { id, title, description, activeItemCount }

/-- The transparent string newtypes `ItemCategory` and `FieldKind`. -/
structure ItemCategory where
  asStr : String
  deriving DecidableEq

structure FieldKind where
  asStr : String
  deriving DecidableEq

structure ItemOverview where
  id : ItemId
  title : String
  category : ItemCategory
  vaultId : VaultId
  deriving DecidableEq

def ItemOverview.deserialize (json : Json) : Option ItemOverview := do
  let field ← json.fields 4
  let id ← Json.required Id.deserialize (field 0 "id")
  let title ← Json.required Json.deserializeString (field 1 "title")
  let category ← Json.required Json.deserializeString (field 2 "category")
  let vaultId ← Json.required Id.deserialize (field 3 "vaultId")
  return { id, title, category := ⟨category⟩, vaultId }

structure FieldOverview where
  id : FieldId
  title : String
  sectionId : Option SectionId
  sectionTitle : Option String
  kind : FieldKind
  deriving DecidableEq

/-- The text after the scheme, divided at its first question mark. -/
def divide (pathAndQuery : String) : String × Option String :=
  match Rust.splitOnce pathAndQuery '?' with
  | some (path, query) => (path, some query)
  | none => (pathAndQuery, none)

/-- The checks of `SecretReference::parse`, in its order. -/
def checkReference (value : String) : Result Unit :=
  match Rust.stripPrefix value "op://" with
  | none => .error (.invalidSecretReference value)
  | some pathAndQuery =>
      if Rust.containsChar pathAndQuery '#' then .error (.invalidSecretReference value)
      else
        let (path, query) := divide pathAndQuery
        if query = some "" then .error (.invalidSecretReference value)
        else
          let segments := Rust.split path '/'
          if segments.length = 3 ∨ segments.length = 4 then
            segments.forM validateReferenceSegment
          else .error (.invalidSecretReference value)

/-- A text that passed the checks of `parse`. -/
structure SecretReference where
  asStr : String
  accepted : checkReference asStr = .ok ()
  deriving DecidableEq

namespace SecretReference

def parse (value : String) : Result SecretReference :=
  match accepted : checkReference value with
  | .ok () => .ok ⟨value, accepted⟩
  | .error error => .error error

/-- The text `forField` hands to `parse`. -/
def fieldText (vaultId : VaultId) (itemId : ItemId) (field : FieldOverview) : String :=
  match field.sectionId with
  | some sectionId =>
      "op://" ++ vaultId.asStr ++ "/" ++ itemId.asStr ++ "/" ++ sectionId.asStr ++ "/" ++
        field.id.asStr
  | none => "op://" ++ vaultId.asStr ++ "/" ++ itemId.asStr ++ "/" ++ field.id.asStr

def forField (vaultId : VaultId) (itemId : ItemId) (field : FieldOverview) :
    Result SecretReference :=
  parse (fieldText vaultId itemId field)

theorem parse_eq_ok_iff {value : String} {reference : SecretReference} :
    parse value = .ok reference ↔ reference.asStr = value := by
  obtain ⟨text, accepted⟩ := reference
  simp only [parse]
  split
  · simp [eq_comm]
  · rename_i error refused
    simp only [reduceCtorEq, false_iff]
    rintro rfl
    simp [accepted] at refused

/-- A reference is its text. -/
theorem asStr_injective {first second : SecretReference} (same : first.asStr = second.asStr) :
    first = second := by
  obtain ⟨text, _⟩ := first
  obtain ⟨text', _⟩ := second
  obtain rfl : text = text' := same
  rfl

/-- `parse` fails exactly as its checks do. -/
theorem parse_eq_error_iff {value : String} {error : Error} :
    parse value = .error error ↔ checkReference value = .error error := by
  simp only [parse]
  split <;> simp_all

end SecretReference

end Sdk
