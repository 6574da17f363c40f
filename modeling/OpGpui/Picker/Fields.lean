import OpGpui.Serde.Print
import OpGpui.Sdk.Operation
import OpGpui.Sdk.Reference
import OpGpui.Picker.Provider

/-!
# The fields of an item, as rows

From the answer to `ItemsGet` to the rows a picker shows. Every wire field is
given the reference of its vault, item, section and field ids; the listing succeeds
when all of these are accepted. On ids that are legal segments nothing is lost
(`fields_complete`). Ids that were only decoded are never checked by themselves,
and `designates_iff` says exactly when their references still mean what they
should.
-/

namespace Picker

open Serde Sdk

/-- The section a wire field is in: an empty id is none. -/
def wireSection (field : WireField) : Option SectionId :=
  field.sectionId.filter fun sectionId => sectionId.asStr ≠ ""

/-- The segments that follow vault and item in the reference of a field. -/
def innerSegments (field : WireField) : List String :=
  ((wireSection field).map Id.asStr).toList ++ [field.id.asStr]

/-- The text that follows vault and item in the reference of a field. -/
def innerText (field : WireField) : String :=
  match wireSection field with
  | some sectionId => sectionId.asStr ++ "/" ++ field.id.asStr
  | none => field.id.asStr

/-- The ids of the field, and of its section if it has one, are legal segments. -/
structure Checked (field : WireField) : Prop where
  id : ValidSegment field.id.asStr
  sectionId : ∀ sectionId, field.sectionId = some sectionId →
    sectionId.asStr = "" ∨ ValidSegment sectionId.asStr

/-- The field is given some reference: its own part of it denotes a field, or a
section and a field, perhaps with a query. -/
def Accepted (field : WireField) : Prop :=
  ∃ segments query, (segments.length = 1 ∨ segments.length = 2) ∧
    Denotes (innerText field) segments query

/-- The reference of the row is the path to the field, and nothing else. -/
structure Designates (vaultId itemId : String) (field : WireField) (row : Field) : Prop where
  query : row.reference.query = none
  segments : row.reference.segments = vaultId :: itemId :: innerSegments field

/-- What a row keeps of its field. The title of its section is the one of the last
section with that id. -/
structure Lists (vaultId itemId : String) (sections : List WireSection) (field : WireField)
    (row : Field) : Prop where
  id : row.id = field.id.asStr
  title : row.title = field.title
  kind : row.kind = field.kind.asStr
  bare : (∀ sectionId, field.sectionId = some sectionId → sectionId.asStr = "") →
    row.reference.asStr = "op://" ++ vaultId ++ "/" ++ itemId ++ "/" ++ field.id.asStr
  sectioned : ∀ sectionId, field.sectionId = some sectionId → sectionId.asStr ≠ "" →
    row.reference.asStr =
      "op://" ++ vaultId ++ "/" ++ itemId ++ "/" ++ sectionId.asStr ++ "/" ++ field.id.asStr
  titled : row.sectionTitle.isSome ↔ ∃ sectionId, field.sectionId = some sectionId ∧
    sectionId.asStr ≠ "" ∧ ∃ known ∈ sections, known.id = sectionId
  section_title : ∀ sectionId before last after, field.sectionId = some sectionId →
    sectionId.asStr ≠ "" → sections = before ++ last :: after → last.id = sectionId →
    (∀ other ∈ after, other.id ≠ sectionId) → row.sectionTitle = some last.title

section References

variable {vaultId itemId : String} {field : WireField} {sections : List WireSection}
variable {reference : SecretReference}

theorem wireSection_eq_some_iff {sectionId : SectionId} :
    wireSection field = some sectionId ↔ field.sectionId = some sectionId ∧ sectionId.asStr ≠ "" := by
  simp [wireSection, Option.filter_eq_some_iff]

theorem checked_iff :
    Checked field ↔ ∀ segment ∈ innerSegments field, ValidSegment segment := by
  have inside : (∀ sectionId, field.sectionId = some sectionId →
      sectionId.asStr = "" ∨ ValidSegment sectionId.asStr) ↔
      ∀ sectionId, wireSection field = some sectionId → ValidSegment sectionId.asStr := by
    simp only [wireSection_eq_some_iff, and_imp]
    exact forall₂_congr fun _ _ => or_iff_not_imp_left
  constructor
  · rintro ⟨id, section_id⟩ segment member
    rw [inside] at section_id
    simp only [innerSegments] at member
    cases sectioned : wireSection field with
    | none =>
        obtain rfl : segment = _ := by simpa [sectioned] using member
        exact id
    | some sectionId =>
        obtain rfl | rfl : segment = _ ∨ segment = _ := by simpa [sectioned] using member
        · exact section_id _ sectioned
        · exact id
  · intro each
    refine ⟨each _ (by simp [innerSegments]), inside.mpr ?_⟩
    intro sectionId sectioned
    exact each _ (by simp [innerSegments, sectioned])

/-- The segments of a checked field are read back from its text. -/
theorem denotes_of_checked (checked : Checked field) :
    Denotes (innerText field) (innerSegments field) none := by
  have each := checked_iff.mp checked
  have last : Denotes field.id.asStr [field.id.asStr] none :=
    ⟨by simp, by simpa using checked.id, by simp, by simp [joined]⟩
  simp only [innerText, innerSegments] at *
  cases sectioned : wireSection field with
  | none => exact last
  | some sectionId =>
      have valid : ValidSegment sectionId.asStr := each _ (by simp [sectioned])
      change Denotes (sectionId.asStr ++ "/" ++ field.id.asStr) [sectionId.asStr, field.id.asStr] none
      exact (denotes_cons valid).mpr ⟨_, rfl, last⟩

theorem accepted_of_checked (checked : Checked field) : Accepted field := by
  refine ⟨_, none, ?_, denotes_of_checked checked⟩
  simp only [innerSegments]
  cases wireSection field <;> simp

/-- The reference text of a field: its vault, its item, and its own part. -/
theorem fieldText_eq (vaultId : VaultId) (itemId : ItemId) :
    SecretReference.fieldText vaultId itemId (ClientInner.fieldOverview sections field) =
      "op://" ++ (vaultId.asStr ++ "/" ++ (itemId.asStr ++ "/" ++ innerText field)) := by
  simp only [SecretReference.fieldText, innerText, wireSection, ClientInner.fieldOverview]
  cases field.sectionId.filter fun sectionId => sectionId.asStr ≠ "" with
  | none => simp [String.append_assoc]
  | some sectionId => simp [String.append_assoc]

theorem forField_eq_ok_iff :
    SecretReference.forField ⟨vaultId⟩ ⟨itemId⟩ (ClientInner.fieldOverview sections field) =
        .ok reference ↔
      reference.asStr = "op://" ++ (vaultId ++ "/" ++ (itemId ++ "/" ++ innerText field)) := by
  rw [SecretReference.forField, SecretReference.parse_eq_ok_iff, fieldText_eq]

/-- Under a legal vault and item, the rest of a reference is read from the field's
own part of the text. -/
theorem denotes_inner_iff (vault : ValidSegment vaultId) (item : ValidSegment itemId)
    {segments : List String} {query : Option String} :
    Denotes (vaultId ++ "/" ++ (itemId ++ "/" ++ innerText field)) segments query ↔
      ∃ inner, segments = vaultId :: itemId :: inner ∧ Denotes (innerText field) inner query := by
  rw [denotes_cons vault]
  constructor
  · rintro ⟨_, rfl, rest⟩
    obtain ⟨inner, rfl, denotes⟩ := (denotes_cons item).mp rest
    exact ⟨inner, rfl, denotes⟩
  · rintro ⟨inner, rfl, denotes⟩
    exact ⟨_, rfl, (denotes_cons item).mpr ⟨inner, rfl, denotes⟩⟩

/-- A field is given a reference exactly when its own part of the text is accepted. -/
theorem exists_forField_iff (vault : ValidSegment vaultId) (item : ValidSegment itemId) :
    (∃ reference, SecretReference.forField ⟨vaultId⟩ ⟨itemId⟩
      (ClientInner.fieldOverview sections field) = .ok reference) ↔ Accepted field := by
  simp only [forField_eq_ok_iff]
  constructor
  · rintro ⟨reference, eq⟩
    obtain ⟨denotes, count⟩ := reference.denotes
    rw [SecretReference.pathAndQuery_eq eq, denotes_inner_iff vault item] at denotes
    obtain ⟨inner, split, denotes⟩ := denotes
    refine ⟨inner, _, ?_, denotes⟩
    rw [split] at count
    simpa using count
  · rintro ⟨inner, query, count, denotes⟩
    have whole := (denotes_inner_iff vault item).mpr ⟨inner, rfl, denotes⟩
    have accepted := checkReference_eq_ok_iff.mpr ⟨_, _, query, rfl, by simpa using count, whole⟩
    exact ⟨⟨_, accepted⟩, rfl⟩

/-- A row designates its field exactly when the ids of the field are checked. -/
theorem designates_iff_checked (vault : ValidSegment vaultId) (item : ValidSegment itemId)
    {row : Field}
    (eq : row.reference.asStr = "op://" ++ (vaultId ++ "/" ++ (itemId ++ "/" ++ innerText field))) :
    Designates vaultId itemId field row ↔ Checked field := by
  have denotes := row.reference.denotes.1
  constructor
  · rintro ⟨_, split⟩
    rw [checked_iff]
    intro segment member
    apply denotes.valid
    rw [split]
    exact .tail _ (.tail _ member)
  · intro checked
    rw [SecretReference.pathAndQuery_eq eq] at denotes
    have intended := (denotes_inner_iff vault item).mpr ⟨_, rfl, denotes_of_checked checked⟩
    have same : (row.reference.segments, row.reference.query) =
        (vaultId :: itemId :: innerSegments field, none) :=
      (denotes_iff.mp denotes).1.symm.trans (denotes_iff.mp intended).1
    obtain ⟨segments_eq, query_eq⟩ := Prod.mk.inj same
    exact ⟨query_eq, segments_eq⟩

theorem sectionTitle_isSome_iff {sectionId : SectionId} :
    (ClientInner.sectionTitle sections sectionId).isSome ↔
      ∃ known ∈ sections, known.id = sectionId := by
  simp [ClientInner.sectionTitle]

/-- The title of a section is the last one given for its id. -/
theorem sectionTitle_eq_last {before after : List WireSection} {last : WireSection}
    (newest : ∀ other ∈ after, other.id ≠ last.id) :
    ClientInner.sectionTitle (before ++ last :: after) last.id = some last.title := by
  have skipped : after.reverse.find? (fun other => decide (other.id = last.id)) = none := by
    simpa using newest
  simp [ClientInner.sectionTitle, List.find?_append, skipped]

end References

section Rows

variable [Rust.UnicodeTables] {vaultId itemId : String} {field : WireField}
variable {sections : List WireSection} {row : Field}

theorem fieldRow_eq_ok_iff {vaultId : VaultId} {itemId : ItemId} {overview : FieldOverview} :
    OnePasswordProvider.fieldRow vaultId itemId overview = .ok row ↔
      ∃ reference, SecretReference.forField vaultId itemId overview = .ok reference ∧
        row = ⟨overview.id.asStr, overview.title, overview.sectionTitle, overview.kind.asStr,
          reference⟩ := by
  simp only [OnePasswordProvider.fieldRow]
  cases SecretReference.forField vaultId itemId overview with
  | error error => simp
  | ok reference =>
      obtain ⟨_, _, _, sectionTitle, _⟩ := overview
      cases sectionTitle <;>
        simp [Field.new, Field.withKind, Field.withSectionTitle, eq_comm]

/-- A listed row, from the reference its field was given. -/
theorem row_of_fieldRow (listed : OnePasswordProvider.fieldRow ⟨vaultId⟩ ⟨itemId⟩
      (ClientInner.fieldOverview sections field) = .ok row) :
    row.id = field.id.asStr ∧ row.title = field.title ∧ row.kind = field.kind.asStr ∧
      row.sectionTitle = (wireSection field).bind (ClientInner.sectionTitle sections) ∧
      row.reference.asStr = "op://" ++ (vaultId ++ "/" ++ (itemId ++ "/" ++ innerText field)) := by
  obtain ⟨reference, accepted, rfl⟩ := fieldRow_eq_ok_iff.mp listed
  exact ⟨rfl, rfl, rfl, rfl, forField_eq_ok_iff.mp accepted⟩

theorem lists_of_fieldRow (listed : OnePasswordProvider.fieldRow ⟨vaultId⟩ ⟨itemId⟩
      (ClientInner.fieldOverview sections field) = .ok row) :
    Lists vaultId itemId sections field row := by
  obtain ⟨id, title, kind, section_title, reference⟩ := row_of_fieldRow listed
  refine ⟨id, title, kind, ?_, ?_, ?_, ?_⟩
  · intro bare
    have outside : wireSection field = none := by
      rw [Option.eq_none_iff_forall_ne_some]
      intro sectionId sectioned
      obtain ⟨held, nonempty⟩ := wireSection_eq_some_iff.mp sectioned
      exact nonempty (bare sectionId held)
    rw [reference, innerText, outside]
    simp [String.append_assoc]
  · intro sectionId held nonempty
    have sectioned := wireSection_eq_some_iff.mpr ⟨held, nonempty⟩
    rw [reference, innerText, sectioned]
    simp [String.append_assoc]
  · rw [section_title]
    constructor
    · intro titled
      obtain ⟨text, found⟩ := Option.isSome_iff_exists.mp titled
      obtain ⟨sectionId, sectioned, named⟩ := Option.bind_eq_some_iff.mp found
      obtain ⟨held, nonempty⟩ := wireSection_eq_some_iff.mp sectioned
      exact ⟨sectionId, held, nonempty, sectionTitle_isSome_iff.mp (by simp [named])⟩
    · rintro ⟨sectionId, held, nonempty, known⟩
      rw [wireSection_eq_some_iff.mpr ⟨held, nonempty⟩]
      exact sectionTitle_isSome_iff.mpr known
  · rintro sectionId before last after held nonempty rfl rfl newest
    rw [section_title, wireSection_eq_some_iff.mpr ⟨held, nonempty⟩]
    exact sectionTitle_eq_last newest

theorem exists_fieldRow_iff (vault : ValidSegment vaultId) (item : ValidSegment itemId) :
    (∃ row, OnePasswordProvider.fieldRow ⟨vaultId⟩ ⟨itemId⟩
      (ClientInner.fieldOverview sections field) = .ok row) ↔ Accepted field := by
  rw [← exists_forField_iff vault item]
  simp only [fieldRow_eq_ok_iff]
  constructor
  · rintro ⟨_, reference, accepted, _⟩
    exact ⟨reference, accepted⟩
  · rintro ⟨reference, accepted⟩
    exact ⟨_, reference, accepted, rfl⟩

/-- The rows of a listing designate their fields exactly when all ids are checked. -/
theorem designates_rows_iff (vault : ValidSegment vaultId) (item : ValidSegment itemId)
    {fields : List WireField} {rows : List Field}
    (listed : List.Forall₂ (fun field row => OnePasswordProvider.fieldRow ⟨vaultId⟩ ⟨itemId⟩
      (ClientInner.fieldOverview sections field) = .ok row) fields rows) :
    List.Forall₂ (Designates vaultId itemId) fields rows ↔ ∀ field ∈ fields, Checked field := by
  induction listed with
  | nil => simp
  | cons head _ ih =>
      have reference := (row_of_fieldRow head).2.2.2.2
      rw [List.forall₂_cons, List.forall_mem_cons, ih,
        designates_iff_checked vault item reference]

end Rows

section Listings

variable [Codec] [Target] [Rust.UnicodeTables] {provider : OnePasswordProvider}
variable {vaultId itemId : String} {wire : WireItem}

/-- The provider is asked for the fields of an item under ids that `new` accepts, and
the app's answer decodes. -/
structure Listing (provider : OnePasswordProvider) (vaultId itemId : String) (wire : WireItem) :
    Prop where
  vault : ValidSegment vaultId
  item : ValidSegment itemId
  decoded : ∃ response, (provider.client.invokeBytes "ItemsGet"
      [("vault_id", .string vaultId), ("item_id", .string itemId)]).1 = .ok response ∧
    fromSlice "WireItem" WireItem.deserialize response = .ok wire

/-- The rows of a listing stand against the wire fields one by one. -/
theorem Listing.fields_eq_ok_iff (listing : Listing provider vaultId itemId wire)
    {rows : List Field} :
    (provider.fields vaultId itemId).1 = .ok rows ↔
      List.Forall₂ (fun field row => OnePasswordProvider.fieldRow ⟨vaultId⟩ ⟨itemId⟩
        (ClientInner.fieldOverview wire.sections field) = .ok row) wire.fields rows := by
  obtain ⟨response, answered, decoded⟩ := listing.decoded
  have vault : (Id.new vaultId : Result VaultId) = .ok ⟨vaultId⟩ :=
    Id.new_eq_ok_iff.mpr ⟨listing.vault, rfl⟩
  have checked : (Id.new itemId : Result ItemId) = .ok ⟨itemId⟩ :=
    Id.new_eq_ok_iff.mpr ⟨listing.item, rfl⟩
  have fields : (provider.client.fields ⟨vaultId⟩ ⟨itemId⟩).1 =
      .ok (wire.fields.map (ClientInner.fieldOverview wire.sections)) := by
    simp [ClientInner.fields, ClientInner.invokeTyped_eq, answered, Except.bind,
      fromSliceOrProtocol, decoded]
  rw [← Collect.mapM_eq_ok_iff]
  simp only [OnePasswordProvider.fields, vault, checked]
  cases called : provider.client.fields ⟨vaultId⟩ ⟨itemId⟩ with
  | mk result client =>
      rw [called] at fields
      subst fields
      simp [List.mapM_map, Function.comp_def]

theorem Listing.exists_rows_iff (listing : Listing provider vaultId itemId wire) :
    (∃ rows, (provider.fields vaultId itemId).1 = .ok rows) ↔
      ∀ field ∈ wire.fields, Accepted field := by
  simp only [listing.fields_eq_ok_iff, ← Collect.mapM_eq_ok_iff]
  rw [Collect.exists_mapM_eq_ok_iff]
  exact forall₂_congr fun _ _ => exists_fieldRow_iff listing.vault listing.item

/-- References designate the field they were made for, as far as its ids were
checked. Whatever the app answers, the rows of a listing are paths to their fields
and nothing else, if and only if every id in it is a legal segment; except that a
single field without any reference fails the listing, and leaves no row at all. -/
theorem designates_iff (listing : Listing provider vaultId itemId wire) :
    (∀ rows, (provider.fields vaultId itemId).1 = .ok rows →
        List.Forall₂ (Designates vaultId itemId) wire.fields rows) ↔
      (∀ field ∈ wire.fields, Checked field) ∨ ∃ field ∈ wire.fields, ¬ Accepted field := by
  constructor
  · intro designated
    by_cases accepted : ∀ field ∈ wire.fields, Accepted field
    · obtain ⟨rows, listed⟩ := listing.exists_rows_iff.mpr accepted
      left
      apply (designates_rows_iff listing.vault listing.item (listing.fields_eq_ok_iff.mp listed)).mp
      exact designated rows listed
    · right
      push Not at accepted
      exact accepted
  · rintro (checked | ⟨field, member, refused⟩) rows listed
    · exact (designates_rows_iff listing.vault listing.item
        (listing.fields_eq_ok_iff.mp listed)).mpr checked
    · exact absurd (listing.exists_rows_iff.mp ⟨rows, listed⟩ field member) refused

/-- No field of a well-formed item is lost: when all ids are legal segments, the
listing succeeds with one row for each wire field, in order. -/
theorem fields_complete (listing : Listing provider vaultId itemId wire)
    (checked : ∀ field ∈ wire.fields, Checked field) :
    ∃ rows, (provider.fields vaultId itemId).1 = .ok rows ∧
      List.Forall₂ (Lists vaultId itemId wire.sections) wire.fields rows := by
  obtain ⟨rows, listed⟩ := listing.exists_rows_iff.mpr
    fun field member => accepted_of_checked (checked field member)
  refine ⟨rows, listed, ?_⟩
  apply (listing.fields_eq_ok_iff.mp listed).imp
  intro field row each
  exact lists_of_fieldRow each

end Listings

section Answers

/-- Two fields, one of them in a section that is listed twice. -/
def loginItem : Json := .object [
  ("fields", .array [
    .object [("id", .string "password"), ("title", .string "password"),
      ("sectionId", .string ""), ("fieldType", .string "Concealed")],
    .object [("id", .string "pin"), ("title", .string "PIN"),
      ("sectionId", .string "codes"), ("fieldType", .string "Concealed")]]),
  ("sections", .array [
    .object [("id", .string "codes"), ("title", .string "Old codes")],
    .object [("id", .string "codes"), ("title", .string "Codes")]])]

/-- A field whose id carries a query. -/
def queryItem : Json := .object [
  ("fields", .array [
    .object [("id", .string "password?attribute=otp"), ("title", .string "one-time password"),
      ("fieldType", .string "Otp")]])]

/-- The response carrying an item. -/
def itemResponse (item : Json) : Json := (Response.mk true item.toBytes).arrayShape

def itemDocuments : List Json :=
  [loginItem, itemResponse loginItem, queryItem, itemResponse queryItem]

local instance itemCodec : Codec := .ofDocuments itemDocuments

local instance itemTarget : Target := .linux

local instance itemTables : Rust.UnicodeTables := .ascii

/-- A provider with an open client, to which the app answers an item. -/
def itemProvider (item : Json) : OnePasswordProvider where
  client := {
    transport := ⟨.const (.ok (itemResponse item).toBytes), []⟩
    accountName := "desk"
    integration := ⟨"App", "1.0"⟩
    clientId := some 7 }

theorem itemProvider_listing {item : Json} {wire : WireItem} (known : item ∈ itemDocuments)
    (answered : itemResponse item ∈ itemDocuments) (decoded : WireItem.deserialize item = some wire) :
    Listing (itemProvider item) "v" "i" wire := by
  have distinct : (itemDocuments.map Json.toBytes).Nodup := by decide +kernel
  have read : readAnswer (itemProvider item).client.nextAnswer = .ok item.toBytes := by
    have response : fromSlice "Response" Response.deserialize (itemResponse item).toBytes =
        .ok ⟨true, item.toBytes⟩ :=
      fromSlice_eq_ok_iff.mpr ⟨_, Codec.ofDocuments_document distinct answered,
        Response.deserialize_arrayShape _⟩
    change decodeResponse (itemResponse item).toBytes = _
    simp [decodeResponse, fromSliceOrProtocol, response]
  refine ⟨by decide, by decide, item.toBytes, ?_, ?_⟩
  · have held : (itemProvider item).client.clientId = some 7 := rfl
    rw [ClientInner.invokeBytes_answered held (by rw [read]; rfl), read]
  · exact fromSlice_eq_ok_iff.mpr ⟨_, Codec.ofDocuments_document distinct known, decoded⟩

def queryField : WireField :=
  ⟨⟨"password?attribute=otp"⟩, "one-time password", none, ⟨"Otp"⟩⟩

theorem queryItem_listing : Listing (itemProvider queryItem) "v" "i" ⟨[queryField], []⟩ :=
  itemProvider_listing (by simp [itemDocuments]) (by simp [itemDocuments]) rfl

theorem designates_iff_queryItem :
    (∀ rows, ((itemProvider queryItem).fields "v" "i").1 = .ok rows →
        List.Forall₂ (Designates "v" "i") [queryField] rows) ↔
      (∀ field ∈ [queryField], Checked field) ∨ ∃ field ∈ [queryField], ¬ Accepted field :=
  designates_iff queryItem_listing

/-- The reference its row is given. -/
def queryReference : SecretReference := ⟨"op://v/i/password?attribute=otp", by decide⟩

/-- The row of a field whose id carries a query refers to an attribute of another field. -/
theorem queryItem_not_designated :
    Listing (itemProvider queryItem) "v" "i" ⟨[queryField], []⟩ ∧
      ∃ row, ((itemProvider queryItem).fields "v" "i").1 = .ok [row] ∧
        row.reference.query = some "attribute=otp" ∧ ¬ Designates "v" "i" queryField row := by
  have query : queryReference.query = some "attribute=otp" := by decide
  refine ⟨queryItem_listing,
    ⟨"password?attribute=otp", "one-time password", none, "Otp", queryReference⟩, ?_, query, ?_⟩
  · apply queryItem_listing.fields_eq_ok_iff.mpr
    refine .cons (fieldRow_eq_ok_iff.mpr ⟨queryReference, ?_, rfl⟩) .nil
    exact forField_eq_ok_iff.mpr (by decide)
  · rintro ⟨bare, _⟩
    rw [query] at bare
    cases bare

def loginFields : List WireField :=
  [⟨⟨"password"⟩, "password", some ⟨""⟩, ⟨"Concealed"⟩⟩,
    ⟨⟨"pin"⟩, "PIN", some ⟨"codes"⟩, ⟨"Concealed"⟩⟩]

def loginSections : List WireSection := [⟨⟨"codes"⟩, "Old codes"⟩, ⟨⟨"codes"⟩, "Codes"⟩]

theorem loginItem_listing :
    Listing (itemProvider loginItem) "v" "i" ⟨loginFields, loginSections⟩ :=
  itemProvider_listing (by simp [itemDocuments]) (by simp [itemDocuments]) rfl

theorem fields_complete_loginItem :
    ∃ rows, ((itemProvider loginItem).fields "v" "i").1 = .ok rows ∧
      List.Forall₂ (Lists "v" "i" loginSections) loginFields rows :=
  fields_complete loginItem_listing (by
      simp only [loginFields, List.forall_mem_cons]
      exact ⟨⟨by decide, by simp⟩, ⟨by decide, by simp; decide⟩, by simp⟩)

end Answers

end Picker
