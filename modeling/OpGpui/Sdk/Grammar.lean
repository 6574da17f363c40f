import OpGpui.Sdk.Reference

/-!
# The grammar of references

`ReferenceText` writes out the texts that are references, and `parse_accepts_grammar`
shows that `SecretReference.parse` accepts these and no others. An `IdPath` is what a
reference without a query stands for: a vault, an item, perhaps a section, and a
field. On ids from the checked constructors `SecretReference.forField` is one-to-one,
and it reaches every such reference (`forField_bijective`).
-/

namespace Sdk

/-- A text that is not empty and has none of the delimiters. -/
structure PlainSegment (segment : String) : Prop where
  nonempty : segment ≠ ""
  slash : '/' ∉ segment.toList
  mark : '?' ∉ segment.toList
  hash : '#' ∉ segment.toList

/-- The end of a reference: nothing, or a query. -/
inductive QueryPart : String → Prop
  | absent : QueryPart ""
  | query {text : String} (nonempty : text ≠ "") (hash : '#' ∉ text.toList) :
      QueryPart ("?" ++ text)

/-- The texts that are references. -/
inductive ReferenceText : String → Prop
  | bare {vault item field query : String} (vault_plain : PlainSegment vault)
      (item_plain : PlainSegment item) (field_plain : PlainSegment field)
      (query_part : QueryPart query) :
      ReferenceText ("op://" ++ vault ++ "/" ++ item ++ "/" ++ field ++ query)
  | sectioned {vault item fieldSection field query : String} (vault_plain : PlainSegment vault)
      (item_plain : PlainSegment item) (section_plain : PlainSegment fieldSection)
      (field_plain : PlainSegment field) (query_part : QueryPart query) :
      ReferenceText ("op://" ++ vault ++ "/" ++ item ++ "/" ++ fieldSection ++ "/" ++ field ++ query)

theorem plainSegment_iff {segment : String} : PlainSegment segment ↔ ValidSegment segment := by
  rw [validSegment_iff]
  constructor
  · rintro ⟨nonempty, slash, mark, hash⟩
    exact ⟨nonempty, slash, mark, hash⟩
  · rintro ⟨nonempty, slash, mark, hash⟩
    exact ⟨nonempty, slash, mark, hash⟩

/-- The end of a reference is what `joined` writes for a legal query. -/
theorem queryPart_iff {text : String} :
    QueryPart text ↔ ∃ query : Option String,
      (∀ q ∈ query, q ≠ "" ∧ '#' ∉ q.toList) ∧
        text.toList = query.elim [] fun q => '?' :: q.toList := by
  constructor
  · rintro (_ | ⟨nonempty, hash⟩)
    · exact ⟨none, by simp, rfl⟩
    · exact ⟨some _, by simpa using ⟨nonempty, hash⟩, by simp⟩
  · rintro ⟨query, legal, eq⟩
    cases query with
    | none =>
        obtain rfl : text = "" := String.toList_inj.mp eq
        exact .absent
    | some q =>
        obtain rfl : text = "?" ++ q := String.toList_inj.mp (by simpa using eq)
        obtain ⟨nonempty, hash⟩ := legal q rfl
        exact .query nonempty hash

/-- The grammar is what the checks of `parse` decide. -/
theorem referenceText_iff {value : String} :
    ReferenceText value ↔ checkReference value = .ok () := by
  rw [checkReference_eq_ok_iff]
  constructor
  · intro text
    cases text with
    | @bare vault item field ending vault_plain item_plain field_plain query_part =>
        obtain ⟨query, legal, eq⟩ := queryPart_iff.mp query_part
        refine ⟨vault ++ ("/" ++ (item ++ ("/" ++ (field ++ ending)))), [vault, item, field], query,
          by simp only [String.append_assoc], .inl rfl, by simp, ?_, legal, ?_⟩
        · simpa using ⟨plainSegment_iff.mp vault_plain, plainSegment_iff.mp item_plain,
            plainSegment_iff.mp field_plain⟩
        · simp [joined, eq, List.intercalate_cons_cons]
    | @sectioned vault item fieldSection field ending vault_plain item_plain section_plain field_plain
        query_part =>
        obtain ⟨query, legal, eq⟩ := queryPart_iff.mp query_part
        refine ⟨vault ++ ("/" ++ (item ++ ("/" ++ (fieldSection ++ ("/" ++ (field ++ ending)))))),
          [vault, item, fieldSection, field], query, by simp only [String.append_assoc], .inr rfl,
          by simp, ?_, legal, ?_⟩
        · simpa using ⟨plainSegment_iff.mp vault_plain, plainSegment_iff.mp item_plain,
            plainSegment_iff.mp section_plain, plainSegment_iff.mp field_plain⟩
        · simp [joined, eq, List.intercalate_cons_cons]
  · rintro ⟨text, segments, query, rfl, count, denotes⟩
    have plain : ∀ segment ∈ segments, PlainSegment segment :=
      fun segment member => plainSegment_iff.mpr (denotes.valid segment member)
    have ending : QueryPart (String.ofList (query.elim [] fun q => '?' :: q.toList)) :=
      queryPart_iff.mpr ⟨query, denotes.query_text, by simp⟩
    have eq := denotes.text_eq
    obtain three | four := count
    · obtain ⟨vault, item, field, rfl⟩ := List.length_eq_three.mp three
      simp only [List.forall_mem_cons] at plain
      have written := ReferenceText.bare plain.1 plain.2.1 plain.2.2.1 ending
      convert written using 1
      apply String.toList_inj.mp
      simp [eq, joined, List.intercalate_cons_cons]
    · obtain ⟨vault, others, rfl⟩ := List.exists_cons_of_length_eq_add_one four
      obtain ⟨item, fieldSection, field, rfl⟩ := List.length_eq_three.mp (Nat.succ.inj four)
      simp only [List.forall_mem_cons] at plain
      have written := ReferenceText.sectioned plain.1 plain.2.1 plain.2.2.1 plain.2.2.2.1 ending
      convert written using 1
      apply String.toList_inj.mp
      simp [eq, joined, List.intercalate_cons_cons]

/-- A refused text is reported whole, or by one of its pieces. -/
theorem checkReference_error {value : String} {error : Error}
    (refused : checkReference value = .error error) :
    error = .invalidSecretReference value ∨ ∃ segment, error = .invalidReferenceSegment segment := by
  simp only [checkReference] at refused
  split at refused
  · exact .inl (Except.error.inj refused).symm
  · split at refused
    · exact .inl (Except.error.inj refused).symm
    split at refused
    · exact .inl (Except.error.inj refused).symm
    split at refused
    · obtain ⟨segment, _, failed⟩ := Collect.exists_of_forM_eq_error refused
      simp only [validateReferenceSegment] at failed
      split at failed
      · exact .inr ⟨segment, (Except.error.inj failed).symm⟩
      · cases failed
    · exact .inl (Except.error.inj refused).symm

/-- `SecretReference.parse` accepts exactly the grammar and changes nothing. Every
other text is refused, as a reference or for one of its segments. -/
theorem parse_accepts_grammar (value : String) :
    ((∃ reference, SecretReference.parse value = .ok reference) ↔ ReferenceText value) ∧
      (∀ reference, SecretReference.parse value = .ok reference → reference.asStr = value) ∧
      (¬ ReferenceText value →
        SecretReference.parse value = .error (.invalidSecretReference value) ∨
          ∃ segment, SecretReference.parse value = .error (.invalidReferenceSegment segment)) := by
  refine ⟨?_, fun _ parsed => SecretReference.parse_eq_ok_iff.mp parsed, ?_⟩
  · rw [referenceText_iff]
    constructor
    · rintro ⟨reference, parsed⟩
      rw [← SecretReference.parse_eq_ok_iff.mp parsed]
      exact reference.accepted
    · intro accepted
      exact ⟨⟨value, accepted⟩, SecretReference.parse_eq_ok_iff.mpr rfl⟩
  · intro other
    rw [referenceText_iff] at other
    simp only [SecretReference.parse_eq_error_iff]
    cases checked : checkReference value with
    | ok _ => exact absurd checked other
    | error error =>
        obtain rfl | ⟨segment, rfl⟩ := checkReference_error checked
        · exact .inl rfl
        · exact .inr ⟨segment, rfl⟩

/-- The ids a reference without a query is made of. -/
structure IdPath where
  vaultId : VaultId
  itemId : ItemId
  sectionId : Option SectionId
  fieldId : FieldId
  deriving DecidableEq

namespace IdPath

variable {path other : IdPath} {field : FieldOverview} {reference : SecretReference}

/-- Every id is one that its checked constructor returns. -/
structure Accepted (path : IdPath) : Prop where
  vaultId : Id.new path.vaultId.asStr = .ok path.vaultId
  itemId : Id.new path.itemId.asStr = .ok path.itemId
  sectionId : ∀ sectionId ∈ path.sectionId, Id.new sectionId.asStr = .ok sectionId
  fieldId : Id.new path.fieldId.asStr = .ok path.fieldId

/-- The ids in the order of a reference. -/
def segments (path : IdPath) : List String :=
  path.vaultId.asStr :: path.itemId.asStr ::
    ((path.sectionId.map Id.asStr).toList ++ [path.fieldId.asStr])

/-- The field has the section and the id of the path. -/
structure Names (path : IdPath) (field : FieldOverview) : Prop where
  sectionId : field.sectionId = path.sectionId
  fieldId : field.id = path.fieldId

theorem accepted_iff : path.Accepted ↔ ∀ segment ∈ path.segments, ValidSegment segment := by
  obtain ⟨vaultId, itemId, sectionId, fieldId⟩ := path
  constructor
  · rintro ⟨vault, item, fieldSection, field⟩
    simp only [Id.new_eq_ok_iff] at vault item fieldSection field
    cases sectionId with
    | none => simpa [segments] using ⟨vault.1, item.1, field.1⟩
    | some sectionId =>
        simpa [segments] using ⟨vault.1, item.1, (fieldSection sectionId rfl).1, field.1⟩
  · intro valid
    cases sectionId with
    | none =>
        obtain ⟨vault, item, field⟩ : ValidSegment _ ∧ ValidSegment _ ∧ ValidSegment _ := by
          simpa [segments] using valid
        exact ⟨Id.new_eq_ok_iff.mpr ⟨vault, rfl⟩, Id.new_eq_ok_iff.mpr ⟨item, rfl⟩, by simp,
          Id.new_eq_ok_iff.mpr ⟨field, rfl⟩⟩
    | some sectionId =>
        obtain ⟨vault, item, inside, field⟩ :
            ValidSegment _ ∧ ValidSegment _ ∧ ValidSegment _ ∧ ValidSegment _ := by
          simpa [segments] using valid
        refine ⟨Id.new_eq_ok_iff.mpr ⟨vault, rfl⟩, Id.new_eq_ok_iff.mpr ⟨item, rfl⟩, ?_,
          Id.new_eq_ok_iff.mpr ⟨field, rfl⟩⟩
        rintro _ ⟨⟩
        exact Id.new_eq_ok_iff.mpr ⟨inside, rfl⟩

theorem segments_length (path : IdPath) :
    path.segments.length = 3 ∨ path.segments.length = 4 := by
  obtain ⟨_, _, sectionId, _⟩ := path
  cases sectionId <;> simp [segments]

/-- A path is known by its segments. -/
theorem segments_injective (same : path.segments = other.segments) : path = other := by
  obtain ⟨⟨vault⟩, ⟨item⟩, fieldSection, ⟨field⟩⟩ := path
  obtain ⟨⟨vault'⟩, ⟨item'⟩, fieldSection', ⟨field'⟩⟩ := other
  cases fieldSection with
  | none => cases fieldSection' <;> simp_all [segments]
  | some sectionId =>
      obtain ⟨inside⟩ := sectionId
      cases fieldSection' with
      | none => simp [segments] at same
      | some other =>
          obtain ⟨inside'⟩ := other
          simp_all [segments]

/-- Three or four segments are those of a path. -/
theorem exists_of_segments {segments : List String}
    (count : segments.length = 3 ∨ segments.length = 4) : ∃ path : IdPath, path.segments = segments := by
  match segments, count with
  | [vault, item, field], _ => exact ⟨⟨⟨vault⟩, ⟨item⟩, none, ⟨field⟩⟩, rfl⟩
  | [vault, item, inside, field], _ => exact ⟨⟨⟨vault⟩, ⟨item⟩, some ⟨inside⟩, ⟨field⟩⟩, rfl⟩

/-- The text of a named field is joined from the segments. -/
theorem fieldText_eq (names : path.Names field) :
    ∃ text, SecretReference.fieldText path.vaultId path.itemId field = "op://" ++ text ∧
      text.toList = joined path.segments none := by
  obtain ⟨vaultId, itemId, sectionId, fieldId⟩ := path
  obtain ⟨inside, id⟩ := names
  simp only at inside id
  simp only [SecretReference.fieldText, inside, id]
  cases sectionId with
  | none =>
      exact ⟨vaultId.asStr ++ ("/" ++ (itemId.asStr ++ ("/" ++ fieldId.asStr))),
        by simp only [String.append_assoc], by simp [joined, segments, List.intercalate_cons_cons]⟩
  | some sectionId =>
      exact ⟨vaultId.asStr ++ ("/" ++ (itemId.asStr ++ ("/" ++ (sectionId.asStr ++
          ("/" ++ fieldId.asStr))))),
        by simp only [String.append_assoc], by simp [joined, segments, List.intercalate_cons_cons]⟩

theorem denotes_of_text {text : String} (accepted : path.Accepted)
    (written : text.toList = joined path.segments none) : Denotes text path.segments none :=
  ⟨by simp [segments], accepted_iff.mp accepted, by simp, written⟩

/-- The reference of an accepted path is the one reference that has its segments and
no query. -/
theorem forField_eq_ok_iff (accepted : path.Accepted) (names : path.Names field) :
    SecretReference.forField path.vaultId path.itemId field = .ok reference ↔
      reference.segments = path.segments ∧ reference.query = none := by
  obtain ⟨text, eq, written⟩ := fieldText_eq names
  rw [SecretReference.forField, SecretReference.parse_eq_ok_iff, eq]
  constructor
  · intro same
    have denotes := reference.denotes.1
    rw [SecretReference.pathAndQuery_eq same] at denotes
    have intended := denotes_of_text accepted written
    have one := (denotes_iff.mp denotes).1.symm.trans (denotes_iff.mp intended).1
    exact Prod.mk.inj one
  · rintro ⟨same, bare⟩
    have read := reference.denotes.1.text_eq
    rw [same, bare, ← written] at read
    rw [reference.asStr_eq, String.toList_inj.mp read]

/-- A reference without a question mark has no query. -/
theorem query_eq_none (unmarked : '?' ∉ reference.asStr.toList) : reference.query = none := by
  cases found : reference.query with
  | none => rfl
  | some query =>
      have read := reference.denotes.1.text_eq
      rw [reference.asStr_eq, String.toList_append, List.mem_append, not_or, read] at unmarked
      simp [joined, found] at unmarked

end IdPath

/-- `SecretReference.forField` is a bijection between accepted paths and the references
without a query: it succeeds on all of the former, never gives two of them the same
reference, and reaches each of the latter from the path of its segments alone. -/
theorem forField_bijective :
    (∀ path field, IdPath.Accepted path → path.Names field →
      ∃ reference, SecretReference.forField path.vaultId path.itemId field = .ok reference) ∧
    (∀ path field other field' reference, IdPath.Accepted path → path.Names field →
      IdPath.Accepted other → other.Names field' →
      SecretReference.forField path.vaultId path.itemId field = .ok reference →
      SecretReference.forField other.vaultId other.itemId field' = .ok reference → path = other) ∧
    ∀ value reference, SecretReference.parse value = .ok reference → '?' ∉ value.toList →
      ∃ path, IdPath.Accepted path ∧ path.segments = reference.segments ∧
        (∀ field, path.Names field →
          SecretReference.forField path.vaultId path.itemId field = .ok reference) ∧
        ∀ other field, IdPath.Accepted other → other.Names field →
          SecretReference.forField other.vaultId other.itemId field = .ok reference → other = path := by
  refine ⟨?_, ?_, ?_⟩
  · intro path field accepted names
    obtain ⟨text, eq, written⟩ := IdPath.fieldText_eq names
    have denotes := IdPath.denotes_of_text accepted written
    have checked := checkReference_eq_ok_iff.mpr ⟨text, _, _, eq, path.segments_length, denotes⟩
    exact ⟨⟨_, checked⟩, SecretReference.parse_eq_ok_iff.mpr rfl⟩
  · intro path field other field' reference accepted names accepted' names' first second
    have segments := ((IdPath.forField_eq_ok_iff accepted names).mp first).1
    have segments' := ((IdPath.forField_eq_ok_iff accepted' names').mp second).1
    exact IdPath.segments_injective (segments.symm.trans segments')
  · intro value reference parsed unmarked
    rw [← SecretReference.parse_eq_ok_iff.mp parsed] at unmarked
    have bare := IdPath.query_eq_none unmarked
    obtain ⟨denotes, count⟩ := reference.denotes
    obtain ⟨path, segments⟩ := IdPath.exists_of_segments count
    have accepted : path.Accepted := IdPath.accepted_iff.mpr (segments ▸ denotes.valid)
    refine ⟨path, accepted, segments, ?_, ?_⟩
    · intro field names
      exact (IdPath.forField_eq_ok_iff accepted names).mpr ⟨segments.symm, bare⟩
    · intro other field accepted' names reached
      have same := ((IdPath.forField_eq_ok_iff accepted' names).mp reached).1
      exact IdPath.segments_injective (same.symm.trans segments.symm)

end Sdk
