import OpGpui.Library.Delimited
import OpGpui.Picker.Row

/-!
# Element ids and the objects they name

`Row.stableElementId` joins strings of the provider's choosing with colons and escapes
none of them. The kind of a row, the id of a vault and the reference of a field can be
read back from it. For an item this fails where a colon inside one of its two ids can
be taken for the joining one, and nowhere else (`element_ids_identify_iff`).
-/

namespace Picker

open Sdk

namespace Row

/-- Both rows stand for the same object. -/
def SameObject : Row → Row → Prop
  | .vault first, .vault second => first.id = second.id
  | .item first, .item second => first.vaultId = second.vaultId ∧ first.id = second.id
  | .field first, .field second => first.reference = second.reference
  | _, _ => False

/-- The vault id of the second item continues that of the first into its id, past a
colon that both of them have. -/
inductive Straddles : Row → Row → Prop
  | item {first second : Item} {middle : String}
      (vault : second.vaultId = first.vaultId ++ ":" ++ middle)
      (id : first.id = middle ++ ":" ++ second.id) :
      Straddles (.item first) (.item second)

/-- The letter that tells the kinds apart. -/
def kindLetter : Row → Char
  | .vault _ => 'v'
  | .item _ => 'i'
  | .field _ => 'f'

variable {row other : Row} {first second : Item}

theorem getElem?_stableElementId (row : Row) :
    row.stableElementId.toList[10]? = some row.kindLetter := by
  cases row with
  | vault entry =>
      rw [stableElementId_vault, String.toList_append, List.getElem?_append_left (by decide)]
      rfl
  | item entry =>
      rw [stableElementId_item, String.append_assoc, String.append_assoc, String.toList_append,
        List.getElem?_append_left (by decide)]
      rfl
  | field entry =>
      rw [stableElementId_field, String.toList_append, List.getElem?_append_left (by decide)]
      rfl

theorem kindLetter_eq (same : row.stableElementId = other.stableElementId) :
    row.kindLetter = other.kindLetter := by
  apply Option.some.inj
  rw [← getElem?_stableElementId, ← getElem?_stableElementId, same]

/-- The ids of an item are joined with the same colon that may stand inside them. -/
theorem stableElementId_item_eq_iff :
    (Row.item first).stableElementId = (Row.item second).stableElementId ↔
      first.vaultId.toList ++ ':' :: first.id.toList =
        second.vaultId.toList ++ ':' :: second.id.toList := by
  rw [stableElementId_item, stableElementId_item, ← String.toList_inj]
  simp only [String.toList_append, List.append_assoc, List.append_cancel_left_eq]
  exact Iff.rfl

theorem straddles_iff : Straddles (.item first) (.item second) ↔
    ∃ middle, second.vaultId.toList = first.vaultId.toList ++ ':' :: middle ∧
      first.id.toList = middle ++ ':' :: second.id.toList := by
  constructor
  · rintro ⟨vault, id⟩
    rename_i middle
    exact ⟨middle.toList, by simp [vault], by simp [id]⟩
  · rintro ⟨middle, vault, id⟩
    refine @Straddles.item first second (String.ofList middle) ?_ ?_
    · exact String.toList_inj.mp (by simp [vault])
    · exact String.toList_inj.mp (by simp [id])

/-- Rows that straddle are two objects. -/
theorem Straddles.not_sameObject (straddles : Straddles row other) :
    ¬ row.SameObject other ∧ ¬ other.SameObject row := by
  cases straddles with
  | @item first second middle vault _ =>
      have other : first.vaultId ≠ second.vaultId := by
        intro same
        have lengths := congrArg (fun text => text.toList.length) (same.trans vault)
        simp at lengths
      exact ⟨fun same => other same.1, fun same => other same.1.symm⟩

/-- Rows that straddle share an element id. -/
theorem Straddles.stableElementId_eq (straddles : Straddles row other) :
    row.stableElementId = other.stableElementId := by
  cases straddles with
  | item vault id =>
      rw [stableElementId_item_eq_iff, Delimited.append_cons_eq_append_cons_iff]
      exact .inr (.inl (straddles_iff.mp (.item vault id)))

/-- Row element ids identify rows, up to colons inside item ids. For any two rows, sharing
an element id means being one object if and only if they do not straddle. -/
theorem element_ids_identify_iff (row other : Row) :
    (row.stableElementId = other.stableElementId → row.SameObject other) ↔
      ¬ Straddles row other ∧ ¬ Straddles other row := by
  constructor
  · intro identifies
    constructor
    · intro straddles
      exact straddles.not_sameObject.1 (identifies straddles.stableElementId_eq)
    · intro straddles
      exact straddles.not_sameObject.2 (identifies straddles.stableElementId_eq.symm)
  · rintro ⟨forward, backward⟩ same
    have kind := kindLetter_eq same
    match row, other with
    | .vault first, .vault second =>
        rw [stableElementId_vault, stableElementId_vault] at same
        exact (String.append_right_inj _).mp same
    | .item first, .item second =>
        obtain ⟨vault, id⟩ | straddles | straddles :=
          Delimited.append_cons_eq_append_cons_iff.mp (stableElementId_item_eq_iff.mp same)
        · exact ⟨String.toList_inj.mp vault, String.toList_inj.mp id⟩
        · exact absurd (straddles_iff.mpr straddles) forward
        · exact absurd (straddles_iff.mpr straddles) backward
    | .field first, .field second =>
        rw [stableElementId_field, stableElementId_field] at same
        exact SecretReference.asStr_injective ((String.append_right_inj _).mp same)
    | .vault _, .item _ | .vault _, .field _ | .item _, .vault _ | .item _, .field _
    | .field _, .vault _ | .field _, .item _ => simp [kindLetter] at kind

end Row

/-- A provider that lists two items whose ids meet around a colon. -/
def colonItems : SecretProvider where
  vaults := .ok []
  items _ := .ok [.new "a" "b:c" "First", .new "a:b" "c" "Second"]
  fields _ _ := .ok []

/-- Both are listed together, as two objects under one element id. -/
theorem colonItems_share_id :
    ∃ first second, (LoadRequest.items (.new "a" "Vault")).run colonItems = .ok [first, second] ∧
      first.stableElementId = second.stableElementId ∧ ¬ first.SameObject second := by
  refine ⟨_, _, rfl, by decide, ?_⟩
  rintro ⟨vault, _⟩
  exact absurd vault (by decide)

end Picker
