import OpGpui.Picker.Provider

/-!
# Rows, levels and load requests

What a picker lists at each level, how it names where it is, and what it asks a
provider for. The filter keeps the positions of the rows whose title or detail
contains the query, without regard to case.
-/

namespace Picker

open Sdk

/-- The current navigation level. -/
inductive PickerLevel where
  | vaults
  | items (vaultId vaultTitle : String)
  | fields (vaultId vaultTitle itemId itemTitle : String)
  deriving DecidableEq

inductive Row where
  | vault (vault : Vault)
  | item (item : Item)
  | field (field : Field)
  deriving DecidableEq

namespace Row

def title : Row → String
  | .vault entry => entry.title
  | .item entry => entry.title
  | .field entry => entry.title

/-- Supporting text shown below the title. -/
def detail : Row → String
  | .vault entry =>
      if entry.description ≠ "" then entry.description
      else
        match entry.activeItemCount with
        | some count => toString count.toNat ++ " active items"
        | none => ""
  | .item entry => entry.category
  | .field entry =>
      match entry.sectionTitle, decide (entry.kind = "") with
      | some sectionTitle, false => sectionTitle ++ " · " ++ entry.kind
      | some sectionTitle, true => sectionTitle
      | none, false => entry.kind
      | none, true => ""

/-- The identity GPUI knows the row's element by. -/
def stableElementId : Row → String
  | .vault entry => "op-picker:vault:" ++ entry.id
  | .item entry => "op-picker:item:" ++ entry.vaultId ++ ":" ++ entry.id
  | .field entry => "op-picker:field:" ++ entry.reference.asStr

@[simp] theorem stableElementId_vault (entry : Vault) :
    (Row.vault entry).stableElementId = "op-picker:vault:" ++ entry.id := rfl

@[simp] theorem stableElementId_item (entry : Item) :
    (Row.item entry).stableElementId = "op-picker:item:" ++ entry.vaultId ++ ":" ++ entry.id := rfl

@[simp] theorem stableElementId_field (entry : Field) :
    (Row.field entry).stableElementId = "op-picker:field:" ++ entry.reference.asStr := rfl

def hasChildren : Row → Bool
  | .field _ => false
  | _ => true

end Row

/-- What a load asks the provider for. -/
inductive LoadRequest where
  | vaults
  | items (vault : Vault)
  | fields (vault : Vault) (item : Item)
  deriving DecidableEq

namespace LoadRequest

def level : LoadRequest → PickerLevel
  | .vaults => .vaults
  | .items vault => .items vault.id vault.title
  | .fields vault item => .fields vault.id vault.title item.id item.title

def run (request : LoadRequest) (provider : SecretProvider) : ProviderResult (List Row) :=
  match request with
  | .vaults => provider.vaults.map (List.map Row.vault)
  | .items vault => (provider.items vault.id).map (List.map Row.item)
  | .fields vault item => (provider.fields vault.id item.id).map (List.map Row.field)

/-- The rows that belong to a request. -/
def Fits (request : LoadRequest) (row : Row) : Prop :=
  match request, row with
  | .vaults, .vault _ => True
  | .items _, .item _ => True
  | .fields _ _, .field _ => True
  | _, _ => False

theorem run_vaults_eq_ok_iff {provider : SecretProvider} {rows : List Row} :
    vaults.run provider = .ok rows ↔
      ∃ vaults, provider.vaults = .ok vaults ∧ vaults.map Row.vault = rows := by
  cases listed : provider.vaults <;> simp [run, listed, Except.map]

theorem run_items_eq_ok_iff {provider : SecretProvider} {vault : Vault} {rows : List Row} :
    (items vault).run provider = .ok rows ↔
      ∃ items, provider.items vault.id = .ok items ∧ items.map Row.item = rows := by
  cases listed : provider.items vault.id <;> simp [run, listed, Except.map]

theorem run_fields_eq_ok_iff {provider : SecretProvider} {vault : Vault} {item : Item}
    {rows : List Row} :
    (fields vault item).run provider = .ok rows ↔
      ∃ fields, provider.fields vault.id item.id = .ok fields ∧ fields.map Row.field = rows := by
  cases listed : provider.fields vault.id item.id <;> simp [run, listed, Except.map]

end LoadRequest

section Filter

variable [Rust.UnicodeTables]

/-- Whether a row is kept by a query that has been trimmed and lowercased. -/
def Row.matchesQuery (row : Row) (query : String) : Bool :=
  query = "" || Rust.contains (Rust.toLowercase row.title) query ||
    Rust.contains (Rust.toLowercase row.detail) query

def filteredRowIndices (rows : List Row) (query : String) : List Nat :=
  let query := Rust.toLowercase (Rust.trim query)
  rows.zipIdx.filterMap fun (row, ix) => if row.matchesQuery query then some ix else none

theorem mem_filteredRowIndices {rows : List Row} {query : String} {ix : Nat} :
    ix ∈ filteredRowIndices rows query ↔ ∃ row, rows[ix]? = some row ∧
      row.matchesQuery (Rust.toLowercase (Rust.trim query)) = true := by
  simp only [filteredRowIndices, List.mem_filterMap, Prod.exists, List.mem_zipIdx_iff_getElem?,
    Option.ite_none_right_eq_some, Option.some.injEq]
  constructor
  · rintro ⟨row, _, found, kept, rfl⟩
    exact ⟨row, found, kept⟩
  · rintro ⟨row, found, kept⟩
    exact ⟨row, ix, found, kept, rfl⟩

theorem lt_of_mem_filteredRowIndices {rows : List Row} {query : String} {ix : Nat}
    (member : ix ∈ filteredRowIndices rows query) : ix < rows.length := by
  obtain ⟨row, found, _⟩ := mem_filteredRowIndices.mp member
  exact (List.getElem?_eq_some_iff.mp found).1

/-- The kept positions stand in the order of the rows. -/
theorem filteredRowIndices_increasing (rows : List Row) (query : String) :
    (filteredRowIndices rows query).Pairwise (· < ·) := by
  have increasing : (rows.zipIdx.map Prod.snd).Pairwise (· < ·) := by
    rw [List.zipIdx_map_snd]
    exact List.pairwise_lt_range'
  refine List.Pairwise.filterMap _ ?_ (List.pairwise_map.mp increasing)
  intro first second before ix kept ix' kept'
  simp only [Option.ite_none_right_eq_some, Option.some.injEq] at kept kept'
  obtain ⟨_, rfl⟩ := kept
  obtain ⟨_, rfl⟩ := kept'
  exact before

end Filter

end Picker
