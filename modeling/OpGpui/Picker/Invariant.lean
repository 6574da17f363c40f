import OpGpui.Library.Run
import OpGpui.Picker.Paint

/-!
# What an input can do, and the representation invariant

The picker alone as a machine: it takes actions, clicks on visible positions, and
the ends of loads. A load may end at any time with any result, also with one that
no request could have; what is proved here needs no provider.

`Does` lists everything a single input can do. `Consistent` is the invariant of the
fields, and `picker_consistent` what follows from it in every reachable state.
-/

namespace Picker

open Sdk Machine

/-- What a picker reacts to. -/
inductive Input where
  | act (action : Action)
  | click (visibleIx : Nat)
  | complete (load : Load) (result : ProviderResult (List Row))

namespace SecretPicker

variable {picker after : SecretPicker} {input : Input} {request : LoadRequest}

/-- The loads a picker may start from a state: its own request again, the parent of
its request, or a child of it for one of the rows. -/
inductive Opens (picker : SecretPicker) : LoadRequest → Prop
  | again : Opens picker picker.request
  | leaveItems {vault : Vault} (at_items : picker.request = .items vault) : Opens picker .vaults
  | leaveFields {vault : Vault} {item : Item} (at_fields : picker.request = .fields vault item) :
      Opens picker (.items vault)
  | enterVault {vault : Vault} (listed : .vault vault ∈ picker.rows) : Opens picker (.items vault)
  | enterItem {vault : Vault} {item : Item} (at_items : picker.request = .items vault)
      (listed : .item item ∈ picker.rows) : Opens picker (.fields vault item)

theorem mem_rows_of_visibleRow {visibleIx : Nat} {row : Row}
    (visible : picker.visibleRow visibleIx = some row) : row ∈ picker.rows := by
  obtain ⟨sourceIx, _, found⟩ := Option.bind_eq_some_iff.mp visible
  exact List.mem_of_getElem? found

theorem lt_of_visibleRow {visibleIx : Nat} {row : Row}
    (visible : picker.visibleRow visibleIx = some row) : visibleIx < picker.filteredRows.length := by
  obtain ⟨sourceIx, found, _⟩ := Option.bind_eq_some_iff.mp visible
  exact (List.getElem?_eq_some_iff.mp found).1

/-- What activating a row does: a vault or an item is opened, a field emitted. -/
def activateRow (picker : SecretPicker) : Row → SecretPicker × Effects
  | .vault vault => picker.load (.items vault)
  | .item item =>
      match picker.request with
      | .items vault => picker.load (.fields vault item)
      | _ => (picker, .none)
  | .field field => (picker, .emit (.selected field.reference))

theorem activateSelected_of_row {row : Row} (ready : picker.loadState = .ready)
    (selected : picker.selectedRow = some row) : picker.activateSelected = picker.activateRow row := by
  simp only [activateSelected]
  rw [ready, selected]
  cases row <;> rfl

theorem activateVisibleIx_of_row {visibleIx : Nat} {row : Row} (ready : picker.loadState = .ready)
    (visible : picker.visibleRow visibleIx = some row) :
    picker.activateVisibleIx visibleIx =
      activateRow { picker with selectedIx := some visibleIx } row := by
  have inside := Nat.not_le_of_lt (lt_of_visibleRow visible)
  have ready' : ({ picker with selectedIx := some visibleIx } : SecretPicker).loadState = .ready :=
    ready
  have selected : selectedRow { picker with selectedIx := some visibleIx } = some row := visible
  rw [activateVisibleIx, if_neg inside, activateSelected_of_row ready' selected]

variable [Rust.UnicodeTables]

/-- The picker after an input, with the effects of the call. -/
def respond (picker : SecretPicker) : Input → SecretPicker × Effects
  | .act action => picker.perform action
  | .click visibleIx => picker.activateVisibleIx visibleIx
  | .complete load result => (picker.complete load result, .none)

def step (picker : SecretPicker) (input : Input) : Option SecretPicker := some (picker.respond input).1

/-- Everything one action or click can do. -/
inductive Does (picker : SecretPicker) : SecretPicker × Effects → Prop
  | nothing : Does picker (picker, .none)
  | opens {request : LoadRequest} (allowed : picker.Opens request) :
      Does picker (picker.load request)
  | filters (query : String) : Does picker (rebuildFilter { picker with query }, .none)
  | selects {visibleIx : Nat} (visible : visibleIx < picker.filteredRows.length) :
      Does picker ({ picker with selectedIx := some visibleIx }, .none)
  | confirms {visibleIx : Nat} {field : Field} (notFailed : ∀ error, picker.loadState ≠ .failed error)
      (visible : picker.visibleRow visibleIx = some (.field field)) :
      Does picker ({ picker with selectedIx := some visibleIx }, .emit (.selected field.reference))
  | cancels (root : picker.request = .vaults) (unfiltered : picker.query = "") :
      Does picker (picker, .emit .cancelRequested)

theorem does_selectRelative (picker : SecretPicker) (delta : Int) :
    picker.Does (picker.selectRelative delta, .none) := by
  simp only [selectRelative]
  by_cases empty : picker.filteredRows.length = 0
  · rw [if_pos empty]
    exact .nothing
  · rw [if_neg empty]
    split
    · exact .selects (by omega)
    · exact .nothing

theorem does_selectBoundary (picker : SecretPicker) (last : Bool) :
    picker.Does (picker.selectBoundary last, .none) := by
  simp only [selectBoundary]
  by_cases empty : picker.filteredRows = []
  · rw [if_pos empty]
    exact .nothing
  · have some : 0 < picker.filteredRows.length := List.length_pos_iff.mpr empty
    rw [if_neg empty]
    exact .selects (by split <;> omega)

/-- Confirming a selected position. -/
theorem does_activateSelected {visibleIx : Nat} (visible : visibleIx < picker.filteredRows.length) :
    picker.Does (activateSelected { picker with selectedIx := some visibleIx }) := by
  have selected : selectedRow { picker with selectedIx := some visibleIx } =
    picker.visibleRow visibleIx := rfl
  simp only [activateSelected]
  split
  · exact .opens .again
  · rename_i notFailed
    rw [selected]
    cases shown : picker.visibleRow visibleIx with
    | none => exact .selects visible
    | some row =>
        cases row with
        | vault vault => exact .opens (.enterVault (mem_rows_of_visibleRow shown))
        | item item =>
            dsimp only
            split
            · rename_i vault at_items
              exact .opens (.enterItem at_items (mem_rows_of_visibleRow shown))
            · exact .selects visible
        | field field => exact .confirms notFailed shown

theorem does_confirm (picker : SecretPicker) : picker.Does picker.activateSelected := by
  cases selected : picker.selectedIx with
  | none =>
      simp only [activateSelected]
      split
      · exact .opens .again
      · simp only [selectedRow, selected]
        exact .nothing
  | some visibleIx =>
      have same : { picker with selectedIx := some visibleIx } = picker := by
        rw [← selected]
      by_cases visible : visibleIx < picker.filteredRows.length
      · have confirmed := does_activateSelected visible
        rwa [same] at confirmed
      · have hidden : picker.visibleRow visibleIx = none := by
          simp [visibleRow, List.getElem?_eq_none (Nat.le_of_not_lt visible)]
        simp only [activateSelected]
        split
        · exact .opens .again
        · simp only [selectedRow, selected, Option.bind_some, hidden]
          exact .nothing

theorem does_goBack (picker : SecretPicker) : picker.Does picker.goBack := by
  simp only [goBack]
  cases at_request : picker.request with
  | vaults => exact .nothing
  | items vault => exact .opens (.leaveItems at_request)
  | fields vault item => exact .opens (.leaveFields at_request)

theorem does_cancel (picker : SecretPicker) : picker.Does picker.cancel := by
  simp only [cancel]
  split
  · exact .filters ""
  · rename_i unfiltered
    split
    · exact picker.does_goBack
    · rename_i root
      exact .cancels (not_not.mp root) (not_not.mp unfiltered)

theorem does_eraseQueryCharacter (picker : SecretPicker) :
    picker.Does picker.eraseQueryCharacter := by
  simp only [eraseQueryCharacter]
  split
  · exact .filters _
  · exact picker.does_goBack

theorem does_onKeyDown (picker : SecretPicker) (event : KeyDownEvent) :
    picker.Does (picker.onKeyDown event) := by
  simp only [onKeyDown]
  split
  · exact .nothing
  · split
    · exact .nothing
    · split
      · exact .nothing
      · exact .filters _

theorem does_perform (picker : SecretPicker) (action : Action) :
    picker.Does (picker.perform action) := by
  cases action with
  | selectPrevious => exact picker.does_selectRelative (-1)
  | selectNext => exact picker.does_selectRelative 1
  | selectFirst => exact picker.does_selectBoundary false
  | selectLast => exact picker.does_selectBoundary true
  | confirm => exact picker.does_confirm
  | cancel => exact picker.does_cancel
  | goBack => exact picker.does_goBack
  | eraseQueryCharacter => exact picker.does_eraseQueryCharacter
  | retry => exact .opens .again
  | keyDown event => exact picker.does_onKeyDown event

theorem does_click (picker : SecretPicker) (visibleIx : Nat) :
    picker.Does (picker.activateVisibleIx visibleIx) := by
  simp only [activateVisibleIx]
  split
  · exact .nothing
  · rename_i visible
    exact does_activateSelected (Nat.lt_of_not_le visible)

/-- The end of a load either passes both guards or changes nothing. -/
theorem complete_cases (picker : SecretPicker) (load : Load) (result : ProviderResult (List Row)) :
    picker.complete load result = picker ∨
      (picker.generation = load.generation ∧ picker.request.level = load.request.level ∧
        picker.complete load result = picker.finish result) := by
  simp only [complete]
  split
  · exact .inl rfl
  · rename_i wanted
    obtain ⟨generation, level⟩ := not_or.mp wanted
    exact .inr ⟨not_not.mp generation, not_not.mp level, rfl⟩

/-- Unless it starts a load, an action leaves the request and its progress alone. -/
theorem Does.keeps_or_loads {outcome : SecretPicker × Effects} (done : picker.Does outcome) :
    (outcome.2.spawned = [] ∧ outcome.1.generation = picker.generation ∧
        outcome.1.request = picker.request ∧ outcome.1.level = picker.level ∧
        outcome.1.loadState = picker.loadState ∧ outcome.1.rows = picker.rows) ∨
      ∃ request, picker.Opens request ∧ outcome = picker.load request := by
  cases done with
  | opens allowed => exact .inr ⟨_, allowed, rfl⟩
  | nothing => exact .inl ⟨rfl, rfl, rfl, rfl, rfl, rfl⟩
  | filters _ => exact .inl ⟨rfl, rfl, rfl, rfl, rfl, rfl⟩
  | selects _ => exact .inl ⟨rfl, rfl, rfl, rfl, rfl, rfl⟩
  | confirms _ _ => exact .inl ⟨rfl, rfl, rfl, rfl, rfl, rfl⟩
  | cancels _ _ => exact .inl ⟨rfl, rfl, rfl, rfl, rfl, rfl⟩

/-- The fields of a picker agree with each other. -/
structure Consistent (picker : SecretPicker) : Prop where
  level : picker.level = picker.request.level
  filtered : picker.filteredRows = filteredRowIndices picker.rows picker.query
  selected : picker.selectedIx = none ↔ picker.filteredRows = []
  selected_lt : ∀ visibleIx, picker.selectedIx = some visibleIx →
    visibleIx < picker.filteredRows.length
  idle : picker.loadState ≠ .ready → picker.rows = []

namespace Consistent

theorem load (picker : SecretPicker) (request : LoadRequest) :
    (picker.load request).1.Consistent :=
  ⟨rfl, rfl, by simp [SecretPicker.load], by simp [SecretPicker.load], fun _ => rfl⟩

theorem rebuildFilter (level : picker.level = picker.request.level)
    (idle : picker.loadState ≠ .ready → picker.rows = []) : picker.rebuildFilter.Consistent := by
  refine ⟨level, rfl, ?_, ?_, idle⟩
  · simp [SecretPicker.rebuildFilter]
  · intro visibleIx selected
    simp only [SecretPicker.rebuildFilter, Option.ite_none_right_eq_some, Option.some.injEq] at selected
    obtain ⟨some, rfl⟩ := selected
    exact List.length_pos_iff.mpr some

theorem select (consistent : picker.Consistent) {visibleIx : Nat}
    (visible : visibleIx < picker.filteredRows.length) :
    Consistent { picker with selectedIx := some visibleIx } := by
  refine ⟨consistent.level, consistent.filtered, ?_, ?_, consistent.idle⟩
  · have some : picker.filteredRows ≠ [] := List.length_pos_iff.mp (Nat.zero_lt_of_lt visible)
    simp [some]
  · intro other selected
    obtain rfl := Option.some.inj selected
    exact visible

theorem finish (level : picker.level = picker.request.level)
    (result : ProviderResult (List Row)) : (picker.finish result).Consistent := by
  cases result with
  | ok rows =>
      have refiltered : Consistent (SecretPicker.rebuildFilter
          { picker with rows, loadState := .ready }) :=
        rebuildFilter level fun notReady => absurd rfl notReady
      exact refiltered
  | error error =>
      exact ⟨level, rfl, by simp [SecretPicker.finish], by simp [SecretPicker.finish], fun _ => rfl⟩

/-- Whatever an action does, the fields agree again. -/
theorem does {outcome : SecretPicker × Effects} (consistent : picker.Consistent)
    (done : picker.Does outcome) : outcome.1.Consistent := by
  cases done with
  | nothing => exact consistent
  | opens _ => exact load picker _
  | filters query => exact rebuildFilter consistent.level consistent.idle
  | selects visible => exact consistent.select visible
  | confirms _ visible => exact consistent.select (lt_of_visibleRow visible)
  | cancels _ _ => exact consistent

theorem complete (consistent : picker.Consistent) (load : Load)
    (result : ProviderResult (List Row)) : (picker.complete load result).Consistent := by
  obtain eq | ⟨_, _, eq⟩ := picker.complete_cases load result
  · rw [eq]
    exact consistent
  · rw [eq]
    exact finish consistent.level result

theorem run {inputs : List Input} (consistent : picker.Consistent)
    (run : Run SecretPicker.step picker inputs after) : after.Consistent := by
  apply run.invariant ?_ consistent
  intro before input next kept h
  obtain rfl := Option.some.inj h
  cases input with
  | act action => exact kept.does (before.does_perform action)
  | click visibleIx => exact kept.does (before.does_click visibleIx)
  | complete load result => exact kept.complete load result

/-- Every visible position has a row. -/
theorem visibleRow_isSome (consistent : picker.Consistent) {visibleIx : Nat}
    (visible : visibleIx < picker.filteredRows.length) : (picker.visibleRow visibleIx).isSome := by
  obtain ⟨sourceIx, found⟩ : ∃ sourceIx, picker.filteredRows[visibleIx]? = some sourceIx :=
    ⟨_, List.getElem?_eq_getElem visible⟩
  have member := List.mem_of_getElem? found
  rw [consistent.filtered] at member
  have bound := lt_of_mem_filteredRowIndices member
  simp [visibleRow, found, bound]

theorem selectedRow_isSome_iff (consistent : picker.Consistent) :
    picker.selectedRow.isSome ↔ picker.filteredRows ≠ [] := by
  cases selected : picker.selectedIx with
  | none => simp [selectedRow, selected, consistent.selected.mp selected]
  | some visibleIx =>
      have visible := consistent.selected_lt visibleIx selected
      have shown := consistent.visibleRow_isSome visible
      have some : picker.filteredRows ≠ [] := List.length_pos_iff.mp (Nat.zero_lt_of_lt visible)
      simp [selectedRow, selected, shown, some]

end Consistent

end SecretPicker

/-- The text a keystroke types into the query, if it is not ignored. -/
def KeyDownEvent.typed (event : KeyDownEvent) : Option String :=
  if event.control || event.platform then none
  else event.keyChar.filter fun text => !text.toList.any Rust.isControl

/-- The text several keystrokes type. -/
def typedText : List KeyDownEvent → String
  | [] => ""
  | key :: keys => key.typed.getD "" ++ typedText keys

namespace SecretPicker

variable [Rust.UnicodeTables] {picker after : SecretPicker}

theorem onKeyDown_eq (picker : SecretPicker) (event : KeyDownEvent) :
    (picker.onKeyDown event).1 = match event.typed with
      | some text => rebuildFilter { picker with query := picker.query ++ text }
      | none => picker := by
  simp only [onKeyDown, KeyDownEvent.typed]
  split
  · rfl
  · cases event.keyChar with
    | none => rfl
    | some text =>
        cases controls : text.toList.any Rust.isControl <;> simp [Option.filter, controls]

/-- Typing adds to the query, whatever the load is doing. -/
theorem run_typed {keys : List KeyDownEvent}
    (run : Run step picker (keys.map fun key => .act (.keyDown key)) after) :
    after.query = picker.query ++ typedText keys ∧ after.generation = picker.generation ∧
      after.request = picker.request := by
  induction keys generalizing picker with
  | nil =>
      obtain rfl := Run.nil_iff.mp run
      simp [typedText]
  | cons key keys ih =>
      obtain ⟨middle, first, rest⟩ := Run.cons_iff.mp run
      obtain rfl := Option.some.inj first
      obtain ⟨query, generation, request⟩ := ih rest
      rw [query, generation, request]
      simp only [respond, perform, onKeyDown_eq, typedText]
      cases key.typed with
      | none => simp
      | some text => simp [rebuildFilter, String.append_assoc]

/-- The representation invariant. In every state a picker can reach, its fields agree,
so that every visible position can be painted and a row is selected whenever one is
visible; and text typed while a load is pending is applied to the rows when it ends. -/
theorem picker_consistent {inputs : List Input} (run : Run step withTheme.1 inputs picker) :
    picker.Consistent ∧
    (picker.filteredRows.Pairwise (· < ·) ∧ ∀ ix ∈ picker.filteredRows, ix < picker.rows.length) ∧
    (picker.selectedRow.isSome ↔ picker.filteredRows ≠ []) ∧
    (∀ visibleIx < picker.filteredRows.length, (picker.renderRow visibleIx).isSome) ∧
    ∀ keys typed load rows, Run step picker (keys.map fun key => .act (.keyDown key)) typed →
      load.generation = picker.generation → load.request.level = picker.request.level →
      (typed.complete load (.ok rows)).rows = rows ∧
      (typed.complete load (.ok rows)).filteredRows =
        filteredRowIndices rows (picker.query ++ typedText keys) := by
  have consistent : picker.Consistent := (Consistent.load _ _).run run
  refine ⟨consistent, ⟨?_, ?_⟩, consistent.selectedRow_isSome_iff, ?_, ?_⟩
  · rw [consistent.filtered]
    exact filteredRowIndices_increasing _ _
  · rw [consistent.filtered]
    exact fun ix => lt_of_mem_filteredRowIndices
  · intro visibleIx visible
    rw [renderRow, Option.isSome_map]
    exact consistent.visibleRow_isSome visible
  · intro keys typed load rows typing generation level
    obtain ⟨query, sameGeneration, sameRequest⟩ := run_typed typing
    have wanted : typed.complete load (.ok rows) = typed.finish (.ok rows) := by
      simp [complete, sameGeneration, sameRequest, generation, level]
    rw [wanted, ← query]
    exact ⟨rfl, rfl⟩

end SecretPicker

section Reached

local instance searchTables : Rust.UnicodeTables := .ascii

/-- A picker whose first load found one vault, after a search for it. -/
def searchedPicker : SecretPicker :=
  ((SecretPicker.withTheme.1.complete ⟨1, .vaults⟩
    (.ok [.vault (.new "a" "Alpha")])).onKeyDown ⟨false, false, some "AL"⟩).1

theorem picker_consistent_searched :
    searchedPicker.Consistent ∧ (searchedPicker.selectedRow.isSome ↔ searchedPicker.filteredRows ≠ []) := by
  have reached : Run SecretPicker.step SecretPicker.withTheme.1
      [.complete ⟨1, .vaults⟩ (.ok [.vault (.new "a" "Alpha")]),
        .act (.keyDown ⟨false, false, some "AL"⟩)] searchedPicker :=
    .cons rfl (.single rfl)
  have sound := SecretPicker.picker_consistent reached
  exact ⟨sound.1, sound.2.2.1⟩

example : searchedPicker.filteredRows = [0] := by decide

end Reached

end Picker
