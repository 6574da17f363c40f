import OpGpui.Picker.Row

/-!
# The state of a picker and its operations

`SecretPicker` is the navigation state: where it is, what it asked for, what it
shows, and a generation that every load increments. Theme, focus and scroll position
are left out; nothing reads them. A call also acts on its context, which is the
second component of its result: the loads it spawns and the events it emits.
Requests to repaint are left out as well, since painting may happen at any time.

A load runs in the background and ends in `SecretPicker.complete`. What its closure
captured is a `Load`. Dropping the task of a superseded load would cancel it; the
guards of `complete` do not rely on that, and neither does this model.
-/

namespace Picker

open Sdk

/-- Semantic events for the embedding application. -/
inductive SecretPickerEvent where
  /-- The user confirmed a field's stable reference. -/
  | selected (reference : SecretReference)
  /-- Escape was pressed at the root with an empty query. -/
  | cancelRequested
  deriving DecidableEq

inductive LoadState where
  | loading
  | ready
  | failed (error : ProviderError)
  deriving DecidableEq

structure SecretPicker where
  level : PickerLevel
  request : LoadRequest
  loadState : LoadState
  rows : List Row
  filteredRows : List Nat
  selectedIx : Option Nat
  query : String
  generation : UInt64
  deriving DecidableEq

/-- What the closure of a spawned load captured. -/
structure Load where
  generation : UInt64
  request : LoadRequest
  deriving DecidableEq

/-- What a call does through its context. -/
structure Effects where
  spawned : List Load
  emitted : List SecretPickerEvent
  deriving DecidableEq

namespace Effects

def none : Effects := ⟨[], []⟩

def spawn (load : Load) : Effects := ⟨[load], []⟩

def emit (event : SecretPickerEvent) : Effects := ⟨[], [event]⟩

end Effects

/-- A keystroke: the two modifiers the picker looks at, and the text it types. -/
structure KeyDownEvent where
  control : Bool
  platform : Bool
  keyChar : Option String

namespace SecretPicker

def load (picker : SecretPicker) (request : LoadRequest) : SecretPicker × Effects :=
  let generation := picker.generation + 1
  ({ level := request.level
     request
     loadState := .loading
     rows := []
     filteredRows := []
     selectedIx := none
     query := ""
     generation },
    .spawn ⟨generation, request⟩)

/-- Creates a picker and loads its vault list. -/
def withTheme : SecretPicker × Effects :=
  load {
    level := .vaults
    request := .vaults
    loadState := .loading
    rows := []
    filteredRows := []
    selectedIx := none
    query := ""
    generation := 0 } .vaults

/-- Reloads the current navigation level. -/
def refresh (picker : SecretPicker) : SecretPicker × Effects := picker.load picker.request

def selectRelative (picker : SecretPicker) (delta : Int) : SecretPicker :=
  let count := picker.filteredRows.length
  if count = 0 then picker
  else
    let current := picker.selectedIx.getD 0
    let next := min (current + delta).toNat (count - 1)
    if next ≠ current ∨ picker.selectedIx = none then { picker with selectedIx := some next }
    else picker

def selectBoundary (picker : SecretPicker) (last : Bool) : SecretPicker :=
  if picker.filteredRows = [] then picker
  else { picker with selectedIx := some (if last then picker.filteredRows.length - 1 else 0) }

/-- The row a visible position stands for. -/
def visibleRow (picker : SecretPicker) (visibleIx : Nat) : Option Row :=
  picker.filteredRows[visibleIx]?.bind fun sourceIx => picker.rows[sourceIx]?

def selectedRow (picker : SecretPicker) : Option Row := picker.selectedIx.bind picker.visibleRow

def activateSelected (picker : SecretPicker) : SecretPicker × Effects :=
  match picker.loadState with
  | .failed _ => picker.refresh
  | _ =>
      match picker.selectedRow with
      | none => (picker, .none)
      | some (.vault vault) => picker.load (.items vault)
      | some (.item item) =>
          match picker.request with
          | .items vault => picker.load (.fields vault item)
          | _ => (picker, .none)
      | some (.field field) => (picker, .emit (.selected field.reference))

def activateVisibleIx (picker : SecretPicker) (visibleIx : Nat) : SecretPicker × Effects :=
  if visibleIx ≥ picker.filteredRows.length then (picker, .none)
  else activateSelected { picker with selectedIx := some visibleIx }

def goBack (picker : SecretPicker) : SecretPicker × Effects :=
  match picker.request with
  | .vaults => (picker, .none)
  | .items _ => picker.load .vaults
  | .fields vault _ => picker.load (.items vault)

section Filter

variable [Rust.UnicodeTables]

def rebuildFilter (picker : SecretPicker) : SecretPicker :=
  let filteredRows := filteredRowIndices picker.rows picker.query
  { picker with filteredRows, selectedIx := if filteredRows ≠ [] then some 0 else none }

/-- The end of a load that is still wanted. -/
def finish (picker : SecretPicker) (result : ProviderResult (List Row)) : SecretPicker :=
  match result with
  | .ok rows => rebuildFilter { picker with rows, loadState := .ready }
  | .error error =>
      { picker with rows := [], filteredRows := [], selectedIx := none, loadState := .failed error }

/-- The end of a load: its result counts only if both guards recognize the load. -/
def complete (picker : SecretPicker) (load : Load) (result : ProviderResult (List Row)) :
    SecretPicker :=
  if picker.generation ≠ load.generation ∨ picker.request.level ≠ load.request.level then picker
  else picker.finish result

def cancel (picker : SecretPicker) : SecretPicker × Effects :=
  if picker.query ≠ "" then (rebuildFilter { picker with query := "" }, .none)
  else if picker.request ≠ .vaults then picker.goBack
  else (picker, .emit .cancelRequested)

def eraseQueryCharacter (picker : SecretPicker) : SecretPicker × Effects :=
  match Rust.pop picker.query with
  | some query => (rebuildFilter { picker with query }, .none)
  | none => picker.goBack

def onKeyDown (picker : SecretPicker) (event : KeyDownEvent) : SecretPicker × Effects :=
  if event.control || event.platform then (picker, .none)
  else
    match event.keyChar with
    | none => (picker, .none)
    | some text =>
        if text.toList.any Rust.isControl then (picker, .none)
        else (rebuildFilter { picker with query := picker.query ++ text }, .none)

/-- Typing emits nothing and loads nothing. -/
theorem onKeyDown_silent (picker : SecretPicker) (event : KeyDownEvent) :
    (picker.onKeyDown event).2 = .none := by
  simp only [onKeyDown]
  split
  · rfl
  · split
    · rfl
    · split <;> rfl

end Filter

end SecretPicker

/-- What the user can do apart from clicking a row. -/
inductive Action where
  | selectPrevious
  | selectNext
  | selectFirst
  | selectLast
  | confirm
  | cancel
  | goBack
  | eraseQueryCharacter
  | retry
  | keyDown (event : KeyDownEvent)

/-- The handler of each action. -/
def SecretPicker.perform [Rust.UnicodeTables] (picker : SecretPicker) :
    Action → SecretPicker × Effects
  | .selectPrevious => (picker.selectRelative (-1), .none)
  | .selectNext => (picker.selectRelative 1, .none)
  | .selectFirst => (picker.selectBoundary false, .none)
  | .selectLast => (picker.selectBoundary true, .none)
  | .confirm => picker.activateSelected
  | .cancel => picker.cancel
  | .goBack => picker.goBack
  | .eraseQueryCharacter => picker.eraseQueryCharacter
  | .retry => picker.refresh
  | .keyDown event => picker.onKeyDown event

end Picker
