import OpGpui.Picker.State

/-!
# What a frame shows

The body of a picker as it is painted from one state. A painted row keeps what its
element was given, the position its click listener captured included. The two
indexings of `renderRow` are unchecked in the source: `none` stands for their panic.
-/

namespace Picker

/-- One painted row. Nothing of the row itself is kept, only what was painted. -/
structure PaintedRow where
  elementId : String
  ariaLabel : String
  ariaSelected : Bool
  ariaPositionInSet : Nat
  ariaSizeOfSet : Nat
  title : String
  detail : Option String
  hasChildren : Bool
  /-- The position the click listener will activate. -/
  onClick : Nat
  deriving DecidableEq

/-- The body below the header. -/
inductive Body where
  | loading
  | error (message : String)
  | empty (text : String)
  | list (ariaLabel : String) (rows : List PaintedRow)
  deriving DecidableEq

namespace SecretPicker

def levelTitle (picker : SecretPicker) : String :=
  match picker.level with
  | .vaults => "Choose a vault"
  | .items _ _ => "Choose an item"
  | .fields _ _ _ _ => "Choose a field"

/-- The element of one row. -/
def paintRow (picker : SecretPicker) (visibleIx : Nat) (row : Row) : PaintedRow where
  elementId := row.stableElementId
  ariaLabel := if row.detail ≠ "" then row.title ++ ", " ++ row.detail else row.title
  ariaSelected := picker.selectedIx = some visibleIx
  ariaPositionInSet := visibleIx + 1
  ariaSizeOfSet := picker.filteredRows.length
  title := row.title
  detail := if row.detail ≠ "" then some row.detail else none
  hasChildren := row.hasChildren
  onClick := visibleIx

def renderRow (picker : SecretPicker) (visibleIx : Nat) : Option PaintedRow :=
  (picker.visibleRow visibleIx).map (picker.paintRow visibleIx)

/-- The visible rows from `first` on, `count` of them: the range the list asks for. -/
def renderRange (picker : SecretPicker) (first count : Nat) : Option (List PaintedRow) :=
  (List.range' first count).mapM picker.renderRow

def renderBody (picker : SecretPicker) (first count : Nat) : Option Body :=
  match picker.loadState with
  | .loading => some .loading
  | .failed error => some (.error error.message)
  | .ready =>
      if picker.filteredRows = [] then
        some (.empty (if picker.query = "" then "No entries"
          else "No matches for “" ++ picker.query ++ "”"))
      else (picker.renderRange first count).map (.list picker.levelTitle)

end SecretPicker

/-- The rows of a painted body. -/
def Body.rows : Body → List PaintedRow
  | .list _ rows => rows
  | _ => []

end Picker
