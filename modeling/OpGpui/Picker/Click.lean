import OpGpui.Picker.Provenance

/-!
# What a click activates

The click listener of a painted row captures a position, and the row that position
stands for may change before the click. Apart from a position past the end of the
list, nothing is checked. `clicks_right_iff` says for which clicks this is harmless:
those whose position still stands for a row of the same identity, or for no row.
-/

namespace Picker

open Sdk Machine

namespace System

variable {s t : System} {row other : Row}

/-- The system navigates nowhere and emits nothing. -/
structure Unaffected (s t : System) : Prop where
  level : t.picker.level = s.picker.level
  request : t.picker.request = s.picker.request
  loadState : t.picker.loadState = s.picker.loadState
  started : t.tasks.started = s.tasks.started
  emitted : t.emitted = s.emitted

/-- The row is opened, or its reference emitted. -/
inductive Activates (s t : System) : Row → Prop
  | vault {vault : Vault} (request : t.picker.request = .items vault)
      (started : t.tasks.started = s.tasks.started + 1) (emitted : t.emitted = s.emitted) :
      Activates s t (.vault vault)
  | item {vault : Vault} {item : Item} (at_items : s.picker.request = .items vault)
      (request : t.picker.request = .fields vault item)
      (started : t.tasks.started = s.tasks.started + 1) (emitted : t.emitted = s.emitted) :
      Activates s t (.item item)
  | field {field : Field} (request : t.picker.request = s.picker.request)
      (started : t.tasks.started = s.tasks.started)
      (emitted : t.emitted = s.emitted ++ [.selected field.reference]) :
      Activates s t (.field field)

/-- A step that activates a row activates no row of another identity. -/
theorem Activates.identity (first : Activates s t row) (second : Activates s t other) :
    row.stableElementId = other.stableElementId := by
  cases first with
  | vault request started _ =>
      cases second with
      | vault request' _ _ =>
          obtain rfl := LoadRequest.items.inj (request.symm.trans request')
          rfl
      | item _ request' _ _ => cases request.symm.trans request'
      | field _ started' _ => exact absurd (started.symm.trans started') (by omega)
  | item _ request started _ =>
      cases second with
      | vault request' _ _ => cases request.symm.trans request'
      | item _ request' _ _ =>
          obtain ⟨_, rfl⟩ := LoadRequest.fields.inj (request.symm.trans request')
          rfl
      | field _ started' _ => exact absurd (started.symm.trans started') (by omega)
  | field _ started emitted =>
      cases second with
      | vault _ started' _ => exact absurd (started'.symm.trans started) (by omega)
      | item _ _ started' _ => exact absurd (started'.symm.trans started) (by omega)
      | field _ _ emitted' =>
          have same := List.append_cancel_left (emitted.symm.trans emitted')
          have reference := SecretPickerEvent.selected.inj (List.cons.inj same).1
          rw [Row.stableElementId_field, Row.stableElementId_field, reference]

theorem Unaffected.not_activates (unaffected : Unaffected s t) : ¬ Activates s t row := by
  intro activates
  cases activates with
  | vault _ started _ => exact absurd (started.symm.trans unaffected.started) (by omega)
  | item _ _ started _ => exact absurd (started.symm.trans unaffected.started) (by omega)
  | field _ _ emitted =>
      have none := emitted.symm.trans unaffected.emitted
      simp at none

/-- The click did nothing, or it activated the row the frame showed. -/
def ClickRight (s t : System) (painted : PaintedRow) : Prop :=
  Unaffected s t ∨ ∃ row, Activates s t row ∧ row.stableElementId = painted.elementId

/-- The position the listener kept is past the end of the list now, or stands for a
row of the identity that was painted. -/
def Current (s : System) (painted : PaintedRow) : Prop :=
  s.picker.filteredRows.length ≤ painted.onClick ∨
    ∃ row, s.picker.visibleRow painted.onClick = some row ∧
      row.stableElementId = painted.elementId

/-- A painted row is current as long as the list has not changed. -/
theorem current_of_unchanged {picker : SecretPicker} {visibleIx : Nat} {painted : PaintedRow}
    (rendered : picker.renderRow visibleIx = some painted) (rows : s.picker.rows = picker.rows)
    (filtered : s.picker.filteredRows = picker.filteredRows) : s.Current painted := by
  obtain ⟨row, visible, rfl⟩ := Option.map_eq_some_iff.mp rendered
  refine .inr ⟨row, ?_, rfl⟩
  rw [← visible]
  simp only [SecretPicker.visibleRow, SecretPicker.paintRow, rows, filtered]

variable [Rust.UnicodeTables]

/-- A click on a position that has a row activates that row. -/
theorem click_activates {visibleIx : Nat} (consistent : s.picker.Consistent)
    (provenance : s.Provenance) (visible : s.picker.visibleRow visibleIx = some row) :
    Activates s (s.apply (s.picker.activateVisibleIx visibleIx)) row := by
  have listed := SecretPicker.mem_rows_of_visibleRow visible
  have ready : s.picker.loadState = .ready := by
    by_contra notReady
    rw [consistent.idle notReady] at listed
    cases listed
  rw [SecretPicker.activateVisibleIx_of_row ready visible]
  cases row with
  | vault vault => exact .vault rfl rfl (List.append_nil _)
  | item item =>
      obtain ⟨vault, request⟩ := provenance.item_row item listed
      simp only [SecretPicker.activateRow, request]
      exact .item request rfl rfl (List.append_nil _)
  | field field => exact .field rfl rfl rfl

/-- One click is right exactly when its row is current. -/
theorem click_right_iff {painted : PaintedRow} (consistent : s.picker.Consistent)
    (provenance : s.Provenance) :
    ClickRight s (s.apply (s.picker.activateVisibleIx painted.onClick)) painted ↔
      s.Current painted := by
  by_cases outside : s.picker.filteredRows.length ≤ painted.onClick
  · have nothing : s.picker.activateVisibleIx painted.onClick = (s.picker, .none) := if_pos outside
    rw [nothing]
    exact ⟨fun _ => .inl outside, fun _ => .inl ⟨rfl, rfl, rfl, rfl, List.append_nil _⟩⟩
  · obtain ⟨row, visible⟩ := Option.isSome_iff_exists.mp
      (consistent.visibleRow_isSome (Nat.lt_of_not_le outside))
    have activates := click_activates consistent provenance visible
    constructor
    · rintro (unaffected | ⟨other, activates', identity⟩)
      · exact absurd activates unaffected.not_activates
      · exact .inr ⟨row, visible, (activates.identity activates').trans identity⟩
    · rintro (past | ⟨other, visible', identity⟩)
      · exact absurd past outside
      · obtain rfl := Option.some.inj (visible.symm.trans visible')
        exact .inr ⟨row, activates, identity⟩

/-- A click in the course of some events: the states before and after it, and the
painted row it runs the listener of. -/
def Clicked (events : List Event) (s : System) (painted : PaintedRow) (t : System) : Prop :=
  ∃ front place back, events = front ++ .click place :: back ∧ Run step start front s ∧
    s.frame[place]? = some painted ∧ s.step (.click place) = some t

/-- A click activates the row that was on screen, in a run as a whole, exactly when
every clicked row is still current. -/
theorem clicks_right_iff (events : List Event) :
    (∀ s painted t, Clicked events s painted t → ClickRight s t painted) ↔
      ∀ s painted t, Clicked events s painted t → s.Current painted := by
  have each : ∀ s painted t, Clicked events s painted t →
      (ClickRight s t painted ↔ s.Current painted) := by
    rintro s painted t ⟨front, place, back, _, run, found, h⟩
    simp only [step, found, Option.map_some, Option.some.injEq] at h
    rw [← h]
    exact click_right_iff (consistent_run run) (provenance run)
  constructor
  · intro right s painted t clicked
    exact (each s painted t clicked).mp (right s painted t clicked)
  · intro current s painted t clicked
    exact (each s painted t clicked).mpr (current s painted t clicked)

end System

section Moved

local instance movedTables : Rust.UnicodeTables := .ascii

def userReference : SecretReference := ⟨"op://v/i/user", by decide⟩

/-- A provider of one item with two fields. -/
def twoFields : SecretProvider where
  vaults := .ok [.new "v" "Vault"]
  items vaultId := .ok [.new vaultId "i" "Item"]
  fields _ _ := .ok [.new "user" "User" userReference, .new "pin" "PIN" pinReference]

/-- Both fields are painted, and then a letter is typed that only the second contains. -/
def typeAfterPaint : List Event :=
  [.answer 1 twoFields, .complete 1, .act .confirm, .answer 2 twoFields, .complete 2, .act .confirm,
    .answer 3 twoFields, .complete 3, .paint 0 2, .act (.keyDown ⟨false, false, some "p"⟩)]

/-- The click on the first painted row then emits the reference of the second. -/
theorem click_moved :
    ∃ s t painted, System.Clicked (typeAfterPaint ++ [.click 0]) s painted t ∧
      painted.elementId = "op-picker:field:op://v/i/user" ∧
      t.emitted = [.selected pinReference] ∧ ¬ System.ClickRight s t painted := by
  have reached : ∃ s, Run System.step System.start typeAfterPaint s ∧ s.emitted = [] ∧
      ∃ painted, s.frame[0]? = some painted ∧
        painted.elementId = "op-picker:field:op://v/i/user" ∧
        ∃ t, s.step (.click 0) = some t ∧ t.emitted = [.selected pinReference] :=
    ⟨_, .cons rfl (.cons rfl (.cons rfl (.cons rfl (.cons rfl (.cons rfl (.cons rfl (.cons rfl
      (.cons rfl (.cons rfl (.nil _)))))))))), rfl, _, rfl, rfl, _, rfl, rfl⟩
  obtain ⟨s, run, quiet, painted, found, shown, t, clicked, emitted⟩ := reached
  refine ⟨s, t, painted, ⟨typeAfterPaint, 0, [], rfl, run, found, clicked⟩, shown, emitted, ?_⟩
  rintro (unaffected | ⟨row, activates, identity⟩)
  · have silent := unaffected.emitted
    rw [emitted, quiet] at silent
    cases silent
  · cases activates with
    | vault _ _ silent =>
        rw [emitted, quiet] at silent
        cases silent
    | item _ _ _ silent =>
        rw [emitted, quiet] at silent
        cases silent
    | field _ _ selected =>
        rw [emitted, quiet] at selected
        have reference := SecretPickerEvent.selected.inj (List.cons.inj selected).1
        rw [Row.stableElementId_field, ← reference, shown] at identity
        exact absurd identity (by decide)

end Moved

end Picker
