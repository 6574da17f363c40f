import OpGpui.Library.Collect
import OpGpui.Picker.Provenance

/-!
# What a frame promises

A frame is a header, a body and the rows in it, all painted from one state. What it shows
is what the keys do in that state: the back button is there when going back leads
somewhere, Enter loads again under an error and does nothing where there is nothing to
choose, and otherwise it does what a click on the highlighted row does (`frames_truthful`).
-/

namespace Picker

open Sdk Machine

/-- The header above the body: whether it has a back button, and its texts. -/
structure Header where
  back : Bool
  breadcrumb : String
  title : String
  query : String
  deriving DecidableEq

namespace SecretPicker

def breadcrumb (picker : SecretPicker) : String :=
  match picker.level with
  | .vaults => "1Password"
  | .items _ vaultTitle => "1Password  /  " ++ vaultTitle
  | .fields _ vaultTitle _ itemTitle => "1Password  /  " ++ vaultTitle ++ "  /  " ++ itemTitle

def renderHeader (picker : SecretPicker) : Header where
  back := picker.level ≠ .vaults
  breadcrumb := picker.breadcrumb
  title := picker.levelTitle
  query := if picker.query = "" then "Type to filter…" else picker.query ++ "▏"

variable {picker : SecretPicker} {first count place : Nat} {body : Body} {painted : PaintedRow}

/-- Without a visible row, none is selected. -/
theorem selectedRow_of_empty (empty : picker.filteredRows = []) : picker.selectedRow = none := by
  cases selected : picker.selectedIx with
  | none => simp [selectedRow, selected]
  | some visibleIx => simp [selectedRow, selected, visibleRow, empty]

theorem activateSelected_of_no_row (notFailed : ∀ error, picker.loadState ≠ .failed error)
    (nothing : picker.selectedRow = none) : picker.activateSelected = (picker, .none) := by
  cases state : picker.loadState with
  | loading => simp only [activateSelected, state, nothing]
  | ready => simp only [activateSelected, state, nothing]
  | failed error => exact absurd state (notFailed error)

/-- A painted row was painted from the visible row at its position. -/
theorem painted_row (rendered : picker.renderBody first count = some body)
    (found : body.rows[place]? = some painted) :
    picker.loadState = .ready ∧ ∃ row, picker.visibleRow (first + place) = some row ∧
      painted = picker.paintRow (first + place) row := by
  simp only [renderBody] at rendered
  split at rendered
  · obtain rfl := Option.some.inj rendered
    cases found
  · obtain rfl := Option.some.inj rendered
    cases found
  · rename_i ready
    split at rendered
    · obtain rfl := Option.some.inj rendered
      cases found
    · obtain ⟨rows, range, rfl⟩ := Option.map_eq_some_iff.mp rendered
      change rows[place]? = some painted at found
      have pairs := Collect.forall₂_of_mapM_eq_some range
      obtain ⟨inside, rfl⟩ := List.getElem?_eq_some_iff.mp found
      have bound : place < (List.range' first count).length := by rwa [pairs.length_eq]
      have rendered := (List.forall₂_iff_get.mp pairs).2 place bound inside
      obtain ⟨row, visible, paints⟩ := Option.map_eq_some_iff.mp rendered
      have position : (List.range' first count).get ⟨place, bound⟩ = first + place := by simp
      rw [position] at visible paints
      exact ⟨ready, row, visible, paints.symm⟩

/-- A painted row is highlighted exactly if it is selected. -/
theorem painted_selected (rendered : picker.renderBody first count = some body)
    (found : body.rows[place]? = some painted) (highlighted : painted.ariaSelected = true) :
    picker.selectedIx = some (first + place) := by
  obtain ⟨_, row, _, rfl⟩ := painted_row rendered found
  exact of_decide_eq_true highlighted

/-- Where there is nothing to choose, nothing has failed either. -/
theorem idle_of_body (consistent : picker.loadState ≠ .ready → picker.filteredRows = [])
    (rendered : picker.renderBody first count = some body)
    (nothing : body = .loading ∨ ∃ text, body = .empty text) :
    picker.activateSelected = (picker, .none) := by
  simp only [renderBody] at rendered
  split at rendered
  · rename_i loading
    refine activateSelected_of_no_row (by simp [loading]) (selectedRow_of_empty (consistent ?_))
    simp [loading]
  · obtain rfl := Option.some.inj rendered
    simp at nothing
  · rename_i ready
    split at rendered
    · rename_i empty
      exact activateSelected_of_no_row (by simp [ready]) (selectedRow_of_empty empty)
    · obtain ⟨rows, _, rfl⟩ := Option.map_eq_some_iff.mp rendered
      simp at nothing

theorem failed_of_body {message : String} (rendered : picker.renderBody first count = some (.error message)) :
    picker.activateSelected = picker.refresh := by
  simp only [renderBody] at rendered
  split at rendered
  · cases rendered
  · rename_i error failed
    simp only [activateSelected, failed]
  · split at rendered
    · cases rendered
    · obtain ⟨_, _, impossible⟩ := Option.map_eq_some_iff.mp rendered
      cases impossible

theorem renderHeader_back_iff (consistent : picker.level = picker.request.level) :
    picker.renderHeader.back = true ↔ picker.goBack.2.spawned ≠ [] := by
  simp only [renderHeader, consistent, goBack]
  cases picker.request <;> simp [LoadRequest.level, Effects.none, load, Effects.spawn]

theorem breadcrumb_goBack (consistent : picker.level = picker.request.level)
    (back : picker.renderHeader.back = true) :
    ∃ title, picker.breadcrumb = picker.goBack.1.breadcrumb ++ "  /  " ++ title := by
  cases at_request : picker.request with
  | vaults => simp [renderHeader, consistent, at_request, LoadRequest.level] at back
  | items vault =>
      refine ⟨vault.title, ?_⟩
      simp only [goBack, at_request, breadcrumb, consistent]
      simp only [load, LoadRequest.level]
      rw [show "1Password  /  " = "1Password" ++ "  /  " from rfl]
  | fields vault item =>
      refine ⟨item.title, ?_⟩
      simp only [goBack, at_request, breadcrumb, consistent]
      rfl

end SecretPicker

section Promises

variable [Rust.UnicodeTables]

/-- The frame says what the keys would do. -/
structure Truthful (s : System) (header : Header) (body : Body) : Prop where
  /-- The back button is there exactly when going back leads somewhere. -/
  back : header.back = true ↔ (s.picker.perform .goBack).2.spawned ≠ []
  /-- Going back takes the last title off the breadcrumb. -/
  breadcrumb : header.back = true → ∃ title,
    header.breadcrumb = (s.picker.perform .goBack).1.breadcrumb ++ "  /  " ++ title
  /-- Enter has nothing to choose before the rows are there, or if none is kept. -/
  idle : body = .loading ∨ (∃ text, body = .empty text) → s.step (.act .confirm) = some s
  /-- Under an error it loads again. -/
  retry : ∀ message, body = .error message → s.step (.act .confirm) = s.step (.act .retry)
  /-- Otherwise it does what a click on the highlighted row does. -/
  highlighted : ∀ (place : Nat) (painted : PaintedRow), s.frame[place]? = some painted →
    painted.ariaSelected = true → s.step (.act .confirm) = s.step (.click place)
  /-- One row at most is highlighted. -/
  once : ∀ (place other : Nat) (painted row : PaintedRow), s.frame[place]? = some painted →
    s.frame[other]? = some row → painted.ariaSelected = true → row.ariaSelected = true → place = other

namespace System

variable {s t : System} {first count : Nat} {body : Body}

omit [Rust.UnicodeTables] in
theorem apply_none (s : System) : s.apply (s.picker, .none) = s := by
  simp [apply, Effects.none]

/-- What any frame shows is what the keys do. -/
theorem frames_truthful {events : List Event} (run : Run step start events s)
    (paints : s.step (.paint first count) = some t) :
    ∃ body, s.picker.renderBody first count = some body ∧ t.frame = body.rows ∧
      Truthful t t.picker.renderHeader body := by
  have consistent := consistent_run run
  simp only [step, Option.ite_none_right_eq_some] at paints
  obtain ⟨inside, paints⟩ := paints
  obtain ⟨body, rendered, rfl⟩ := Option.map_eq_some_iff.mp paints
  refine ⟨body, rendered, rfl, SecretPicker.renderHeader_back_iff consistent.level,
    SecretPicker.breadcrumb_goBack consistent.level, ?_, ?_, ?_, ?_⟩
  · intro nothing
    have empty : s.picker.loadState ≠ .ready → s.picker.filteredRows = [] := by
      intro notReady
      rw [consistent.filtered, consistent.idle notReady]
      rfl
    simp only [step, SecretPicker.perform, SecretPicker.idle_of_body empty rendered nothing]
    exact congrArg some (apply_none { s with frame := body.rows })
  · rintro message rfl
    simp only [step, SecretPicker.perform, SecretPicker.failed_of_body rendered]
  · intro place painted found highlighted
    have selected := SecretPicker.painted_selected rendered found highlighted
    obtain ⟨ready, row, visible, rfl⟩ := SecretPicker.painted_row rendered found
    have same : ({ s.picker with selectedIx := some (first + place) } : SecretPicker) = s.picker := by
      rw [← selected]
    have shown : s.picker.selectedRow = some row := by
      rw [SecretPicker.selectedRow, selected]
      exact visible
    have clicks : s.picker.activateVisibleIx (first + place) = s.picker.activateRow row := by
      rw [SecretPicker.activateVisibleIx_of_row ready visible, same]
    simp only [step, SecretPicker.perform, found, Option.map_some, SecretPicker.paintRow, clicks]
    rw [SecretPicker.activateSelected_of_row ready shown]
  · intro place other painted row found found' highlighted highlighted'
    have first := SecretPicker.painted_selected rendered found highlighted
    have second := SecretPicker.painted_selected rendered found' highlighted'
    have same := Option.some.inj (first.symm.trans second)
    omega

end System

end Promises

section Looking

local instance lookingTables : Rust.UnicodeTables := .ascii

/-- The only vault is painted highlighted, and Enter opens it as a click does. -/
theorem frames_truthful_looking : ∃ s t painted,
    Run System.step System.start [.answer 1 onePin, .complete 1] s ∧
    s.step (.paint 0 1) = some t ∧ t.frame = [painted] ∧ painted.title = "Vault" ∧
    t.step (.act .confirm) = t.step (.click 0) := by
  have reached : ∃ s, Run System.step System.start [.answer 1 onePin, .complete 1] s ∧
      ∃ t, s.step (.paint 0 1) = some t ∧ ∃ painted, t.frame = [painted] ∧
        painted.title = "Vault" ∧ painted.ariaSelected = true :=
    ⟨_, .cons rfl (.cons rfl (.nil _)), _, rfl, _, rfl, rfl, rfl⟩
  obtain ⟨s, run, t, paints, painted, frame, titled, highlighted⟩ := reached
  obtain ⟨body, _, _, truthful⟩ := System.frames_truthful run paints
  have found : t.frame[0]? = some painted := by rw [frame]; rfl
  exact ⟨s, t, painted, run, paints, frame, titled, truthful.highlighted 0 painted found highlighted⟩

end Looking

end Picker
