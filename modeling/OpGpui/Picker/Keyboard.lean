import OpGpui.Library.Mealy
import OpGpui.Picker.Invariant

/-!
# What keys do in the long run

`after`, `emitted` and `spawned` follow a picker through any inputs, with everything it
says and starts on the way. Two results rest on what single keys do. Escape and
Backspace always lead out: each press takes one step towards the empty query at the
root, and completions of loads take none (`presses_lead_out`). And selecting a row with
the arrow keys and confirming it is the same as clicking it (`pointer_and_keyboard_agree`).
-/

namespace Picker

open Machine

namespace SecretPicker

variable [Rust.UnicodeTables] {picker : SecretPicker} {inputs : List Input}

/-- The picker after some inputs. -/
def after (picker : SecretPicker) (inputs : List Input) : SecretPicker :=
  Machine.after respond picker inputs

/-- The events some inputs make it emit. -/
def emitted (picker : SecretPicker) (inputs : List Input) : List SecretPickerEvent :=
  (outputs respond picker inputs).flatMap Effects.emitted

/-- The loads some inputs make it start. -/
def spawned (picker : SecretPicker) (inputs : List Input) : List Load :=
  (outputs respond picker inputs).flatMap Effects.spawned

section Following

variable {input : Input} {first rest : List Input}

@[simp] theorem after_nil : picker.after [] = picker := rfl

@[simp] theorem emitted_nil : picker.emitted [] = [] := rfl

@[simp] theorem spawned_nil : picker.spawned [] = [] := rfl

theorem after_cons : picker.after (input :: rest) = (picker.respond input).1.after rest := rfl

theorem emitted_cons : picker.emitted (input :: rest) =
    (picker.respond input).2.emitted ++ (picker.respond input).1.emitted rest := rfl

theorem spawned_cons : picker.spawned (input :: rest) =
    (picker.respond input).2.spawned ++ (picker.respond input).1.spawned rest := rfl

theorem after_append : picker.after (first ++ rest) = (picker.after first).after rest :=
  Machine.after_append

theorem emitted_append : picker.emitted (first ++ rest) =
    picker.emitted first ++ (picker.after first).emitted rest := by
  simp only [emitted, outputs_append, List.flatMap_append]
  rfl

theorem spawned_append : picker.spawned (first ++ rest) =
    picker.spawned first ++ (picker.after first).spawned rest := by
  simp only [spawned, outputs_append, List.flatMap_append]
  rfl

theorem run_iff {after : SecretPicker} : Run step picker inputs after ↔ picker.after inputs = after :=
  Machine.run_iff

end Following

end SecretPicker

/-- How far a level is from the root. -/
def PickerLevel.depth : PickerLevel → Nat
  | .vaults => 0
  | .items _ _ => 1
  | .fields _ _ _ _ => 2

/-- That many presses of one key, with completions of any loads in between. -/
inductive Presses (action : Action) : Nat → List Input → Prop
  | nil : Presses action 0 []
  | press {count : Nat} {inputs : List Input} (rest : Presses action count inputs) :
      Presses action (count + 1) (.act action :: inputs)
  | complete {count : Nat} {inputs : List Input} (load : Load) (result : ProviderResult (List Row))
      (rest : Presses action count inputs) : Presses action count (.complete load result :: inputs)

namespace SecretPicker

variable [Rust.UnicodeTables] {picker : SecretPicker} {inputs presses : List Input} {count : Nat}

/-- How many presses of Escape lead to the empty query at the root. -/
def escapes (picker : SecretPicker) : Nat :=
  (if picker.query = "" then 0 else 1) + picker.level.depth

/-- How many presses of Backspace lead there. -/
def erasures (picker : SecretPicker) : Nat := picker.query.length + picker.level.depth

/-- The end of a load moves the picker nowhere, and leaves its query alone. -/
theorem complete_keeps (picker : SecretPicker) (load : Load) (result : ProviderResult (List Row)) :
    (picker.complete load result).level = picker.level ∧
      (picker.complete load result).request = picker.request ∧
      (picker.complete load result).query = picker.query ∧
      (picker.complete load result).generation = picker.generation := by
  obtain eq | ⟨_, _, eq⟩ := picker.complete_cases load result
  · rw [eq]
    exact ⟨rfl, rfl, rfl, rfl⟩
  · rw [eq]
    cases result <;> exact ⟨rfl, rfl, rfl, rfl⟩

omit [Rust.UnicodeTables] in
theorem escapes_eq_zero_iff : picker.escapes = 0 ↔ picker.level = .vaults ∧ picker.query = "" := by
  by_cases empty : picker.query = "" <;> cases level : picker.level <;>
    simp [escapes, empty, level, PickerLevel.depth]

omit [Rust.UnicodeTables] in
theorem erasures_eq_zero_iff : picker.erasures = 0 ↔ picker.level = .vaults ∧ picker.query = "" := by
  cases level : picker.level <;> simp [erasures, level, PickerLevel.depth]

omit [Rust.UnicodeTables] in
/-- Going back from below the root leads one level up, and says nothing. -/
theorem goBack_depth (consistent : picker.level = picker.request.level)
    (below : picker.level ≠ .vaults) :
    picker.goBack.2.emitted = [] ∧ picker.goBack.1.query = "" ∧
      picker.goBack.1.level.depth + 1 = picker.level.depth := by
  cases at_request : picker.request with
  | vaults => exact absurd (by rw [consistent, at_request]; rfl) below
  | items vault =>
      simp only [goBack, at_request, consistent]
      exact ⟨rfl, rfl, rfl⟩
  | fields vault item =>
      simp only [goBack, at_request, consistent]
      exact ⟨rfl, rfl, rfl⟩

omit [Rust.UnicodeTables] in
theorem request_eq_vaults_iff (consistent : picker.level = picker.request.level) :
    picker.request = .vaults ↔ picker.level = .vaults := by
  rw [consistent]
  cases picker.request <;> simp [LoadRequest.level]

/-- One press of Escape below the root takes one step, in silence. -/
theorem cancel_below (consistent : picker.level = picker.request.level) (below : picker.escapes ≠ 0) :
    picker.cancel.2.emitted = [] ∧ picker.cancel.1.escapes + 1 = picker.escapes := by
  by_cases empty : picker.query = ""
  · have inside : picker.level ≠ .vaults :=
      fun root => below (escapes_eq_zero_iff.mpr ⟨root, empty⟩)
    have going : picker.cancel = picker.goBack := by
      rw [cancel, if_neg (not_not.mpr empty),
        if_pos fun root => inside ((request_eq_vaults_iff consistent).mp root)]
    obtain ⟨silent, cleared, depth⟩ := goBack_depth consistent inside
    rw [going]
    refine ⟨silent, ?_⟩
    simp only [escapes, cleared, empty, if_true]
    omega
  · have clearing : picker.cancel = (rebuildFilter { picker with query := "" }, .none) := if_pos empty
    rw [clearing]
    refine ⟨rfl, ?_⟩
    simp only [escapes, rebuildFilter, empty, if_true, if_false]
    omega

/-- At the root Escape asks the host to cancel, and does nothing else. -/
theorem cancel_root (consistent : picker.level = picker.request.level) (root : picker.escapes = 0) :
    picker.cancel = (picker, .emit .cancelRequested) := by
  obtain ⟨level, empty⟩ := escapes_eq_zero_iff.mp root
  have request := (request_eq_vaults_iff consistent).mpr level
  rw [cancel, if_neg (not_not.mpr empty), if_neg (not_not.mpr request)]

/-- One press of Backspace below the root takes one step, in silence. -/
theorem eraseQueryCharacter_below (consistent : picker.level = picker.request.level)
    (below : picker.erasures ≠ 0) :
    picker.eraseQueryCharacter.2.emitted = [] ∧
      picker.eraseQueryCharacter.1.erasures + 1 = picker.erasures := by
  by_cases empty : picker.query = ""
  · have inside : picker.level ≠ .vaults :=
      fun root => below (erasures_eq_zero_iff.mpr ⟨root, empty⟩)
    have going : picker.eraseQueryCharacter = picker.goBack := by
      simp [eraseQueryCharacter, Rust.pop, empty]
    obtain ⟨silent, cleared, depth⟩ := goBack_depth consistent inside
    rw [going]
    refine ⟨silent, ?_⟩
    simp only [erasures, cleared, empty]
    omega
  · have some : picker.query.toList ≠ [] := fun none => empty (String.toList_inj.mp none)
    have popped : picker.eraseQueryCharacter =
        (rebuildFilter { picker with query := String.ofList picker.query.toList.dropLast }, .none) := by
      simp [eraseQueryCharacter, Rust.pop, some]
    have positive : 0 < picker.query.toList.length := List.length_pos_iff.mpr some
    have shorter : (String.ofList picker.query.toList.dropLast).length + 1 = picker.query.length := by
      rw [String.length_ofList, List.length_dropLast, ← String.length_toList]
      omega
    rw [popped]
    refine ⟨rfl, ?_⟩
    simp only [erasures, rebuildFilter]
    omega

/-- At the root Backspace does nothing. -/
theorem eraseQueryCharacter_root (consistent : picker.level = picker.request.level)
    (root : picker.erasures = 0) : picker.eraseQueryCharacter = (picker, .none) := by
  obtain ⟨level, empty⟩ := erasures_eq_zero_iff.mp root
  have request := (request_eq_vaults_iff consistent).mpr level
  simp [eraseQueryCharacter, Rust.pop, empty, goBack, request]

/-- Presses of one key, each of which is one step of a countdown while that lasts. -/
theorem countdown (action : Action) (remaining : SecretPicker → Nat)
    (farewell : List SecretPickerEvent) (consistent : picker.Consistent)
    (complete : ∀ picker load result, remaining (complete picker load result) = remaining picker)
    (below : ∀ picker, Consistent picker → remaining picker ≠ 0 →
      (picker.perform action).2.emitted = [] ∧
        remaining (picker.perform action).1 + 1 = remaining picker)
    (root : ∀ picker, Consistent picker → remaining picker = 0 →
      (picker.perform action).2.emitted = farewell ∧ (picker.perform action).1 = picker)
    (pressed : Presses action count presses) :
    picker.emitted presses = (List.replicate (count - remaining picker) farewell).flatten ∧
      remaining (picker.after presses) = remaining picker - count := by
  induction pressed generalizing picker with
  | nil => simp
  | press _ ih =>
      have kept : (picker.respond (.act action)).1.Consistent :=
        consistent.does (picker.does_perform action)
      obtain ⟨emitted, rest⟩ := ih kept
      rw [after_cons, emitted_cons, emitted, rest]
      by_cases ended : remaining picker = 0
      · obtain ⟨said, same⟩ := root picker consistent ended
        simp only [respond, said, same, ended]
        exact ⟨by simp [List.replicate_succ], by omega⟩
      · obtain ⟨silent, step⟩ := below picker consistent ended
        simp only [respond, silent, List.nil_append]
        rw [← step, Nat.add_sub_add_right, Nat.add_sub_add_right]
        exact ⟨rfl, rfl⟩
  | complete load result _ ih =>
      obtain ⟨emitted, rest⟩ := ih (consistent.complete load result)
      rw [after_cons, emitted_cons]
      simp only [respond]
      rw [emitted, rest, complete]
      exact ⟨rfl, rfl⟩

theorem Consistent.after (consistent : picker.Consistent) (inputs : List Input) :
    (picker.after inputs).Consistent :=
  consistent.run (run_iff.mpr rfl)

/-- Escape and Backspace always lead out. From every state a picker can reach, with any
completions in between, as many presses of Escape as there are levels above and a query
to clear say nothing and end at the root, where every further one asks the host to
cancel; and Backspace ends there after one press for each character and level, and
never says anything. -/
theorem presses_lead_out (run : Run step withTheme.1 inputs picker) :
    (∀ count presses, Presses .cancel count presses →
      picker.emitted presses = List.replicate (count - picker.escapes) .cancelRequested ∧
      (picker.escapes ≤ count → (picker.after presses).level = .vaults ∧
        (picker.after presses).query = "" ∧
        (picker.after presses).perform .cancel =
          (picker.after presses, .emit .cancelRequested))) ∧
    ∀ count presses, Presses .eraseQueryCharacter count presses →
      picker.emitted presses = [] ∧
      (picker.erasures ≤ count → (picker.after presses).level = .vaults ∧
        (picker.after presses).query = "" ∧
        (picker.after presses).perform .eraseQueryCharacter = (picker.after presses, .none)) := by
  have consistent : picker.Consistent := (Consistent.load _ _).run run
  constructor
  · intro count presses pressed
    obtain ⟨emitted, left⟩ := countdown .cancel escapes [.cancelRequested] consistent
      (fun picker load result => by
        obtain ⟨level, _, query, _⟩ := picker.complete_keeps load result
        rw [escapes, level, query, escapes])
      (fun _ consistent below => cancel_below consistent.level below)
      (fun _ consistent root => by simp [perform, cancel_root consistent.level root, Effects.emit])
      pressed
    refine ⟨by simpa using emitted, ?_⟩
    intro enough
    have ended : (picker.after presses).escapes = 0 := by omega
    obtain ⟨level, query⟩ := escapes_eq_zero_iff.mp ended
    exact ⟨level, query, cancel_root (consistent.after presses).level ended⟩
  · intro count presses pressed
    obtain ⟨emitted, left⟩ := countdown .eraseQueryCharacter erasures [] consistent
      (fun picker load result => by
        obtain ⟨level, _, query, _⟩ := picker.complete_keeps load result
        rw [erasures, level, query, erasures])
      (fun _ consistent below => eraseQueryCharacter_below consistent.level below)
      (fun _ consistent root => by
        simp [perform, eraseQueryCharacter_root consistent.level root, Effects.none])
      pressed
    refine ⟨by simpa using emitted, ?_⟩
    intro enough
    have ended : (picker.after presses).erasures = 0 := by omega
    obtain ⟨level, query⟩ := erasures_eq_zero_iff.mp ended
    exact ⟨level, query, eraseQueryCharacter_root (consistent.after presses).level ended⟩

end SecretPicker

section Leaving

local instance leavingTables : Rust.UnicodeTables := .ascii

/-- The end of the first load, with two vaults. -/
def vaultsListed : Input :=
  .complete ⟨1, .vaults⟩ (.ok [.vault (.new "a" "Alpha"), .vault (.new "b" "Beta")])

/-- A vault is opened, and a letter typed before its items arrive. -/
def typeAhead : List Input := [vaultsListed, .act .confirm, .act (.keyDown ⟨false, false, some "x"⟩)]

/-- Two presses of Escape lead out of there, and the third one cancels. -/
theorem presses_lead_out_items :
    (SecretPicker.withTheme.1.after typeAhead).emitted
      [.act .cancel, vaultsListed, .act .cancel, vaultsListed, .act .cancel] = [.cancelRequested] := by
  have pressed : Presses .cancel 3 [.act .cancel, vaultsListed, .act .cancel, vaultsListed, .act .cancel] :=
    .press (.complete _ _ (.press (.complete _ _ (.press .nil))))
  have reached : Run SecretPicker.step SecretPicker.withTheme.1 typeAhead
      (SecretPicker.withTheme.1.after typeAhead) := SecretPicker.run_iff.mpr rfl
  exact ((SecretPicker.presses_lead_out reached).1 3 _ pressed).1.trans (by decide)

end Leaving

/-- A move of the selection by an arrow key. -/
inductive Move where
  | previous
  | next

def Move.input : Move → Input
  | .previous => .act .selectPrevious
  | .next => .act .selectNext

def Move.delta : Move → Int
  | .previous => -1
  | .next => 1

/-- The integer walk of some moves, kept between `0` and `last` at every step. -/
def clampedWalk (last : Int) (position : Int) : List Move → Int
  | [] => position
  | move :: moves => clampedWalk last (max 0 (min last (position + move.delta))) moves

theorem clampedWalk_bounds {last position : Int} (low : 0 ≤ position) (high : position ≤ last)
    (moves : List Move) :
    0 ≤ clampedWalk last position moves ∧ clampedWalk last position moves ≤ last := by
  induction moves generalizing position with
  | nil => exact ⟨low, high⟩
  | cons move moves ih => exact ih (by omega) (by omega)

namespace SecretPicker

variable [Rust.UnicodeTables] {picker : SecretPicker} {inputs : List Input}

omit [Rust.UnicodeTables] in
/-- One move of a selection is one step of the walk. -/
theorem selectRelative_eq {position : Nat} (selected : picker.selectedIx = some position)
    (listed : picker.filteredRows ≠ []) (delta : Int) :
    picker.selectRelative delta = { picker with
      selectedIx := some
        (max 0 (min (picker.filteredRows.length - 1 : Int) (position + delta))).toNat } := by
  have positive : 0 < picker.filteredRows.length := List.length_pos_iff.mpr listed
  have next : (max 0 (min (picker.filteredRows.length - 1 : Int) (position + delta))).toNat =
      min (position + delta).toNat (picker.filteredRows.length - 1) := by omega
  rw [next]
  simp only [selectRelative, selected, Option.getD_some, if_neg (Nat.ne_of_gt positive)]
  split
  · rfl
  · rename_i same
    have still : min (position + delta).toNat (picker.filteredRows.length - 1) = position := by
      simpa using same
    rw [still, ← selected]

omit [Rust.UnicodeTables] in
theorem selectRelative_empty (empty : picker.filteredRows = []) (delta : Int) :
    picker.selectRelative delta = picker := by
  simp [selectRelative, empty]

/-- Arrow keys say nothing and start nothing. -/
theorem respond_move (picker : SecretPicker) (move : Move) :
    picker.respond move.input = (picker.selectRelative move.delta, .none) := by
  cases move <;> rfl

/-- Any moves of a selection are its walk. -/
theorem after_moves {position : Nat} (selected : picker.selectedIx = some position)
    (listed : picker.filteredRows ≠ []) (moves : List Move) :
    picker.after (moves.map Move.input) = { picker with
      selectedIx := some (clampedWalk (picker.filteredRows.length - 1) position moves).toNat } := by
  induction moves generalizing picker position with
  | nil =>
      simp only [List.map_nil, after_nil, clampedWalk, Int.toNat_natCast]
      rw [← selected]
  | cons move moves ih =>
      have low : (0 : Int) ≤
          max 0 (min (picker.filteredRows.length - 1 : Int) (position + move.delta)) := by omega
      have moved : (picker.respond move.input).1.selectedIx = some
          (max 0 (min (picker.filteredRows.length - 1 : Int) (position + move.delta))).toNat := by
        rw [respond_move, selectRelative_eq selected listed]
      rw [List.map_cons, after_cons]
      have rest := ih moved (by rwa [respond_move, selectRelative_eq selected listed])
      rw [Int.toNat_of_nonneg low] at rest
      rw [rest, respond_move, selectRelative_eq selected listed]
      rfl

theorem after_moves_empty (empty : picker.filteredRows = []) (moves : List Move) :
    picker.after (moves.map Move.input) = picker := by
  induction moves with
  | nil => rfl
  | cons move moves ih =>
      rw [List.map_cons, after_cons, respond_move, selectRelative_empty empty]
      exact ih

theorem emitted_moves (picker : SecretPicker) (moves : List Move) :
    picker.emitted (moves.map Move.input) = [] ∧ picker.spawned (moves.map Move.input) = [] := by
  induction moves generalizing picker with
  | nil => exact ⟨rfl, rfl⟩
  | cons move moves ih =>
      rw [List.map_cons, emitted_cons, spawned_cons, respond_move]
      exact ih _

omit [Rust.UnicodeTables] in
/-- Walking down from the top without reaching the end. -/
theorem clampedWalk_next {last : Int} (count : Nat) {position : Int} (low : 0 ≤ position)
    (high : position + count ≤ last) :
    clampedWalk last position (List.replicate count .next) = position + count := by
  induction count generalizing position with
  | zero => simp [clampedWalk]
  | succ count ih =>
      rw [List.replicate_succ, clampedWalk]
      have inside : max 0 (min last (position + Move.next.delta)) = position + 1 := by
        simp only [Move.delta]
        omega
      rw [inside, ih (by omega) (by omega)]
      omega

/-- The keys that select a visible row. -/
def selectingKeys (visibleIx : Nat) : List Input :=
  .act .selectFirst :: (List.replicate visibleIx Move.next).map Move.input

/-- Selecting a visible row with the keys only selects it, in silence. -/
theorem after_selectingKeys {visibleIx : Nat} (visible : visibleIx < picker.filteredRows.length) :
    picker.after (selectingKeys visibleIx) = { picker with selectedIx := some visibleIx } := by
  have listed : picker.filteredRows ≠ [] := List.length_pos_iff.mp (Nat.zero_lt_of_lt visible)
  have top : (picker.respond (.act .selectFirst)).1 = { picker with selectedIx := some 0 } := by
    simp [respond, perform, selectBoundary, listed]
  have walk : clampedWalk (picker.filteredRows.length - 1) ((0 : Nat) : Int)
      (List.replicate visibleIx .next) = visibleIx := by
    rw [clampedWalk_next visibleIx (by omega) (by omega)]
    simp
  have walked := @after_moves _ (picker.respond (.act .selectFirst)).1 0 (by rw [top]) (by rwa [top])
    (List.replicate visibleIx .next)
  rw [selectingKeys, after_cons, walked, top]
  simp only [walk, Int.toNat_natCast]

theorem emitted_selectingKeys (picker : SecretPicker) (visibleIx : Nat) :
    picker.emitted (selectingKeys visibleIx) = [] ∧ picker.spawned (selectingKeys visibleIx) = [] :=
  emitted_moves _ _

/-- Pointer and keyboard agree. In every state a picker can reach, a click on a visible
row does what selecting it from the top with the arrow keys and confirming it does; and
the arrow keys move any selection along the integer walk between the first and the last
visible row. -/
theorem pointer_and_keyboard_agree (run : Run step withTheme.1 inputs picker) :
    (∀ visibleIx < picker.filteredRows.length,
      let keys := selectingKeys visibleIx ++ [.act .confirm]
      picker.after keys = (picker.activateVisibleIx visibleIx).1 ∧
      picker.emitted keys = (picker.activateVisibleIx visibleIx).2.emitted ∧
      picker.spawned keys = (picker.activateVisibleIx visibleIx).2.spawned) ∧
    ∀ moves : List Move,
      picker.emitted (moves.map Move.input) = [] ∧ picker.spawned (moves.map Move.input) = [] ∧
      (picker.filteredRows = [] → picker.after (moves.map Move.input) = picker) ∧
      ∀ position, picker.selectedIx = some position →
        ∃ next < picker.filteredRows.length,
          (next : Int) = clampedWalk (picker.filteredRows.length - 1) position moves ∧
          picker.after (moves.map Move.input) = { picker with selectedIx := some next } := by
  have consistent : picker.Consistent := (Consistent.load _ _).run run
  constructor
  · intro visibleIx visible keys
    have inside : ¬ visibleIx ≥ picker.filteredRows.length := Nat.not_le_of_lt visible
    have click : picker.activateVisibleIx visibleIx =
        activateSelected { picker with selectedIx := some visibleIx } := if_neg inside
    obtain ⟨silent, idle⟩ := picker.emitted_selectingKeys visibleIx
    simp only [keys]
    rw [after_append, emitted_append, spawned_append, after_selectingKeys visible, silent, idle,
      click, after_cons, emitted_cons, spawned_cons]
    exact ⟨rfl, List.append_nil _, List.append_nil _⟩
  · intro moves
    obtain ⟨silent, idle⟩ := picker.emitted_moves moves
    refine ⟨silent, idle, fun empty => after_moves_empty empty moves, ?_⟩
    intro position selected
    have visible := consistent.selected_lt position selected
    have listed : picker.filteredRows ≠ [] := List.length_pos_iff.mp (Nat.zero_lt_of_lt visible)
    obtain ⟨low, high⟩ := @clampedWalk_bounds (picker.filteredRows.length - 1) position
      (by omega) (by omega) moves
    exact ⟨_, by omega, Int.toNat_of_nonneg low, after_moves selected listed moves⟩

end SecretPicker

section Selecting

local instance keyTables : Rust.UnicodeTables := .ascii

/-- The second of two vaults is opened with the keys as by a click, and the selection
stays on it at the end of the list. -/
theorem pointer_and_keyboard_agree_two :
    (SecretPicker.withTheme.1.after [vaultsListed]).after
        (SecretPicker.selectingKeys 1 ++ [.act .confirm]) =
      ((SecretPicker.withTheme.1.after [vaultsListed]).activateVisibleIx 1).1 ∧
    ((SecretPicker.withTheme.1.after [vaultsListed]).after
      ([.previous, .next, .next].map Move.input)).selectedIx = some 1 := by
  have reached : Run SecretPicker.step SecretPicker.withTheme.1 [vaultsListed]
      (SecretPicker.withTheme.1.after [vaultsListed]) := SecretPicker.run_iff.mpr rfl
  have agree := SecretPicker.pointer_and_keyboard_agree reached
  obtain ⟨next, _, walked, after⟩ :=
    (agree.2 [.previous, .next, .next]).2.2.2 0 (by decide)
  refine ⟨(agree.1 1 (by decide)).1, ?_⟩
  have last : (next : Int) = 1 := walked.trans (by decide)
  rw [after, Int.natCast_inj.mp last]

end Selecting

end Picker
