import OpGpui.Library.Browser
import OpGpui.Picker.Frame
import OpGpui.Picker.Latest

/-!
# A picker is a browser

Over a provider that answers alike at every moment, a picker is a browser of the tree the
provider lists: vaults, their items, and the fields that are the outcomes. `catalogue` is
that tree and `browse` the browser with the picker's keys. In every order of events a
`System` shows what the browser does when it is given the same keys and clicks in the same
order and its listing arrives with the delivery of the latest load (`picker_browses`). The
rows the browser shows are the rows themselves; indices and generations are gone, and the
delivery of a superseded load is nothing to it.
-/

namespace Picker

open Sdk Machine Browsing

section Reading

variable [Rust.UnicodeTables]

/-- The tree a provider lists. -/
def catalogue (provider : SecretProvider) :
    Tree LoadRequest Row SecretPickerEvent ProviderError String where
  root := .vaults
  parent
    | .vaults => none
    | .items _ => some .vaults
    | .fields vault _ => some (.items vault)
  listing request := request.run provider
  choose request row :=
    match row with
    | .vault vault => some (.inl (.items vault))
    | .item item =>
        match request with
        | .items vault => some (.inl (.fields vault item))
        | _ => none
    | .field field => some (.inr (.selected field.reference))
  exit := .cancelRequested
  blank := ""
  keeps query row := row.matchesQuery (Rust.toLowercase (Rust.trim query))

/-- A browser of what a provider lists. -/
abbrev Reader := Browser LoadRequest SecretPickerEvent String

/-- What a user does, and the arrival of a listing. -/
inductive Gesture where
  | act (action : Action)
  | click (place : Nat)
  | arrive

namespace Reader

variable (provider : SecretProvider) (reader : Reader)

/-- The selection moves, and stops at both ends. -/
def stride (delta : Int) : Option (Turn String) :=
  let count := (reader.visible (catalogue provider)).length
  if count = 0 then none
  else some (.select (min (reader.selected.getD 0 + delta).toNat (count - 1)))

def back : Option (Turn String) := if reader.node = .vaults then none else some .up

/-- What a key is to the reader. -/
def react : Action → Option (Turn String)
  | .selectPrevious => reader.stride provider (-1)
  | .selectNext => reader.stride provider 1
  | .selectFirst => if reader.visible (catalogue provider) = [] then none else some (.select 0)
  | .selectLast =>
      if reader.visible (catalogue provider) = [] then none
      else some (.select ((reader.visible (catalogue provider)).length - 1))
  | .confirm =>
      match reader.failure (catalogue provider) with
      | some _ => some .reload
      | none => reader.selected.map .choose
  | .cancel =>
      if reader.query ≠ "" then some (.search "")
      else if reader.node ≠ .vaults then some .up
      else some .exit
  | .goBack => reader.back
  | .eraseQueryCharacter =>
      match Rust.pop reader.query with
      | some query => some (.search query)
      | none => reader.back
  | .retry => some .reload
  | .keyDown event => event.typed.map fun text => .search (reader.query ++ text)

/-- The reader after a move, if it can make one. -/
def moved (move : Option (Turn String)) : Reader :=
  (move.bind (reader.step (catalogue provider))).getD reader

/-- A key or a click that comes to nothing leaves the reader where it is. A listing arrives
only if it has not. -/
def browse : Gesture → Option Reader
  | .act action => some (reader.moved provider (reader.react provider action))
  | .click place => some (reader.moved provider (some (.choose place)))
  | .arrive => reader.step (catalogue provider) .arrive

/-- The picker that shows a reader. -/
def screen (generation : UInt64) : SecretPicker where
  level := reader.node.level
  request := reader.node
  loadState :=
    match reader.arrived, reader.node.run provider with
    | false, _ => .loading
    | true, .ok _ => .ready
    | true, .error error => .failed error
  rows := reader.entries (catalogue provider)
  filteredRows := filteredRowIndices (reader.entries (catalogue provider)) reader.query
  selectedIx := reader.selected
  query := reader.query
  generation

end Reader

/-- The kept positions and the kept rows, side by side. -/
theorem filteredRowIndices_side_by_side (rows : List Row) (query : String) :
    ∃ kept : List (Row × Nat), (∀ entry ∈ kept, rows[entry.2]? = some entry.1) ∧
      filteredRowIndices rows query = kept.map Prod.snd ∧
      (rows.filter fun row => row.matchesQuery (Rust.toLowercase (Rust.trim query))) =
        kept.map Prod.fst := by
  refine ⟨rows.zipIdx.filter fun entry =>
    entry.1.matchesQuery (Rust.toLowercase (Rust.trim query)), ?_, ?_, ?_⟩
  · intro entry member
    exact List.mem_zipIdx_iff_getElem?.mp (List.mem_filter.mp member).1
  · rw [filteredRowIndices, ← List.filterMap_eq_filter, List.map_filterMap]
    apply List.filterMap_congr
    intro entry _
    simp only [Option.guard]
    split <;> rfl
  · have paired := congrArg (List.filter fun row =>
      row.matchesQuery (Rust.toLowercase (Rust.trim query))) (List.zipIdx_map_fst 0 rows)
    rw [← paired, List.filter_map, Function.comp_def]

namespace Reader

variable {provider : SecretProvider} {reader : Reader} {generation : UInt64}

theorem visible_eq : reader.visible (catalogue provider) = (reader.entries (catalogue provider)).filter
    fun row => row.matchesQuery (Rust.toLowercase (Rust.trim reader.query)) := by
  simp only [Browser.visible, catalogue]

theorem visibleRow_screen (place : Nat) :
    (reader.screen provider generation).visibleRow place =
      (reader.visible (catalogue provider))[place]? := by
  obtain ⟨kept, rows, positions, entries⟩ :=
    filteredRowIndices_side_by_side (reader.entries (catalogue provider)) reader.query
  have visible := visible_eq.trans entries
  simp only [SecretPicker.visibleRow, screen, positions, visible, List.getElem?_map]
  cases found : kept[place]? with
  | none => rfl
  | some entry => exact rows entry (List.mem_of_getElem? found)

theorem filteredRows_screen (provider : SecretProvider) (reader : Reader) (generation : UInt64) :
    (reader.screen provider generation).filteredRows.length =
      (reader.visible (catalogue provider)).length := by
  obtain ⟨kept, rows, positions, entries⟩ :=
    filteredRowIndices_side_by_side (reader.entries (catalogue provider)) reader.query
  have visible := visible_eq.trans entries
  simp only [screen, positions, visible, List.length_map]

theorem visible_eq_nil_iff : reader.visible (catalogue provider) = [] ↔
    filteredRowIndices (reader.entries (catalogue provider)) reader.query = [] := by
  have lengths := filteredRows_screen provider reader 0
  simp only [screen] at lengths
  rw [← List.length_eq_zero_iff, ← List.length_eq_zero_iff, lengths]

/-- The first row is selected exactly if some position is kept. -/
theorem home_eq : reader.home (catalogue provider) = { reader with
    selected := if filteredRowIndices (reader.entries (catalogue provider)) reader.query ≠ [] then some 0
      else none } := by
  rw [Browser.home]
  by_cases empty : reader.visible (catalogue provider) = []
  · rw [if_pos empty, if_neg (not_not.mpr (visible_eq_nil_iff.mp empty))]
  · rw [if_neg empty, if_pos fun nothing => empty (visible_eq_nil_iff.mpr nothing)]

/-- A new query rebuilds the filter. -/
theorem screen_search (query : String) :
    screen provider (Browser.home (catalogue provider) { reader with query }) generation =
      SecretPicker.rebuildFilter { reader.screen provider generation with query } := by
  rw [home_eq]
  rfl

/-- The end of a load whose result is the listing of the node. -/
theorem screen_receive : screen provider (reader.receive (catalogue provider)) generation =
    (reader.screen provider generation).finish (reader.node.run provider) := by
  rw [Browser.receive, home_eq]
  cases listed : reader.node.run provider with
  | ok rows =>
      have entries (selected : Option Nat) : Browser.entries (catalogue provider)
          { reader with arrived := true, selected } = rows := by
        simp only [Browser.entries, catalogue, listed]
      simp only [screen, SecretPicker.finish, SecretPicker.rebuildFilter, entries, listed]
  | error error =>
      have entries (selected : Option Nat) : Browser.entries (catalogue provider)
          { reader with arrived := true, selected } = [] := by
        simp only [Browser.entries, catalogue, listed]
      have nothing : filteredRowIndices [] reader.query = [] := rfl
      simp only [screen, SecretPicker.finish, entries, listed, nothing]
      rfl

/-- A reader takes part in what the picker does. -/
structure Follows (provider : SecretProvider) (reader : Reader) (outcome : SecretPicker × Effects)
    (after : Reader) : Prop where
  screen : ∃ generation, outcome.1 = after.screen provider generation
  outcomes : after.outcomes = reader.outcomes ++ outcome.2.emitted

theorem follows_nothing : Follows provider reader (reader.screen provider generation, .none) reader :=
  ⟨⟨generation, rfl⟩, (List.append_nil _).symm⟩

theorem follows_load (request : LoadRequest) :
    Follows provider reader ((reader.screen provider generation).load request)
      (reader.goto (catalogue provider) request) :=
  ⟨⟨generation + 1, rfl⟩, (List.append_nil _).symm⟩

theorem follows_search (query : String) :
    Follows provider reader
      (SecretPicker.rebuildFilter { reader.screen provider generation with query }, .none)
      (reader.moved provider (some (.search query))) := by
  simp only [moved, Option.bind_some, Browser.step, Option.getD_some]
  exact ⟨⟨generation, (screen_search query).symm⟩, (List.append_nil _).symm⟩

theorem follows_select {place : Nat} (inside : place < (reader.visible (catalogue provider)).length) :
    Follows provider reader ({ reader.screen provider generation with selectedIx := some place }, .none)
      (reader.moved provider (some (.select place))) := by
  simp only [moved, Option.bind_some, Browser.step, if_pos inside, Option.getD_some]
  exact ⟨⟨generation, rfl⟩, (List.append_nil _).symm⟩

theorem moved_up {parent : LoadRequest} (above : (catalogue provider).parent reader.node = some parent) :
    reader.moved provider (some .up) = reader.goto (catalogue provider) parent := by
  simp only [moved, Option.bind_some, Browser.step, above, Option.map_some, Option.getD_some]

theorem follows_back :
    Follows provider reader (reader.screen provider generation).goBack
      (reader.moved provider reader.back) := by
  have request : (reader.screen provider generation).request = reader.node := rfl
  cases node : reader.node with
  | vaults =>
      rw [node] at request
      simp only [SecretPicker.goBack, request, back, if_pos node]
      exact follows_nothing
  | items vault =>
      have above : (catalogue provider).parent reader.node = some .vaults := by rw [node]; rfl
      rw [node] at request
      simp only [SecretPicker.goBack, request, back, node, reduceCtorEq, if_false, moved_up above]
      exact follows_load .vaults
  | fields vault item =>
      have above : (catalogue provider).parent reader.node = some (.items vault) := by rw [node]; rfl
      rw [node] at request
      simp only [SecretPicker.goBack, request, back, node, reduceCtorEq, if_false, moved_up above]
      exact follows_load (.items vault)

/-- Rows are on show only when their listing has arrived. -/
theorem ready_of_visible {place : Nat} {row : Row}
    (shown : (reader.visible (catalogue provider))[place]? = some row) :
    (reader.screen provider generation).loadState = .ready := by
  have member := List.mem_of_getElem? shown
  rw [visible_eq, List.mem_filter] at member
  obtain ⟨member, _⟩ := member
  simp only [Browser.entries, catalogue] at member
  split at member
  · rename_i arrived listed
    simp only [screen, arrived, listed]
  · cases member

theorem follows_row {place : Nat} (row : Row) :
    Follows provider reader
      (SecretPicker.activateRow { reader.screen provider generation with selectedIx := some place } row)
      (reader.choose (catalogue provider) place row) := by
  cases row with
  | vault vault => exact follows_load (.items vault)
  | item item =>
      simp only [SecretPicker.activateRow]
      split
      · rename_i vault at_items
        have leads : (catalogue provider).choose reader.node (.item item) =
            some (.inl (.fields vault item)) := by
          rw [show reader.node = .items vault from at_items]
          rfl
        simp only [Browser.choose, leads]
        exact follows_load (.fields vault item)
      · rename_i elsewhere
        have nowhere : (catalogue provider).choose reader.node (.item item) = none := by
          cases node : reader.node with
          | vaults => rfl
          | items vault => exact absurd node (elsewhere vault)
          | fields vault parent => rfl
        simp only [Browser.choose, nowhere]
        exact ⟨⟨generation, rfl⟩, (List.append_nil _).symm⟩
  | field field => exact ⟨⟨generation, rfl⟩, rfl⟩

/-- A click on a row chooses it. -/
theorem follows_choose (place : Nat) :
    Follows provider reader ((reader.screen provider generation).activateVisibleIx place)
      (reader.moved provider (some (.choose place))) := by
  simp only [moved, Option.bind_some, Browser.step]
  cases shown : (reader.visible (catalogue provider))[place]? with
  | none =>
      have outside := List.getElem?_eq_none_iff.mp shown
      rw [← filteredRows_screen provider reader generation] at outside
      simp only [SecretPicker.activateVisibleIx, if_pos outside, Option.map_none, Option.getD_none]
      exact follows_nothing
  | some row =>
      rw [SecretPicker.activateVisibleIx_of_row (ready_of_visible shown)
        ((visibleRow_screen place).trans shown)]
      exact follows_row row

theorem loadState_screen_eq_failed_iff {error : ProviderError} :
    (reader.screen provider generation).loadState = .failed error ↔
      reader.failure (catalogue provider) = some error := by
  simp only [screen, Browser.failure, catalogue]
  cases reader.arrived <;> cases reader.node.run provider <;> simp

theorem loadState_screen_eq_loading_iff :
    (reader.screen provider generation).loadState = .loading ↔ reader.arrived = false := by
  simp only [screen]
  cases reader.arrived <;> cases reader.node.run provider <;> simp

/-- Confirming a selected row is choosing it. -/
theorem follows_confirm :
    Follows provider reader (reader.screen provider generation).activateSelected
      (reader.moved provider (reader.react provider .confirm)) := by
  cases failure : reader.failure (catalogue provider) with
  | some error =>
      have failed : (reader.screen provider generation).loadState = .failed error :=
        loadState_screen_eq_failed_iff.mpr failure
      simp only [SecretPicker.activateSelected, failed, react, failure]
      exact follows_load reader.node
  | none =>
      have notFailed : ∀ error, (reader.screen provider generation).loadState ≠ .failed error := by
        intro error failed
        cases failure.symm.trans (loadState_screen_eq_failed_iff.mp failed)
      simp only [react, failure]
      cases selected : reader.selected with
      | none =>
          have nothing : (reader.screen provider generation).selectedRow = none := by
            simp only [SecretPicker.selectedRow, screen, selected, Option.bind_none]
          rw [SecretPicker.activateSelected_of_no_row notFailed nothing]
          exact follows_nothing
      | some place =>
          have same : ({ reader.screen provider generation with selectedIx := some place } :
              SecretPicker) = reader.screen provider generation := by
            rw [← selected]
            rfl
          have row : (reader.screen provider generation).selectedRow =
              (reader.visible (catalogue provider))[place]? := by
            have picked : (reader.screen provider generation).selectedIx = some place := selected
            rw [SecretPicker.selectedRow, picked, Option.bind_some, visibleRow_screen]
          simp only [Option.map_some, moved, Option.bind_some, Browser.step]
          cases shown : (reader.visible (catalogue provider))[place]? with
          | none =>
              rw [SecretPicker.activateSelected_of_no_row notFailed (row.trans shown)]
              exact follows_nothing
          | some entry =>
              rw [SecretPicker.activateSelected_of_row (ready_of_visible shown) (row.trans shown),
                ← same]
              exact follows_row entry

theorem follows_stride (delta : Int) :
    Follows provider reader ((reader.screen provider generation).selectRelative delta, .none)
      (reader.moved provider (reader.stride provider delta)) := by
  have count := filteredRows_screen provider reader generation
  have current : (reader.screen provider generation).selectedIx = reader.selected := rfl
  simp only [SecretPicker.selectRelative, stride, count, current]
  by_cases empty : (reader.visible (catalogue provider)).length = 0
  · rw [if_pos empty, if_pos empty]
    exact follows_nothing
  · rw [if_neg empty, if_neg empty]
    split
    · exact follows_select (by omega)
    -- The selection is already where it stops.
    · rename_i stays
      obtain ⟨same, selected⟩ := not_or.mp stays
      obtain ⟨place, selected⟩ := Option.ne_none_iff_exists'.mp selected
      rw [not_not.mp same, selected, Option.getD_some]
      have inside : place < (reader.visible (catalogue provider)).length := by
        rw [selected, Option.getD_some] at same
        omega
      have unmoved : ({ reader.screen provider generation with selectedIx := some place } :
          SecretPicker) = reader.screen provider generation := by
        rw [← selected]
        rfl
      rw [← unmoved]
      exact follows_select inside

theorem follows_boundary (last : Bool) :
    Follows provider reader ((reader.screen provider generation).selectBoundary last, .none)
      (reader.moved provider (if reader.visible (catalogue provider) = [] then none
        else some (.select (if last then (reader.visible (catalogue provider)).length - 1 else 0)))) := by
  have count := filteredRows_screen provider reader generation
  by_cases empty : reader.visible (catalogue provider) = []
  · have nothing : (reader.screen provider generation).filteredRows = [] := visible_eq_nil_iff.mp empty
    rw [SecretPicker.selectBoundary, if_pos nothing, if_pos empty]
    exact follows_nothing
  · have something : (reader.screen provider generation).filteredRows ≠ [] :=
      fun nothing => empty (visible_eq_nil_iff.mpr nothing)
    have some := List.length_pos_iff.mpr empty
    rw [SecretPicker.selectBoundary, if_neg something, if_neg empty, count]
    exact follows_select (by split <;> omega)

theorem follows_cancel :
    Follows provider reader (reader.screen provider generation).cancel
      (reader.moved provider (reader.react provider .cancel)) := by
  have query : (reader.screen provider generation).query = reader.query := rfl
  have request : (reader.screen provider generation).request = reader.node := rfl
  simp only [SecretPicker.cancel, react, query, request]
  by_cases typed : reader.query ≠ ""
  · rw [if_pos typed, if_pos typed]
    exact follows_search ""
  · rw [if_neg typed, if_neg typed]
    by_cases below : reader.node ≠ .vaults
    · have goes : reader.back = some .up := if_neg below
      rw [if_pos below, if_pos below, ← goes]
      exact follows_back
    · have top : ((catalogue provider).parent reader.node).isNone := by
        rw [not_not.mp below]
        rfl
      rw [if_neg below, if_neg below]
      simp only [moved, Option.bind_some, Browser.step, if_pos top, Option.getD_some]
      exact ⟨⟨generation, rfl⟩, rfl⟩

theorem follows_erase :
    Follows provider reader (reader.screen provider generation).eraseQueryCharacter
      (reader.moved provider (reader.react provider .eraseQueryCharacter)) := by
  have query : (reader.screen provider generation).query = reader.query := rfl
  simp only [SecretPicker.eraseQueryCharacter, react, query]
  cases Rust.pop reader.query with
  | none => exact follows_back
  | some shorter => exact follows_search shorter

theorem follows_keyDown (event : KeyDownEvent) :
    Follows provider reader ((reader.screen provider generation).onKeyDown event)
      (reader.moved provider (reader.react provider (.keyDown event))) := by
  rw [← Prod.eta ((reader.screen provider generation).onKeyDown event),
    SecretPicker.onKeyDown_silent, SecretPicker.onKeyDown_eq, react]
  cases event.typed with
  | none => exact follows_nothing
  | some text => exact follows_search (reader.query ++ text)

/-- Every key does to the picker what it does to the reader. -/
theorem follows_perform (action : Action) :
    Follows provider reader ((reader.screen provider generation).perform action)
      (reader.moved provider (reader.react provider action)) := by
  cases action with
  | selectPrevious => exact follows_stride (-1)
  | selectNext => exact follows_stride 1
  | selectFirst => exact follows_boundary false
  | selectLast => exact follows_boundary true
  | confirm => exact follows_confirm
  | cancel => exact follows_cancel
  | goBack => exact follows_back
  | eraseQueryCharacter => exact follows_erase
  | retry => exact follows_load reader.node
  | keyDown event => exact follows_keyDown event

end Reader

/-- The top row of the last frame. -/
def Event.top (first : Nat) : Event → Nat
  | .paint top _ => top
  | _ => first

namespace System

/-- What an event is to a reader, if the last frame showed the rows from `first` on. The
delivery of the latest load is the arrival of the listing, and that of any other nothing. -/
def heard (s : System) (first : Nat) : Event → List Gesture
  | .act action => [.act action]
  | .click place => [.click (first + place)]
  | .complete number => if number = s.tasks.started then [.arrive] else []
  | .answer _ _ => []
  | .paint _ _ => []

/-- What the events of a run are to a reader, one after the other. -/
def gestures (s : System) (first : Nat) : List Event → List Gesture
  | [] => []
  | event :: events => s.heard first event ++
      (s.step event).elim [] fun t => t.gestures (event.top first) events

end System

omit [Rust.UnicodeTables] in
/-- The level of a request decides what the provider is asked. -/
theorem LoadRequest.run_of_level {request other : LoadRequest} {provider : SecretProvider}
    (level : request.level = other.level) : request.run provider = other.run provider := by
  cases request <;> cases other <;> simp_all [LoadRequest.level, LoadRequest.run]

/-- What a system shows is a reader of what one provider lists. -/
structure Shows (provider : SecretProvider) (s : System) (reader : Reader) : Prop where
  picker : ∃ generation, s.picker = reader.screen provider generation
  emitted : s.emitted = reader.outcomes
  asked : ∀ call ∈ s.calls, call.provider = provider

namespace Shows

variable {provider : SecretProvider} {reader after : Reader} {s : System} {number : Nat} {load : Load}

theorem start : Shows provider System.start (.start (catalogue provider)) := by
  refine ⟨⟨1, rfl⟩, rfl, ?_⟩
  intro call made
  cases made

theorem apply {outcome : SecretPicker × Effects} (shows : Shows provider s reader)
    (follows : reader.Follows provider outcome after) : Shows provider (s.apply outcome) after := by
  refine ⟨follows.screen, ?_, shows.asked⟩
  rw [follows.outcomes, ← shows.emitted]
  rfl

theorem answer (shows : Shows provider s reader) (number : Nat) (request : LoadRequest) :
    Shows provider (s.answer number request provider) reader := by
  refine ⟨shows.picker, shows.emitted, ?_⟩
  intro call made
  obtain old | new := List.mem_append.mp made
  · exact shows.asked call old
  · rw [List.mem_singleton.mp new]

theorem act (shows : Shows provider s reader) (action : Action) :
    Shows provider (s.apply (s.picker.perform action))
      (reader.moved provider (reader.react provider action)) := by
  obtain ⟨generation, picker⟩ := shows.picker
  apply shows.apply
  rw [picker]
  exact Reader.follows_perform action

theorem click (shows : Shows provider s reader) (place : Nat) :
    Shows provider (s.apply (s.picker.activateVisibleIx place))
      (reader.moved provider (some (.choose place))) := by
  obtain ⟨generation, picker⟩ := shows.picker
  apply shows.apply
  rw [picker]
  exact Reader.follows_choose place

/-- The result of a load that the picker accepts is the listing of the node. -/
theorem accept {result : ProviderResult (List Row)} (shows : Shows provider s reader)
    (recorded : s.Recorded) (found : s.tasks.find number = some ⟨load, some result⟩)
    (level : s.picker.request.level = load.request.level)
    (finished : s.picker.complete load result = s.picker.finish result) :
    Shows provider (s.deliver number load result) (reader.receive (catalogue provider)) := by
  obtain ⟨generation, picker⟩ := shows.picker
  obtain ⟨call, made, _, asked, answered⟩ := recorded.answered _ (Pool.mem_of_find found) result rfl
  have listed : result = reader.node.run provider := by
    rw [← answered, Call.result, asked, shows.asked call made]
    rw [picker] at level
    exact LoadRequest.run_of_level level.symm
  refine ⟨⟨generation, ?_⟩, shows.emitted, shows.asked⟩
  calc s.picker.complete load result
    _ = s.picker.finish result := finished
    _ = (reader.screen provider generation).finish (reader.node.run provider) := by
        rw [picker, listed]
    _ = Reader.screen provider (reader.receive (catalogue provider)) generation :=
        Reader.screen_receive.symm

/-- The delivery of the latest load is the arrival of the listing, which was awaited. -/
theorem deliver_latest {result : ProviderResult (List Row)} (shows : Shows provider s reader)
    (ordered : s.Ordered) (found : s.tasks.find number = some ⟨load, some result⟩)
    (newest : number = s.tasks.started) :
    reader.step (catalogue provider) .arrive = some (reader.receive (catalogue provider)) ∧
      Shows provider (s.deliver number load result) (reader.receive (catalogue provider)) := by
  obtain ⟨request, loading, finished⟩ :=
    ordered.complete_latest (Pool.mem_of_find found) newest
  obtain ⟨generation, picker⟩ := shows.picker
  rw [picker, Reader.loadState_screen_eq_loading_iff] at loading
  refine ⟨by simp [Browser.step, loading], ?_⟩
  exact shows.accept ordered.toRecorded found (congrArg _ request.symm) finished

/-- The delivery of any other load is nothing. -/
theorem deliver_stale {result : ProviderResult (List Row)} (shows : Shows provider s reader)
    (ordered : s.Ordered) (found : s.tasks.find number = some ⟨load, some result⟩)
    (timely : s.tasks.started - number < 2 ^ 64) (superseded : number ≠ s.tasks.started) :
    Shows provider (s.deliver number load result) reader := by
  have unchanged := ordered.complete_stale (Pool.mem_of_find found) timely superseded
  obtain ⟨generation, picker⟩ := shows.picker
  exact ⟨⟨generation, unchanged.trans picker⟩, shows.emitted, shows.asked⟩

end Shows

/-- The rows of a frame were painted from position `first` on. -/
def Laid (first : Nat) (frame : List PaintedRow) : Prop :=
  ∀ place painted, frame[place]? = some painted → painted.onClick = first + place

omit [Rust.UnicodeTables] in
theorem laid_of_renderBody {picker : SecretPicker} {first count : Nat} {body : Body}
    (rendered : picker.renderBody first count = some body) : Laid first body.rows := by
  intro place painted found
  obtain ⟨_, row, _, rfl⟩ := SecretPicker.painted_row rendered found
  rfl

omit [Rust.UnicodeTables] in
theorem laid_start : Laid 0 System.start.frame := by
  intro place painted found
  cases found

/-- Each event does to the picker what is heard of it to the reader. -/
theorem Shows.step {provider : SecretProvider} {reader : Reader} {s t : System} {event : Event}
    {first : Nat} (shows : Shows provider s reader) (ordered : s.Ordered) (laid : Laid first s.frame)
    (alike : ∀ number other, event = .answer number other → other = provider)
    (h : s.timelyStep event = some t) :
    ∃ after, Run (Reader.browse provider) reader (s.heard first event) after ∧
      Shows provider t after ∧ Laid (event.top first) t.frame := by
  obtain ⟨timely, h⟩ := System.timelyStep_eq_some_iff.mp h
  cases event with
  | act action =>
      obtain rfl := Option.some.inj h
      exact ⟨_, .single rfl, shows.act action, laid⟩
  | click place =>
      obtain ⟨painted, found, rfl⟩ := Option.map_eq_some_iff.mp h
      rw [laid place painted found]
      exact ⟨_, .single rfl, shows.click (first + place), laid⟩
  | answer number other =>
      obtain rfl := alike number other rfl
      simp only [System.step] at h
      split at h
      · obtain rfl := Option.some.inj h
        exact ⟨reader, .nil _, shows.answer _ _, laid⟩
      · cases h
  | complete number =>
      simp only [System.step] at h
      split at h
      · rename_i found
        obtain rfl := Option.some.inj h
        simp only [System.heard]
        split
        · rename_i newest
          obtain ⟨awaited, shows⟩ := shows.deliver_latest ordered found newest
          exact ⟨_, .single awaited, shows, laid⟩
        · rename_i superseded
          exact ⟨reader, .nil _, shows.deliver_stale ordered found timely superseded, laid⟩
      · cases h
  | paint top count =>
      simp only [System.step] at h
      split at h
      · obtain ⟨body, painted, rfl⟩ := Option.map_eq_some_iff.mp h
        exact ⟨reader, .nil _, ⟨shows.picker, shows.emitted, shows.asked⟩,
          laid_of_renderBody painted⟩
      · cases h

theorem Shows.run {provider : SecretProvider} {reader : Reader} {s t : System} {events : List Event}
    {first : Nat} (run : Run System.timelyStep s events t) (shows : Shows provider s reader)
    (ordered : s.Ordered) (laid : Laid first s.frame)
    (alike : ∀ number other, .answer number other ∈ events → other = provider) :
    ∃ after, Run (Reader.browse provider) reader (s.gestures first events) after ∧
      Shows provider t after := by
  induction run generalizing reader first with
  | nil => exact ⟨reader, .nil _, shows⟩
  | @cons _ event _ _ _ head _ ih =>
      obtain ⟨after, browsed, shows, laid⟩ := shows.step ordered laid
        (fun number other same => alike number other (same ▸ .head _)) head
      obtain ⟨final, rest, shows⟩ := ih shows (ordered.step head) laid
        (fun number other member => alike number other (.tail _ member))
      rw [System.gestures, (System.timelyStep_eq_some_iff.mp head).2]
      exact ⟨final, browsed.append rest, shows⟩

/-- A picker is a browser. If the provider answers alike at every moment, whatever the
order of events, a system shows what the browser of its catalogue shows, and has emitted
what the browser has handed out, after the same keys and clicks in the same order. The
listing of the browser arrives when the latest load is delivered, and only then. -/
theorem picker_browses {provider : SecretProvider} {events : List Event} {s : System}
    (run : Run System.timelyStep System.start events s)
    (alike : ∀ number other, .answer number other ∈ events → other = provider) :
    ∃ reader, Run (Reader.browse provider) (.start (catalogue provider))
      (System.start.gestures 0 events) reader ∧ Shows provider s reader :=
  Shows.run run Shows.start System.Ordered.start laid_start alike

/-- A move that comes to nothing is none. -/
theorem Reader.run_moved (provider : SecretProvider) (reader : Reader) (move : Option (Turn String)) :
    ∃ moves, Run (Browser.step (catalogue provider)) reader moves (reader.moved provider move) := by
  simp only [Reader.moved]
  cases made : move.bind (reader.step (catalogue provider)) with
  | none => exact ⟨[], .nil _⟩
  | some next =>
      obtain ⟨chosen, _, stepped⟩ := Option.bind_eq_some_iff.mp made
      exact ⟨[chosen], .single stepped⟩

/-- A listing that is read once more is searched for the same query. -/
theorem Reader.run_receive (provider : SecretProvider) (reader : Reader) :
    ∃ moves, Run (Browser.step (catalogue provider)) reader moves
      (reader.receive (catalogue provider)) := by
  cases arrived : reader.arrived with
  | false => exact ⟨[.arrive], .single (by simp [Browser.step, arrived])⟩
  | true =>
      have same : ({ reader with arrived := true } : Reader) = reader := by rw [← arrived]
      refine ⟨[.search reader.query], .single ?_⟩
      rw [Browser.receive, same]
      rfl

/-- Even if a superseded load slips through the generation, the picker shows a place the
browser can come to. -/
theorem Shows.moves {provider : SecretProvider} {reader : Reader} {s t : System} {event : Event}
    (shows : Shows provider s reader) (recorded : s.Recorded)
    (alike : ∀ number other, event = .answer number other → other = provider)
    (h : s.step event = some t) :
    ∃ moves after, Run (Browser.step (catalogue provider)) reader moves after ∧
      Shows provider t after := by
  cases event with
  | act action =>
      obtain rfl := Option.some.inj h
      obtain ⟨moves, run⟩ := reader.run_moved provider (reader.react provider action)
      exact ⟨moves, _, run, shows.act action⟩
  | click place =>
      obtain ⟨painted, _, rfl⟩ := Option.map_eq_some_iff.mp h
      obtain ⟨moves, run⟩ := reader.run_moved provider (some (.choose painted.onClick))
      exact ⟨moves, _, run, shows.click painted.onClick⟩
  | answer number other =>
      obtain rfl := alike number other rfl
      simp only [System.step] at h
      split at h
      · obtain rfl := Option.some.inj h
        exact ⟨[], reader, .nil _, shows.answer _ _⟩
      · cases h
  | complete number =>
      simp only [System.step] at h
      split at h
      · rename_i load result found
        obtain rfl := Option.some.inj h
        obtain kept | ⟨_, level, finished⟩ := s.picker.complete_cases load result
        · obtain ⟨generation, picker⟩ := shows.picker
          exact ⟨[], reader, .nil _, ⟨generation, kept.trans picker⟩, shows.emitted, shows.asked⟩
        · obtain ⟨moves, run⟩ := reader.run_receive provider
          exact ⟨moves, _, run, shows.accept recorded found level finished⟩
      · cases h
  | paint top count =>
      simp only [System.step] at h
      split at h
      · obtain ⟨body, _, rfl⟩ := Option.map_eq_some_iff.mp h
        exact ⟨[], reader, .nil _, shows.picker, shows.emitted, shows.asked⟩
      · cases h

theorem Shows.run_moves {provider : SecretProvider} {reader : Reader} {s t : System}
    {events : List Event} (run : Run System.step s events t) (shows : Shows provider s reader)
    (traced : s.Traced) (alike : ∀ number other, .answer number other ∈ events → other = provider) :
    ∃ moves after, Run (Browser.step (catalogue provider)) reader moves after ∧
      Shows provider t after := by
  induction run generalizing reader with
  | nil => exact ⟨[], reader, .nil _, shows⟩
  | @cons _ event _ _ _ head _ ih =>
      obtain ⟨first, after, moved, shows⟩ := shows.moves traced.toRecorded
        (fun number other same => alike number other (same ▸ .head _)) head
      obtain ⟨more, final, rest, shows⟩ := ih shows (traced.step head)
        (fun number other member => alike number other (.tail _ member))
      exact ⟨first ++ more, final, moved.append rest, shows⟩

/-- A browser of an obliging tree shows no failure. -/
theorem Shows.unfailing {provider : SecretProvider} {moves : List (Turn String)} {reader : Reader}
    {s : System} (shows : Shows provider s reader) (obliging : (catalogue provider).Obliging)
    (moved : Run (Browser.step (catalogue provider)) (.start (catalogue provider)) moves reader)
    (error : ProviderError) : s.picker.loadState ≠ .failed error := by
  obtain ⟨generation, picker⟩ := shows.picker
  intro failed
  rw [picker] at failed
  cases (obliging.run moved).symm.trans (Reader.loadState_screen_eq_failed_iff.mp failed)

/-- A provider that lists whatever its own listings lead to never makes a picker fail. -/
theorem obliging_never_fails {provider : SecretProvider} {events : List Event} {s : System}
    (obliging : (catalogue provider).Obliging) (run : Run System.step System.start events s)
    (alike : ∀ number other, .answer number other ∈ events → other = provider)
    (error : ProviderError) : s.picker.loadState ≠ .failed error := by
  obtain ⟨moves, reader, moved, shows⟩ :=
    Shows.run_moves run Shows.start System.Traced.start alike
  exact shows.unfailing obliging moved error

end Reading

section Glancing

local instance glancingTables : Rust.UnicodeTables := .ascii

/-- The vaults are loaded twice, and the first load is delivered although it is superseded.
The vault is clicked, its item confirmed, and the only field confirmed twice. -/
def glancing : List Event :=
  [.act .retry, .answer 1 onePin, .complete 1, .answer 2 onePin, .complete 2, .paint 0 1, .click 0,
    .answer 3 onePin, .complete 3, .act .confirm, .answer 4 onePin, .complete 4, .act .confirm,
    .act .confirm]

theorem glancing_reached : ∃ s, Run System.timelyStep System.start glancing s ∧
    s.emitted = [.selected pinReference, .selected pinReference] :=
  ⟨_, .cons rfl (.cons rfl (.cons rfl (.cons rfl (.cons rfl (.cons rfl (.cons rfl (.cons rfl
    (.cons rfl (.cons rfl (.cons rfl (.cons rfl (.cons rfl (.cons rfl (.nil _)))))))))))))), rfl⟩

theorem glancing_alike (number : Nat) (other : SecretProvider)
    (member : .answer number other ∈ glancing) : other = onePin := by
  simp only [glancing, List.mem_cons, Event.answer.injEq, reduceCtorEq, List.not_mem_nil, false_or,
    or_false] at member
  obtain ⟨_, same⟩ | ⟨_, same⟩ | ⟨_, same⟩ | ⟨_, same⟩ := member <;> exact same

/-- Only three listings arrive. -/
theorem picker_browses_glancing : ∃ s, Run System.timelyStep System.start glancing s ∧
    s.emitted = [.selected pinReference, .selected pinReference] ∧
    ∃ reader, Run (Reader.browse onePin) (.start (catalogue onePin))
      [.act .retry, .arrive, .click 0, .arrive, .act .confirm, .arrive, .act .confirm, .act .confirm]
      reader ∧ Shows onePin s reader := by
  obtain ⟨s, run, emitted⟩ := glancing_reached
  exact ⟨s, run, emitted, picker_browses run glancing_alike⟩

theorem onePin_obliging : (catalogue onePin).Obliging := by
  intro node _
  cases node with
  | vaults => exact ⟨_, rfl⟩
  | items vault => exact ⟨_, rfl⟩
  | fields vault item => exact ⟨_, rfl⟩

theorem obliging_never_fails_glancing : ∃ s, Run System.step System.start glancing s ∧
    ∀ error, s.picker.loadState ≠ .failed error := by
  obtain ⟨s, run, _⟩ := glancing_reached
  have run := System.run_of_timely run
  exact ⟨s, run, obliging_never_fails onePin_obliging run glancing_alike⟩

end Glancing

end Picker
