import OpGpui.Library.Attain
import OpGpui.Picker.Catalogue
import OpGpui.Picker.History
import OpGpui.Picker.Keyboard

/-!
# Every listed field can be selected

Whatever has happened to a picker, the keyboard leads from there to every field a provider
lists now, provided it lists its vault and its item: `goBack` to the root, `retry`, and at
each level the arrow keys and `confirm`. The loads that this starts are answered by that
provider and delivered; older loads may stay pending for ever.
-/

namespace Picker

open Sdk Machine

/-- Keys, answers of one provider and deliveries. -/
def ByKeys (provider : SecretProvider) : Event → Prop
  | .act _ => True
  | .answer _ other => other = provider
  | .complete _ => True
  | .paint _ _ => False
  | .click _ => False

/-- A field that the provider lists under a vault and an item it lists has the reference. -/
def SecretProvider.Offers (provider : SecretProvider) (reference : SecretReference) : Prop :=
  ∃ vault item field,
    (∃ vaults, provider.vaults = .ok vaults ∧ vault ∈ vaults) ∧
    (∃ items, provider.items vault.id = .ok items ∧ item ∈ items) ∧
    (∃ fields, provider.fields vault.id item.id = .ok fields ∧ field ∈ fields) ∧
    field.reference = reference

/-- A load has just been started, and nothing typed since. -/
structure Opening (request : LoadRequest) (said : List SecretPickerEvent) (s : System) : Prop where
  recorded : s.Recorded
  picker : ∃ prior : SecretPicker, s.picker = (prior.load request).1
  pending : ∃ number, s.tasks.find number = some ⟨⟨s.picker.generation, request⟩, none⟩
  emitted : s.emitted = said

/-- All of the rows are on show. -/
structure OnShow (request : LoadRequest) (rows : List Row) (said : List SecretPickerEvent) (s : System) :
    Prop where
  recorded : s.Recorded
  request : s.picker.request = request
  ready : s.picker.loadState = .ready
  visible : ∀ place row, rows[place]? = some row → s.picker.visibleRow place = some row
  emitted : s.emitted = said

/-- At most that many levels below the root. -/
def Near (depth : Nat) (said : List SecretPickerEvent) (s : System) : Prop :=
  s.Recorded ∧ s.emitted = said ∧ s.picker.request.level.depth ≤ depth

section Reaching

variable [Rust.UnicodeTables] {provider : SecretProvider} {request : LoadRequest} {rows : List Row}
  {said : List SecretPickerEvent} {s : System}

omit [Rust.UnicodeTables] in
theorem System.Recorded.opening (recorded : s.Recorded) (request : LoadRequest) :
    Opening request s.emitted (s.apply (s.picker.load request)) := by
  have spawned : (s.apply (s.picker.load request)).Recorded := recorded.spawn rfl rfl
  refine ⟨spawned, ⟨s.picker, rfl⟩, ⟨s.tasks.started + 1, ?_⟩, List.append_nil _⟩
  exact spawned.numbered.find_eq_iff.mpr (Pool.mem_spawn.mpr (.inr rfl))

/-- An empty query keeps every row. -/
theorem filteredRowIndices_blank (rows : List Row) : filteredRowIndices rows "" = List.range rows.length := by
  have blank : Rust.toLowercase (Rust.trim "") = "" := rfl
  have kept (row : Row) : row.matchesQuery "" = true := by simp [Row.matchesQuery]
  rw [List.range_eq_range', ← List.zipIdx_map_snd, ← List.filterMap_eq_map]
  simp only [filteredRowIndices, blank, kept, if_true]
  rfl

theorem attains_nearer (depth : Nat) :
    Attains System.step (ByKeys provider) (Near (depth + 1) said) (Near depth said) := by
  refine .single (e := .act .goBack) trivial ?_
  rintro s ⟨recorded, emitted, near⟩
  refine ⟨_, rfl, recorded.apply s.picker.does_goBack, ?_⟩
  simp only [System.apply, SecretPicker.perform, SecretPicker.goBack]
  cases at_request : s.picker.request with
  | vaults => exact ⟨by simpa [Effects.none] using emitted, by simp [at_request, LoadRequest.level, PickerLevel.depth]⟩
  | items vault => exact ⟨by simpa [SecretPicker.load, Effects.spawn] using emitted, Nat.zero_le _⟩
  | fields vault item =>
      rw [at_request] at near
      exact ⟨by simpa [SecretPicker.load, Effects.spawn] using emitted, Nat.le_of_succ_le_succ near⟩

/-- Going back twice and loading again leads to the root from everywhere. -/
theorem attains_root :
    Attains System.step (ByKeys provider) (fun s => s.Recorded ∧ s.emitted = said) (Opening .vaults said) := by
  have back : Attains System.step (ByKeys provider) (Near 2 said) (Near 0 said) :=
    (attains_nearer 1).seq (attains_nearer 0)
  have retry : Attains System.step (ByKeys provider) (Near 0 said) (Opening .vaults said) := by
    refine .single (e := .act .retry) trivial ?_
    rintro s ⟨recorded, rfl, near⟩
    have root : s.picker.request = .vaults := by
      cases at_request : s.picker.request with
      | vaults => rfl
      | items vault => simp [at_request, LoadRequest.level, PickerLevel.depth] at near
      | fields vault item => simp [at_request, LoadRequest.level, PickerLevel.depth] at near
    have opening := recorded.opening s.picker.request
    refine ⟨_, rfl, root ▸ opening⟩
  rintro s ⟨recorded, emitted⟩
  refine (back.seq retry) s ⟨recorded, emitted, ?_⟩
  cases s.picker.request <;> simp [LoadRequest.level, PickerLevel.depth]

/-- The load a picker waits for ends with all of the rows on show. -/
theorem complete_load {picker prior : SecretPicker} (loading : picker = (prior.load request).1) :
    let done := picker.complete ⟨picker.generation, request⟩ (.ok rows)
    done.request = request ∧ done.loadState = .ready ∧
      ∀ place row, rows[place]? = some row → done.visibleRow place = some row := by
  subst loading
  have wanted : (prior.load request).1.complete ⟨(prior.load request).1.generation, request⟩ (.ok rows) =
      (prior.load request).1.finish (.ok rows) := by
    simp [SecretPicker.complete, SecretPicker.load]
  simp only [wanted]
  refine ⟨rfl, rfl, ?_⟩
  intro place row listed
  obtain ⟨inside, _⟩ := List.getElem?_eq_some_iff.mp listed
  have filtered : ((prior.load request).1.finish (.ok rows)).filteredRows = List.range rows.length :=
    filteredRowIndices_blank rows
  rw [SecretPicker.visibleRow, filtered, List.getElem?_range inside]
  exact listed

/-- A load that is answered and delivered at once lists its rows. -/
theorem attains_listing (answered : request.run provider = .ok rows) :
    Attains System.step (ByKeys provider) (Opening request said) (OnShow request rows said) := by
  rintro s ⟨recorded, ⟨prior, picker⟩, ⟨number, waiting⟩, emitted⟩
  have found : (s.answer number request provider).tasks.find number =
      some ⟨⟨s.picker.generation, request⟩, some (.ok rows)⟩ := by
    rw [← answered]
    exact recorded.numbered.find_update _ waiting
  have asks : s.step (.answer number provider) = some (s.answer number request provider) := by
    simp only [System.step, waiting]
  have delivers : (s.answer number request provider).step (.complete number) =
      some ((s.answer number request provider).deliver number ⟨s.picker.generation, request⟩
        (.ok rows)) := by
    simp only [System.step, found]
  obtain ⟨at_request, ready, visible⟩ := complete_load picker
  refine ⟨_, _, .cons asks (.single delivers), ?_, (recorded.answer provider waiting).deliver,
    at_request, ready, visible, emitted⟩
  intro event member
  obtain rfl | last := List.mem_cons.mp member
  · rfl
  · rw [List.mem_singleton.mp last]
    trivial

omit [Rust.UnicodeTables] in
theorem OnShow.select {place : Nat} (listing : OnShow request rows said s) :
    OnShow request rows said (s.apply ({ s.picker with selectedIx := some place }, .none)) :=
  ⟨⟨listing.recorded.numbered, listing.recorded.answered⟩, listing.request, listing.ready, listing.visible,
    (List.append_nil _).trans listing.emitted⟩

/-- The arrow keys lead to every visible row. -/
theorem attains_place {place : Nat} (inside : place < rows.length) :
    Attains System.step (ByKeys provider) (OnShow request rows said)
      (fun s => OnShow request rows said s ∧ s.picker.selectedIx = some place) := by
  induction place with
  | zero =>
      refine .single (e := .act .selectFirst) trivial ?_
      intro s listing
      have some := listing.visible 0 _ (List.getElem?_eq_getElem inside)
      have listed : s.picker.filteredRows ≠ [] :=
        List.length_pos_iff.mp (SecretPicker.lt_of_visibleRow some)
      have first : s.picker.perform .selectFirst = ({ s.picker with selectedIx := Option.some 0 }, .none) := by
        simp [SecretPicker.perform, SecretPicker.selectBoundary, listed]
      refine ⟨_, rfl, ?_⟩
      rw [first]
      exact ⟨listing.select, rfl⟩
  | succ place ih =>
      refine (ih (Nat.lt_of_succ_lt inside)).seq (.single (e := .act .selectNext) trivial ?_)
      rintro s ⟨listing, selected⟩
      have some := listing.visible (place + 1) _ (List.getElem?_eq_getElem inside)
      have bound := SecretPicker.lt_of_visibleRow some
      have listed : s.picker.filteredRows ≠ [] := List.length_pos_iff.mp (Nat.zero_lt_of_lt bound)
      have next : s.picker.perform .selectNext =
          ({ s.picker with selectedIx := Option.some (place + 1) }, .none) := by
        have stop : (max 0 (min (s.picker.filteredRows.length - 1 : Int) (place + 1))).toNat = place + 1 := by
          omega
        rw [SecretPicker.perform, SecretPicker.selectRelative_eq selected listed, stop]
      refine ⟨_, rfl, ?_⟩
      rw [next]
      exact ⟨listing.select, rfl⟩

/-- Confirming a row does what activating it does. -/
theorem attains_activated {row : Row} (member : row ∈ rows) :
    Attains System.step (ByKeys provider) (OnShow request rows said)
      (fun t => ∃ s, OnShow request rows said s ∧ t = s.apply (s.picker.activateRow row)) := by
  obtain ⟨place, inside, rfl⟩ := List.mem_iff_getElem.mp member
  refine (attains_place inside).seq (.single (e := .act .confirm) trivial ?_)
  rintro s ⟨listing, selected⟩
  have shown : s.picker.selectedRow = some rows[place] := by
    rw [SecretPicker.selectedRow, selected]
    exact listing.visible place _ (List.getElem?_eq_getElem inside)
  refine ⟨_, rfl, s, listing, ?_⟩
  rw [SecretPicker.perform, SecretPicker.activateSelected_of_row listing.ready shown]

theorem attains_opened {row : Row} {next : LoadRequest} (member : row ∈ rows)
    (opens : ∀ picker : SecretPicker, picker.request = request → picker.activateRow row = picker.load next) :
    Attains System.step (ByKeys provider) (OnShow request rows said) (Opening next said) := by
  intro s listing
  have activated : Attains System.step (ByKeys provider) (OnShow request rows said) _ :=
    attains_activated member
  obtain ⟨events, t, run, keys, before, listing, rfl⟩ := activated s listing
  refine ⟨events, _, run, keys, ?_⟩
  rw [opens before.picker listing.request, ← listing.emitted]
  exact listing.recorded.opening next

/-- From any state the keys lead to the selection of any reference on offer. -/
theorem attains_selected {reference : SecretReference} (offered : provider.Offers reference) :
    Attains System.step (ByKeys provider) (fun s => s.Recorded ∧ s.emitted = said)
      (fun t => t.emitted = said ++ [.selected reference]) := by
  obtain ⟨vault, item, field, ⟨vaults, listsVaults, hasVault⟩, ⟨items, listsItems, hasItem⟩,
    ⟨fields, listsFields, hasField⟩, rfl⟩ := offered
  have openVault : Attains System.step (ByKeys provider) (Opening .vaults said)
      (Opening (.items vault) said) :=
    (attains_listing (LoadRequest.run_vaults_eq_ok_iff.mpr ⟨vaults, listsVaults, rfl⟩)).seq
      (attains_opened (List.mem_map_of_mem hasVault) fun _ _ => rfl)
  have openItem : Attains System.step (ByKeys provider) (Opening (.items vault) said)
      (Opening (.fields vault item) said) := by
    refine (attains_listing (LoadRequest.run_items_eq_ok_iff.mpr ⟨items, listsItems, rfl⟩)).seq
      (attains_opened (List.mem_map_of_mem hasItem) ?_)
    intro picker at_items
    simp only [SecretPicker.activateRow, at_items]
  have select : Attains System.step (ByKeys provider) (Opening (.fields vault item) said)
      (fun t => t.emitted = said ++ [.selected field.reference]) := by
    refine (attains_listing (LoadRequest.run_fields_eq_ok_iff.mpr ⟨fields, listsFields, rfl⟩)).seq ?_
    intro s listing
    obtain ⟨events, t, run, keys, before, listing, rfl⟩ :=
      attains_activated (List.mem_map_of_mem hasField) s listing
    refine ⟨events, _, run, keys, ?_⟩
    rw [← listing.emitted]
    rfl
  exact attains_root.seq (openVault.seq (openItem.seq select))

/-- Whatever has happened to a picker, every reference its provider offers now can be
selected from there with the keys. -/
theorem every_field_selectable {events : List Event} (run : Run System.step System.start events s)
    {reference : SecretReference} (offered : provider.Offers reference) :
    ∃ more t, Run System.step s more t ∧ (∀ event ∈ more, ByKeys provider event) ∧
      t.emitted = s.emitted ++ [.selected reference] :=
  attains_selected offered s ⟨(System.Traced.run run).toRecorded, rfl⟩

/-- A picker selects nothing but what its provider offers. -/
theorem offers_of_emitted {events : List Event} (run : Run System.step System.start events s)
    (alike : ∀ number other, .answer number other ∈ events → other = provider)
    {reference : SecretReference} (emitted : .selected reference ∈ s.emitted) :
    provider.Offers reference := by
  obtain ⟨_, _, _, shows⟩ := Shows.run_moves run Shows.start System.Traced.start alike
  obtain ⟨vault, item, field, ⟨vaultCall, askedVaults, _, hasVault⟩,
    ⟨itemCall, askedItems, _, hasItem⟩, ⟨fieldCall, askedFields, _, hasField⟩, rfl⟩ :=
      System.Chosen.run run reference emitted
  rw [shows.asked vaultCall askedVaults] at hasVault
  rw [shows.asked itemCall askedItems] at hasItem
  rw [shows.asked fieldCall askedFields] at hasField
  exact ⟨vault, item, field, hasVault, hasItem, hasField, rfl⟩

/-- What a picker can ever select from a provider that answers alike is what it offers. -/
theorem selectable_iff {reference : SecretReference} :
    (∃ events s, Run System.step System.start events s ∧
      (∀ number other, .answer number other ∈ events → other = provider) ∧
      .selected reference ∈ s.emitted) ↔ provider.Offers reference := by
  constructor
  · rintro ⟨events, s, run, alike, emitted⟩
    exact offers_of_emitted run alike emitted
  · intro offered
    obtain ⟨events, s, run, keys, emitted⟩ :=
      attains_selected offered System.start ⟨System.Recorded.start, rfl⟩
    refine ⟨events, s, run, fun number other member => keys _ member, ?_⟩
    rw [emitted]
    exact List.mem_append_right _ (.head _)

end Reaching

section Returning

local instance returningTables : Rust.UnicodeTables := .ascii

/-- The vaults cannot be listed, and something was typed. -/
def refused : List Event :=
  [.act (.keyDown ⟨false, false, some "x"⟩), .answer 1 { onePin with vaults := .error ⟨"refused"⟩ },
    .complete 1]

theorem onePin_offers : onePin.Offers pinReference :=
  ⟨_, _, _, ⟨_, rfl, .head _⟩, ⟨_, rfl, .head _⟩, ⟨_, rfl, .head _⟩, rfl⟩

theorem every_field_selectable_refused : ∃ s, Run System.step System.start refused s ∧
    s.picker.loadState = .failed ⟨"refused"⟩ ∧
    ∃ more t, Run System.step s more t ∧ (∀ event ∈ more, ByKeys onePin event) ∧
      t.emitted = s.emitted ++ [.selected pinReference] := by
  have reached : ∃ s, Run System.step System.start refused s ∧
      s.picker.loadState = .failed ⟨"refused"⟩ :=
    ⟨_, .cons rfl (.cons rfl (.cons rfl (.nil _))), rfl⟩
  obtain ⟨s, run, failed⟩ := reached
  exact ⟨s, run, failed, every_field_selectable run onePin_offers⟩

end Returning

end Picker
