import OpGpui.Picker.Keyboard

/-!
# Typing ahead of a load

The query may be edited while a load is pending, and its rows are then filtered by what
was typed meanwhile. `Edits` lists the edits with the queries they lead through. Their
end and the end of the load commute (`type_ahead_commutes`): an edit before it changes
only what the completion computes again, and an edit after it computes the filter from
scratch.
-/

namespace Picker

/-- Edits that lead from one query to another: keystrokes, Backspace while there is
something to erase, and Escape while there is something to clear. -/
inductive Edits : String → List Action → String → Prop
  | nil (query : String) : Edits query [] query
  | type {query final : String} {edits : List Action} (event : KeyDownEvent)
      (rest : Edits (query ++ event.typed.getD "") edits final) :
      Edits query (.keyDown event :: edits) final
  | erase {query shorter final : String} {edits : List Action}
      (popped : Rust.pop query = some shorter) (rest : Edits shorter edits final) :
      Edits query (.eraseQueryCharacter :: edits) final
  | clear {query final : String} {edits : List Action} (some : query ≠ "")
      (rest : Edits "" edits final) : Edits query (.cancel :: edits) final

/-- Edits can be cut anywhere. -/
theorem Edits.append {query final : String} {before after : List Action}
    (edits : Edits query (before ++ after) final) :
    ∃ middle, Edits query before middle ∧ Edits middle after final := by
  induction before generalizing query with
  | nil => exact ⟨query, .nil query, edits⟩
  | cons action before ih =>
      cases edits with
      | type event rest =>
          obtain ⟨middle, first, second⟩ := ih rest
          exact ⟨middle, .type event first, second⟩
      | erase popped rest =>
          obtain ⟨middle, first, second⟩ := ih rest
          exact ⟨middle, .erase popped first, second⟩
      | clear some rest =>
          obtain ⟨middle, first, second⟩ := ih rest
          exact ⟨middle, .clear some first, second⟩

namespace SecretPicker

variable [Rust.UnicodeTables] {picker : SecretPicker} {inputs : List Input}
  {query final : String} {edits : List Action} {result : ProviderResult (List Row)}

/-- One edit says nothing, starts nothing, and refilters if it changes the query. -/
inductive Edited (picker : SecretPicker) (query : String) : SecretPicker × Effects → Prop
  | unchanged (same : query = picker.query) : Edited picker query (picker, .none)
  | refiltered : Edited picker query (rebuildFilter { picker with query }, .none)

theorem Edited.type (picker : SecretPicker) (event : KeyDownEvent) :
    picker.Edited (picker.query ++ event.typed.getD "") (picker.perform (.keyDown event)) := by
  have outcome : picker.perform (.keyDown event) = ((picker.onKeyDown event).1, .none) := by
    rw [← picker.onKeyDown_silent event]
    rfl
  rw [outcome, onKeyDown_eq]
  cases event.typed with
  | none => exact .unchanged (by simp)
  | some text => exact .refiltered

theorem Edited.erase (popped : Rust.pop picker.query = some query) :
    picker.Edited query (picker.perform .eraseQueryCharacter) := by
  simp only [perform, eraseQueryCharacter, popped]
  exact .refiltered

theorem Edited.clear (some : picker.query ≠ "") :
    picker.Edited "" (picker.perform .cancel) := by
  simp only [perform, cancel, if_pos some]
  exact .refiltered

/-- The first of several edits, and the others. -/
theorem Edited.of_cons {action : Action} (typed : Edits picker.query (action :: edits) final) :
    ∃ query, picker.Edited query (picker.perform action) ∧ Edits query edits final := by
  cases typed with
  | type event rest => exact ⟨_, .type picker event, rest⟩
  | erase popped rest => exact ⟨_, .erase popped, rest⟩
  | clear some rest => exact ⟨_, .clear some, rest⟩

namespace Edited

variable {outcome : SecretPicker × Effects}

theorem silent (edited : picker.Edited query outcome) : outcome.2 = .none := by
  cases edited <;> rfl

/-- An edit changes the query and the filter alone. -/
theorem frame (edited : picker.Edited query outcome) :
    ∃ filteredRows selectedIx, outcome.1 = { picker with query, filteredRows, selectedIx } := by
  cases edited with
  | unchanged same => exact ⟨picker.filteredRows, picker.selectedIx, by rw [same]⟩
  | refiltered => exact ⟨_, _, rfl⟩

/-- Where the filter is up to date, an edit is a search for the new query. -/
theorem eq_rebuildFilter (edited : picker.Edited query outcome)
    (settled : picker.rebuildFilter = picker) :
    outcome.1 = rebuildFilter { picker with query } := by
  cases edited with
  | unchanged same =>
      rw [same]
      exact settled.symm
  | refiltered => rfl

end Edited

theorem emitted_edits (typed : Edits picker.query edits final) :
    picker.emitted (edits.map .act) = [] := by
  induction edits generalizing picker with
  | nil => rfl
  | cons action edits ih =>
      obtain ⟨query, edited, rest⟩ := Edited.of_cons typed
      obtain ⟨_, _, frame⟩ := edited.frame
      rw [List.map_cons, emitted_cons, ih (by rwa [respond, frame]), respond, edited.silent]
      rfl

/-- Edits before the end of a load change the query and the filter alone. -/
theorem after_edits (typed : Edits picker.query edits final) :
    ∃ filteredRows selectedIx, picker.after (edits.map .act) =
      { picker with query := final, filteredRows, selectedIx } := by
  induction edits generalizing picker with
  | nil =>
      cases typed
      exact ⟨picker.filteredRows, picker.selectedIx, rfl⟩
  | cons action edits ih =>
      obtain ⟨query, edited, rest⟩ := Edited.of_cons typed
      obtain ⟨_, _, frame⟩ := edited.frame
      obtain ⟨filteredRows, selectedIx, eq⟩ := @ih (picker.respond (.act action)).1
        (by rwa [respond, frame])
      refine ⟨filteredRows, selectedIx, ?_⟩
      rw [List.map_cons, after_cons, eq, respond, frame]

/-- Edits after the end of a load are one search for the last query. -/
theorem after_edits_settled (typed : Edits picker.query edits final)
    (settled : picker.rebuildFilter = picker) :
    picker.after (edits.map .act) = rebuildFilter { picker with query := final } := by
  induction edits generalizing picker with
  | nil =>
      cases typed
      exact settled.symm
  | cons action edits ih =>
      obtain ⟨query, edited, rest⟩ := Edited.of_cons typed
      have searched : (picker.respond (.act action)).1 = rebuildFilter { picker with query } :=
        edited.eq_rebuildFilter settled
      rw [List.map_cons, after_cons, searched]
      exact ih rest rfl

/-- The end of a load leaves the filter up to date. -/
theorem finish_settled (picker : SecretPicker) (result : ProviderResult (List Row)) :
    (picker.finish result).rebuildFilter = picker.finish result := by
  cases result <;> rfl

/-- The end of a load computes the filter from scratch. -/
theorem finish_filter (picker : SecretPicker) (filteredRows : List Nat) (selectedIx : Option Nat)
    (result : ProviderResult (List Row)) :
    finish { picker with filteredRows, selectedIx } result = picker.finish result := by
  cases result <;> rfl

/-- A search after the end of a load is the end of the load after the search. -/
theorem rebuildFilter_finish (picker : SecretPicker) (query : String)
    (result : ProviderResult (List Row)) :
    rebuildFilter { picker.finish result with query } = finish { picker with query } result := by
  cases result <;> rfl

/-- Both guards recognize the latest load. -/
theorem complete_latest {load : Load} (latest : load = ⟨picker.generation, picker.request⟩)
    (result : ProviderResult (List Row)) : picker.complete load result = picker.finish result := by
  subst latest
  simp [complete]

/-- An input either leaves the load alone or starts the next one. -/
theorem respond_cases (picker : SecretPicker) (input : Input) :
    ((picker.respond input).2.spawned = [] ∧
        (picker.respond input).1.generation = picker.generation ∧
        (picker.respond input).1.request = picker.request) ∨
      ∃ request, picker.respond input = picker.load request := by
  have of_does {outcome : SecretPicker × Effects} (done : picker.Does outcome) :
      (outcome.2.spawned = [] ∧ outcome.1.generation = picker.generation ∧
          outcome.1.request = picker.request) ∨ ∃ request, outcome = picker.load request := by
    obtain ⟨spawned, generation, request, _⟩ | ⟨request, _, eq⟩ := done.keeps_or_loads
    · exact .inl ⟨spawned, generation, request⟩
    · exact .inr ⟨request, eq⟩
  cases input with
  | act action => exact of_does (picker.does_perform action)
  | click visibleIx => exact of_does (picker.does_click visibleIx)
  | complete load result =>
      obtain ⟨_, request, _, generation⟩ := picker.complete_keeps load result
      exact .inl ⟨rfl, generation, request⟩

/-- The load started last is the one the picker waits for. -/
theorem latest_spawned {loads : List Load}
    (latest : loads.getLast? = some ⟨picker.generation, picker.request⟩) :
    (loads ++ picker.spawned inputs).getLast? =
      some ⟨(picker.after inputs).generation, (picker.after inputs).request⟩ := by
  induction inputs generalizing picker loads with
  | nil => simpa using latest
  | cons input inputs ih =>
      rw [spawned_cons, after_cons, ← List.append_assoc]
      apply ih
      obtain ⟨spawned, generation, request⟩ | ⟨request, eq⟩ := picker.respond_cases input
      · rw [spawned, List.append_nil, generation, request, latest]
      · rw [eq]
        exact List.getLast?_concat

/-- Type-ahead commutes with the end of the load. In every state a picker can reach, any
edits of its query and any outcome of the load it started last lead to the same picker
without a word, wherever among the edits the load ends. -/
theorem type_ahead_commutes (load : Load)
    (latest : (withTheme.2.spawned ++ withTheme.1.spawned inputs).getLast? = some load)
    (typed : Edits (withTheme.1.after inputs).query edits final)
    (result : ProviderResult (List Row)) :
    ∃ settled : SecretPicker, settled.query = final ∧
      ∀ before after : List Action, edits = before ++ after →
        let order := before.map Input.act ++ .complete load result :: after.map .act
        (withTheme.1.after inputs).after order = settled ∧
        (withTheme.1.after inputs).emitted order = [] := by
  have waited : load = ⟨(withTheme.1.after inputs).generation, (withTheme.1.after inputs).request⟩ :=
    Option.some.inj (latest.symm.trans (latest_spawned rfl))
  generalize withTheme.1.after inputs = picker at typed waited ⊢
  refine ⟨finish { picker with query := final } result, by cases result <;> rfl, ?_⟩
  intro before after split order
  subst split
  obtain ⟨middle, first, second⟩ := typed.append
  obtain ⟨filteredRows, selectedIx, ahead⟩ := after_edits first
  have ended : ((picker.after (before.map .act)).respond (.complete load result)).1 =
      finish { picker with query := middle } result := by
    have wanted : (picker.after (before.map .act)).complete load result =
        (picker.after (before.map .act)).finish result :=
      complete_latest (by rw [ahead, waited]) result
    rw [respond, wanted, ahead, ← finish_filter { picker with query := middle } filteredRows selectedIx]
  have rest : Edits (finish { picker with query := middle } result).query after final := by
    cases result <;> exact second
  simp only [order]
  rw [after_append, emitted_append, after_cons, emitted_cons, ended, emitted_edits first,
    emitted_edits rest, after_edits_settled rest (finish_settled _ _)]
  exact ⟨rebuildFilter_finish { picker with query := middle } final result, rfl⟩

end SecretPicker

section Ahead

local instance aheadTables : Rust.UnicodeTables := .ascii

def typeX : Action := .keyDown ⟨false, false, some "x"⟩

def typeB : Action := .keyDown ⟨false, false, some "B"⟩

/-- A letter is corrected before the first load ends, or while it does, or after it. -/
theorem type_ahead_commutes_corrected :
    ∃ settled : SecretPicker, settled.query = "B" ∧
      SecretPicker.withTheme.1.after
        [vaultsListed, .act typeX, .act .eraseQueryCharacter, .act typeB] = settled ∧
      SecretPicker.withTheme.1.after
        [.act typeX, vaultsListed, .act .eraseQueryCharacter, .act typeB] = settled ∧
      SecretPicker.withTheme.1.after
        [.act typeX, .act .eraseQueryCharacter, .act typeB, vaultsListed] = settled := by
  have typed : Edits "" [typeX, .eraseQueryCharacter, typeB] "B" :=
    .type _ (.erase rfl (.type _ (.nil _)))
  have latest : (SecretPicker.withTheme.2.spawned ++ SecretPicker.withTheme.1.spawned []).getLast? =
      some ⟨1, .vaults⟩ := rfl
  obtain ⟨settled, query, same⟩ := SecretPicker.type_ahead_commutes ⟨1, .vaults⟩ latest typed
    (.ok [.vault (.new "a" "Alpha"), .vault (.new "b" "Beta")])
  exact ⟨settled, query, (same [] [typeX, .eraseQueryCharacter, typeB] rfl).1,
    (same [typeX] [.eraseQueryCharacter, typeB] rfl).1,
    (same [typeX, .eraseQueryCharacter, typeB] [] rfl).1⟩

end Ahead

end Picker
