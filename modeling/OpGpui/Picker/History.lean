import OpGpui.Picker.Provenance

/-!
# What the history of provider calls remembers

More of what a `System` keeps along every run: a load asks its provider once, and a
reference that was emitted had been listed under an item and a vault that had been listed.
Calls that fail add nothing to what has been listed.
-/

namespace Picker

open Sdk Machine

section Failures

variable {calls later : List Call} {vaultId itemId : String}

/-- Calls that failed have listed nothing. -/
theorem ListedVault.of_failed {vault : Vault}
    (failed : ∀ call ∈ later, ∀ rows, call.result ≠ .ok rows)
    (listed : ListedVault (calls ++ later) vault) : ListedVault calls vault := by
  obtain ⟨call, made, asked, vaults, answered, inside⟩ := listed
  obtain old | new := List.mem_append.mp made
  · exact ⟨call, old, asked, vaults, answered, inside⟩
  · refine absurd ?_ (failed call new (vaults.map Row.vault))
    rw [Call.result, asked]
    exact LoadRequest.run_vaults_eq_ok_iff.mpr ⟨vaults, answered, rfl⟩

theorem ListedItem.of_failed {item : Item}
    (failed : ∀ call ∈ later, ∀ rows, call.result ≠ .ok rows)
    (listed : ListedItem (calls ++ later) vaultId item) : ListedItem calls vaultId item := by
  obtain ⟨call, made, ⟨vault, asked, rfl⟩, items, answered, inside⟩ := listed
  obtain old | new := List.mem_append.mp made
  · exact ⟨call, old, ⟨vault, asked, rfl⟩, items, answered, inside⟩
  · refine absurd ?_ (failed call new (items.map Row.item))
    rw [Call.result, asked]
    exact LoadRequest.run_items_eq_ok_iff.mpr ⟨items, answered, rfl⟩

theorem ListedField.of_failed {field : Field}
    (failed : ∀ call ∈ later, ∀ rows, call.result ≠ .ok rows)
    (listed : ListedField (calls ++ later) vaultId itemId field) :
    ListedField calls vaultId itemId field := by
  obtain ⟨call, made, ⟨vault, item, asked, rfl, rfl⟩, fields, answered, inside⟩ := listed
  obtain old | new := List.mem_append.mp made
  · exact ⟨call, old, ⟨vault, item, asked, rfl, rfl⟩, fields, answered, inside⟩
  · refine absurd ?_ (failed call new (fields.map Row.field))
    rw [Call.result, asked]
    exact LoadRequest.run_fields_eq_ok_iff.mpr ⟨fields, answered, rfl⟩

theorem Known.of_failed {request : LoadRequest}
    (failed : ∀ call ∈ later, ∀ rows, call.result ≠ .ok rows)
    (known : Known (calls ++ later) request) : Known calls request := by
  cases request with
  | vaults => trivial
  | items vault => exact ListedVault.of_failed failed known
  | fields vault item => exact ⟨known.1.of_failed failed, known.2.of_failed failed⟩

theorem Origin.of_failed {request : LoadRequest} {row : Row}
    (failed : ∀ call ∈ later, ∀ rows, call.result ≠ .ok rows)
    (origin : Origin (calls ++ later) request row) : Origin calls request row := by
  cases row with
  | vault vault =>
      obtain ⟨rfl, listed⟩ := origin
      exact ⟨rfl, listed.of_failed failed⟩
  | item item =>
      obtain ⟨vault, rfl, listed⟩ := origin
      exact ⟨vault, rfl, listed.of_failed failed⟩
  | field field =>
      obtain ⟨vault, item, rfl, listed⟩ := origin
      exact ⟨vault, item, rfl, listed.of_failed failed⟩

end Failures

namespace System

/-- No load has asked twice, and none of those that have asked will ask again. -/
structure AskedOnce (s : System) : Prop where
  bound : ∀ call ∈ s.calls, call.number ≤ s.tasks.started
  answered : ∀ call ∈ s.calls, ∀ load, (call.number, ⟨load, none⟩) ∉ s.tasks.pending
  once : (s.calls.map Call.number).Nodup

variable [Rust.UnicodeTables] {s t : System} {event : Event}

theorem AskedOnce.step (asked : s.AskedOnce) (recorded : s.Recorded) (h : s.step event = some t) :
    t.AskedOnce := by
  obtain ⟨outcome, does, rfl⟩ | ⟨number, load, provider, rfl, found, rfl⟩ |
      ⟨number, load, result, rfl, _, rfl⟩ | ⟨first, count, body, rfl, _, rfl⟩ := step_cases h
  · obtain ⟨tasks, _⟩ | ⟨request, _, _, tasks⟩ := apply_cases does
    · exact ⟨tasks ▸ asked.bound, tasks ▸ asked.answered, asked.once⟩
    · refine ⟨?_, ?_, asked.once⟩
      · rw [tasks]
        exact fun call made => (asked.bound call made).trans (Nat.le_succ _)
      · rw [tasks]
        intro call made load member
        obtain old | new := Pool.mem_spawn.mp member
        · exact asked.answered call made load old
        · have fresh := congrArg Prod.fst new
          have bound := asked.bound call made
          simp only at fresh
          omega
  · have waiting := Pool.mem_of_find found
    have fresh : ∀ call ∈ s.calls, call.number ≠ number := by
      rintro call made rfl
      exact asked.answered call made load waiting
    refine ⟨?_, ?_, ?_⟩
    · intro call made
      obtain old | new := List.mem_append.mp made
      · exact asked.bound call old
      · obtain rfl := List.mem_singleton.mp new
        exact recorded.numbered.bound _ waiting
    · intro call made held member
      obtain old | new := List.mem_append.mp made
      · obtain kept | ⟨task, _, changed⟩ := Pool.of_mem_update member
        · exact asked.answered call old held kept
        · exact fresh call old (congrArg Prod.fst changed)
      · obtain rfl := List.mem_singleton.mp new
        obtain ⟨entry, inside, same⟩ := List.mem_map.mp member
        split at same
        · cases congrArg (fun entry => entry.2.result.isSome) same
        · rename_i other
          exact other (congrArg Prod.fst same)
    · simp only [answer, List.map_append, List.map_cons, List.map_nil]
      refine List.nodup_append.mpr ⟨asked.once, List.nodup_singleton _, ?_⟩
      intro asking member other last
      obtain rfl := List.mem_singleton.mp last
      obtain ⟨call, made, rfl⟩ := List.mem_map.mp member
      exact fresh call made
  · exact ⟨asked.bound, fun call made load member =>
      asked.answered call made load (Pool.mem_remove.mp member).1, asked.once⟩
  · exact ⟨asked.bound, asked.answered, asked.once⟩

theorem AskedOnce.run {events : List Event} (run : Run System.step start events s) : s.AskedOnce := by
  have both : s.AskedOnce ∧ s.Traced :=
    run.invariant (P := fun s => s.AskedOnce ∧ s.Traced)
      (fun _ _ _ kept h => ⟨kept.1.step kept.2.toRecorded h, kept.2.step h⟩)
      ⟨⟨by simp [start, apply], by simp [start, apply], by simp [start, apply]⟩, Traced.start⟩
  exact both.1

/-- What was emitted stays so. -/
theorem emitted_grows (h : s.step event = some t) : ∃ new, t.emitted = s.emitted ++ new := by
  obtain ⟨outcome, _, rfl⟩ | ⟨number, load, provider, rfl, _, rfl⟩ |
      ⟨number, load, result, rfl, _, rfl⟩ | ⟨first, count, body, rfl, _, rfl⟩ := step_cases h
  · exact ⟨outcome.2.emitted, rfl⟩
  · exact ⟨[], (List.append_nil _).symm⟩
  · exact ⟨[], (List.append_nil _).symm⟩
  · exact ⟨[], (List.append_nil _).symm⟩

theorem emitted_prefix {events : List Event} (run : Run System.step s events t) :
    s.emitted <+: t.emitted := by
  refine run.invariant (P := fun t => s.emitted <+: t.emitted) ?_ (List.prefix_refl _)
  intro before event after grown h
  obtain ⟨new, emitted⟩ := emitted_grows h
  exact grown.trans ⟨new, emitted.symm⟩

/-- Every reference that was emitted belongs to a field that had been listed, under an
item and a vault that had been listed. -/
def Chosen (s : System) : Prop :=
  ∀ reference, .selected reference ∈ s.emitted → ∃ vault item field,
    ListedVault s.calls vault ∧ ListedItem s.calls vault.id item ∧
      ListedField s.calls vault.id item.id field ∧ field.reference = reference

theorem Chosen.step (chosen : s.Chosen) (traced : s.Traced) (h : s.step event = some t) :
    t.Chosen := by
  obtain ⟨outcome, does, rfl⟩ | ⟨number, load, provider, rfl, found, rfl⟩ |
      ⟨number, load, result, rfl, _, rfl⟩ | ⟨first, count, body, rfl, _, rfl⟩ := step_cases h
  · intro reference emitted
    obtain old | new := List.mem_append.mp emitted
    · exact chosen reference old
    · obtain ⟨_, field, listed, same⟩ := selected_of_does does new
      obtain ⟨vault, item, request, origin⟩ := traced.rows _ listed
      have known := traced.request
      rw [request] at known
      exact ⟨vault, item, field, known.1, known.2, origin, same⟩
  · intro reference emitted
    obtain ⟨vault, item, field, first, second, third, same⟩ := chosen reference emitted
    have grown : s.calls ⊆ (s.answer number load.request provider).calls :=
      List.subset_append_left _ _
    have known : Known s.calls (.fields vault item) := ⟨first, second⟩
    obtain ⟨call, made, listed⟩ := third
    obtain ⟨vaultListed, itemListed⟩ := known.mono grown
    exact ⟨vault, item, field, vaultListed, itemListed, ⟨call, grown made, listed⟩, same⟩
  · exact chosen
  · exact chosen

theorem Chosen.run {events : List Event} (run : Run System.step start events s) : s.Chosen := by
  have both : s.Chosen ∧ s.Traced :=
    run.invariant (P := fun s => s.Chosen ∧ s.Traced)
      (fun _ _ _ kept h => ⟨kept.1.step kept.2 h, kept.2.step h⟩)
      ⟨fun _ emitted => (by cases emitted), Traced.start⟩
  exact both.1

end System

end Picker
