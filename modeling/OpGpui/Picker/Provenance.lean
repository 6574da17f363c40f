import OpGpui.Picker.System

/-!
# Where rows and references come from

Every id a picker uses was listed by its provider: the requests it makes, the rows
it shows and the references it emits are traced through the history of provider
calls. Nothing is assumed of the provider, whose answers may change or fail from call
to call, or of the order of events. The generation may even wrap around: a result that
slips through the first guard still belongs to the level on show.
-/

namespace Picker

open Sdk Machine

/-- Some earlier listing of the vaults had this one. -/
def ListedVault (calls : List Call) (vault : Vault) : Prop :=
  ∃ call ∈ calls, call.request = .vaults ∧
    ∃ vaults, call.provider.vaults = .ok vaults ∧ vault ∈ vaults

/-- Some earlier listing under the id of the vault had this item. -/
def ListedItem (calls : List Call) (vaultId : String) (item : Item) : Prop :=
  ∃ call ∈ calls, (∃ vault, call.request = .items vault ∧ vault.id = vaultId) ∧
    ∃ items, call.provider.items vaultId = .ok items ∧ item ∈ items

/-- Some earlier listing under the ids of vault and item had this field. -/
def ListedField (calls : List Call) (vaultId itemId : String) (field : Field) : Prop :=
  ∃ call ∈ calls,
    (∃ vault item, call.request = .fields vault item ∧ vault.id = vaultId ∧ item.id = itemId) ∧
    ∃ fields, call.provider.fields vaultId itemId = .ok fields ∧ field ∈ fields

/-- Everything a request names has been listed under its parent. -/
def Known (calls : List Call) : LoadRequest → Prop
  | .vaults => True
  | .items vault => ListedVault calls vault
  | .fields vault item => ListedVault calls vault ∧ ListedItem calls vault.id item

/-- A row that was listed for the request. -/
def Origin (calls : List Call) (request : LoadRequest) : Row → Prop
  | .vault vault => request = .vaults ∧ ListedVault calls vault
  | .item item => ∃ vault, request = .items vault ∧ ListedItem calls vault.id item
  | .field field =>
      ∃ vault item, request = .fields vault item ∧ ListedField calls vault.id item.id field

section Histories

variable {calls later : List Call} {request : LoadRequest} {row : Row}

theorem Known.mono (known : Known calls request) (grown : calls ⊆ later) : Known later request := by
  have vaults : ∀ vault, ListedVault calls vault → ListedVault later vault := by
    rintro vault ⟨call, made, listed⟩
    exact ⟨call, grown made, listed⟩
  cases request with
  | vaults => trivial
  | items vault => exact vaults vault known
  | fields vault item =>
      obtain ⟨call, made, listed⟩ := known.2
      exact ⟨vaults vault known.1, call, grown made, listed⟩

theorem Origin.mono (origin : Origin calls request row) (grown : calls ⊆ later) :
    Origin later request row := by
  cases row with
  | vault vault =>
      obtain ⟨rfl, call, made, listed⟩ := origin
      exact ⟨rfl, call, grown made, listed⟩
  | item item =>
      obtain ⟨vault, rfl, call, made, listed⟩ := origin
      exact ⟨vault, rfl, call, grown made, listed⟩
  | field field =>
      obtain ⟨vault, item, rfl, call, made, listed⟩ := origin
      exact ⟨vault, item, rfl, call, grown made, listed⟩

theorem Origin.fits (origin : Origin calls request row) : request.Fits row := by
  cases row with
  | vault vault =>
      obtain ⟨rfl, _⟩ := origin
      trivial
  | item item =>
      obtain ⟨vault, rfl, _⟩ := origin
      trivial
  | field field =>
      obtain ⟨vault, item, rfl, _⟩ := origin
      trivial

/-- The rows of an answer were listed for every request at the level of the call. -/
theorem origin_of_result {call : Call} {rows : List Row} (made : call ∈ calls)
    (answered : call.result = .ok rows) (level : call.request.level = request.level)
    (member : row ∈ rows) : Origin calls request row := by
  obtain ⟨number, asked, provider⟩ := call
  cases asked with
  | vaults =>
      obtain ⟨vaults, listed, rfl⟩ := LoadRequest.run_vaults_eq_ok_iff.mp answered
      obtain ⟨vault, inside, rfl⟩ := List.mem_map.mp member
      cases request with
      | vaults => exact ⟨rfl, _, made, rfl, vaults, listed, inside⟩
      | items _ => cases level
      | fields _ _ => cases level
  | items parent =>
      obtain ⟨items, listed, rfl⟩ := LoadRequest.run_items_eq_ok_iff.mp answered
      obtain ⟨item, inside, rfl⟩ := List.mem_map.mp member
      cases request with
      | vaults => cases level
      | items vault =>
          obtain ⟨id, _⟩ := PickerLevel.items.inj level
          exact ⟨vault, rfl, _, made, ⟨parent, rfl, id⟩, items, id ▸ listed, inside⟩
      | fields _ _ => cases level
  | fields parent parentItem =>
      obtain ⟨fields, listed, rfl⟩ := LoadRequest.run_fields_eq_ok_iff.mp answered
      obtain ⟨field, inside, rfl⟩ := List.mem_map.mp member
      cases request with
      | vaults => cases level
      | items _ => cases level
      | fields vault item =>
          obtain ⟨vaultId, _, itemId, _⟩ := PickerLevel.fields.inj level
          exact ⟨vault, item, rfl, _, made, ⟨parent, parentItem, rfl, vaultId, itemId⟩, fields,
            vaultId ▸ itemId ▸ listed, inside⟩

/-- What a picker may open has been listed, if its request and its rows were. -/
theorem known_of_opens {picker : SecretPicker} (known : Known calls picker.request)
    (origins : ∀ row ∈ picker.rows, Origin calls picker.request row)
    (allowed : picker.Opens request) : Known calls request := by
  cases allowed with
  | again => exact known
  | leaveItems _ => trivial
  | leaveFields at_fields =>
      rw [at_fields] at known
      exact known.1
  | enterVault listed => exact (origins _ listed).2
  | enterItem at_items listed =>
      obtain ⟨vault, same, origin⟩ := origins _ listed
      rw [at_items] at known same
      obtain rfl := LoadRequest.items.inj same
      exact ⟨known, origin⟩

end Histories

namespace System

variable {s t : System} {event : Event} {number : Nat} {load : Load}

/-- The request, the rows, the loads under way and the calls made are all traced. -/
structure Traced (s : System) : Prop extends Recorded s where
  request : Known s.calls s.picker.request
  rows : ∀ row ∈ s.picker.rows, Origin s.calls s.picker.request row
  pending : ∀ entry ∈ s.tasks.pending, Known s.calls entry.2.load.request
  history : Chronicle (fun before call => Known before call.request) s.calls

namespace Traced

theorem start : System.start.Traced := by
  refine ⟨Recorded.start, trivial, ?_, ?_, .nil⟩
  · intro row member
    cases member
  · intro entry member
    obtain rfl := List.mem_singleton.mp member
    trivial

theorem answer (traced : s.Traced) (provider : SecretProvider)
    (found : s.tasks.find number = some ⟨load, none⟩) :
    (s.answer number load.request provider).Traced := by
  have grown : s.calls ⊆ (s.answer number load.request provider).calls :=
    List.subset_append_left _ _
  have known := traced.pending _ (Pool.mem_of_find found)
  refine ⟨traced.toRecorded.answer provider found, traced.request.mono grown,
    fun row member => (traced.rows row member).mono grown, ?_, traced.history.concat known⟩
  intro entry member
  obtain ⟨old, waiting, _, load⟩ := of_mem_answer member
  rw [← load]
  exact (traced.pending old waiting).mono grown

variable [Rust.UnicodeTables]

theorem apply {outcome : SecretPicker × Effects} (traced : s.Traced)
    (done : s.picker.Does outcome) : (s.apply outcome).Traced := by
  obtain ⟨tasks, _, request, _, _, rows⟩ | ⟨request, allowed, picker, tasks⟩ := apply_cases done
  · refine ⟨traced.toRecorded.apply done, ?_, ?_, ?_, traced.history⟩
    · rw [request]
      exact traced.request
    · rw [request, rows]
      exact traced.rows
    · rw [tasks]
      exact traced.pending
  · have known := known_of_opens traced.request traced.rows allowed
    refine ⟨traced.toRecorded.apply done, ?_, ?_, ?_, traced.history⟩
    · rw [picker]
      exact known
    · rw [picker]
      intro row member
      cases member
    · rw [tasks]
      intro entry member
      obtain old | rfl := Pool.mem_spawn.mp member
      · exact traced.pending entry old
      · exact known

/-- A delivered result was an answer to a request of the level on show. -/
theorem deliver {result : ProviderResult (List Row)} (traced : s.Traced)
    (pending : (number, ⟨load, some result⟩) ∈ s.tasks.pending) :
    (s.deliver number load result).Traced := by
  have earlier : ∀ entry ∈ (s.tasks.remove number).pending, entry ∈ s.tasks.pending :=
    fun _ member => (Pool.mem_remove.mp member).1
  have request : (s.deliver number load result).picker.request = s.picker.request ∧
      ∀ row ∈ (s.deliver number load result).picker.rows,
        Origin s.calls s.picker.request row := by
    simp only [System.deliver]
    obtain eq | ⟨_, level, eq⟩ := s.picker.complete_cases load result
    · simp only [eq]
      exact ⟨trivial, traced.rows⟩
    · obtain ⟨call, made, _, asked, held⟩ := traced.answered _ pending result rfl
      simp only [eq]
      cases result with
      | ok rows =>
          refine ⟨rfl, fun row member => ?_⟩
          exact origin_of_result made held ((congrArg LoadRequest.level asked).trans level.symm)
            member
      | error error => exact ⟨rfl, fun row member => by cases member⟩
  refine ⟨traced.toRecorded.deliver, ?_, ?_, ?_, traced.history⟩
  · rw [request.1]
    exact traced.request
  · rw [request.1]
    exact request.2
  · exact fun entry member => traced.pending entry (earlier entry member)

theorem step (traced : s.Traced) (h : s.step event = some t) : t.Traced := by
  obtain ⟨outcome, does, rfl⟩ | ⟨number, load, provider, rfl, found, rfl⟩ |
      ⟨number, load, result, rfl, found, rfl⟩ | ⟨first, count, body, rfl, _, rfl⟩ := step_cases h
  · exact traced.apply does
  · exact traced.answer provider found
  · exact traced.deliver (Pool.mem_of_find found)
  · exact ⟨⟨traced.numbered, traced.answered⟩, traced.request, traced.rows, traced.pending,
      traced.history⟩

theorem run {events : List Event} (run : Run System.step System.start events s) : s.Traced :=
  run.invariant (fun _ _ _ traced h => step traced h) start

end Traced

variable [Rust.UnicodeTables]

/-- Only a field row on show is ever emitted, and emitting it moves nothing. -/
theorem selected_of_does {outcome : SecretPicker × Effects} {reference : SecretReference}
    (done : s.picker.Does outcome) (emitted : .selected reference ∈ outcome.2.emitted) :
    outcome.1.level = s.picker.level ∧
      ∃ field, .field field ∈ s.picker.rows ∧ field.reference = reference := by
  cases done with
  | confirms notFailed visible =>
      obtain rfl := SecretPickerEvent.selected.inj (List.mem_singleton.mp emitted)
      exact ⟨rfl, _, SecretPicker.mem_rows_of_visibleRow visible, rfl⟩
  | cancels _ _ => cases List.mem_singleton.mp emitted
  | nothing => cases emitted
  | opens _ => cases emitted
  | filters _ => cases emitted
  | selects _ => cases emitted

/-- What holds of the ids a picker uses, in one state and in the next step. -/
structure Provenance (s : System) : Prop where
  level : s.picker.level = s.picker.request.level
  rows : ∀ row ∈ s.picker.rows, s.picker.request.Fits row
  request : Known s.calls s.picker.request
  /-- The provider is only asked about what it had listed before. -/
  calls : ∀ front call back, s.calls = front ++ call :: back → Known front call.request
  /-- An item row always has the vault to open it under. -/
  item_row : ∀ item, .item item ∈ s.picker.rows → ∃ vault, s.picker.request = .items vault
  selected : ∀ event t new reference, s.step event = some t → t.emitted = s.emitted ++ new →
    .selected reference ∈ new →
    s.picker.loadState = .ready ∧ t.picker.level = s.picker.level ∧
      ∃ vaultId vaultTitle itemId itemTitle field,
        s.picker.level = .fields vaultId vaultTitle itemId itemTitle ∧
        ListedField s.calls vaultId itemId field ∧ field.reference = reference

/-- Provenance of selected references. Whatever the provider answers and in whatever
order things happen, a picker names only what was listed under its parent, and emits
only references of fields listed under the vault and item it shows. -/
theorem provenance {events : List Event} (run : Run step start events s) : s.Provenance := by
  have traced := Traced.run run
  have consistent := consistent_run run
  refine ⟨consistent.level, fun row member => (traced.rows row member).fits, traced.request,
    traced.history, ?_, ?_⟩
  · intro item listed
    obtain ⟨vault, request, _⟩ := traced.rows _ listed
    exact ⟨vault, request⟩
  · intro event t new reference h grown emitted
    obtain ⟨outcome, does, rfl⟩ | ⟨number, load, provider, rfl, _, rfl⟩ |
        ⟨number, load, result, rfl, _, rfl⟩ | ⟨first, count, body, rfl, _, rfl⟩ := step_cases h
    · obtain rfl := List.append_cancel_left grown
      obtain ⟨level, field, listed, reference⟩ := selected_of_does does emitted
      have ready : s.picker.loadState = .ready := by
        by_contra notReady
        rw [consistent.idle notReady] at listed
        cases listed
      obtain ⟨vault, item, request, origin⟩ := traced.rows _ listed
      refine ⟨ready, level, vault.id, vault.title, item.id, item.title, field, ?_, origin, reference⟩
      rw [consistent.level, request]
      rfl
    -- The other events emit nothing.
    all_goals
      obtain rfl : new = [] := by simpa [answer, deliver] using grown
      cases emitted

end System

section Selecting

local instance selectingTables : Rust.UnicodeTables := .ascii

def pinReference : SecretReference := ⟨"op://v/i/pin", by decide⟩

/-- A provider of one vault with one item with one field. -/
def onePin : SecretProvider where
  vaults := .ok [.new "v" "Vault"]
  items vaultId := .ok [.new vaultId "i" "Item"]
  fields _ _ := .ok [.new "pin" "PIN" pinReference]

/-- Each level is loaded and its only row confirmed. -/
def selectPin : List Event :=
  [.answer 1 onePin, .complete 1, .act .confirm, .answer 2 onePin, .complete 2, .act .confirm,
    .answer 3 onePin, .complete 3]

theorem provenance_selectPin :
    ∃ s t, Run System.step System.start selectPin s ∧ s.Provenance ∧
      s.step (.act .confirm) = some t ∧ t.emitted = [.selected pinReference] := by
  have reached : ∃ s, Run System.step System.start selectPin s ∧
      ∃ t, s.step (.act .confirm) = some t ∧ t.emitted = [.selected pinReference] :=
    ⟨_, .cons rfl (.cons rfl (.cons rfl (.cons rfl (.cons rfl (.cons rfl (.cons rfl
      (.cons rfl (.nil _)))))))), _, rfl, rfl⟩
  obtain ⟨s, run, t, confirmed, emitted⟩ := reached
  exact ⟨s, t, run, System.provenance run, confirmed, emitted⟩

end Selecting

end Picker
