import OpGpui.Sdk.Course
import OpGpui.Picker.Fields
import OpGpui.Picker.Row

/-!
# Loads on the SDK's provider

A load that runs on the SDK's own provider is one operation of the client, or none
where an id is refused. What it returns is made from the reply to that operation, and
what it sends is one listing call, with the session renewed at most once.
-/

namespace Picker

open Serde Sdk

section Asking

variable [Codec] [Target] [Rust.UnicodeTables]

namespace OnePasswordProvider

theorem vaults_eq (provider : OnePasswordProvider) :
    provider.vaults.1 =
        (provider.client.vaults.1.map (List.map vaultRow)).mapError ProviderError.ofSdk ∧
      provider.vaults.2.client = provider.client.vaults.2 := by
  simp only [vaults]
  cases provider.client.vaults with
  | mk result client => cases result <;> exact ⟨rfl, rfl⟩

theorem items_eq (provider : OnePasswordProvider) {vaultId : String} {checkedVault : VaultId}
    (vault : Id.new vaultId = .ok checkedVault) :
    (provider.items vaultId).1 =
        ((provider.client.items checkedVault).1.map (List.map itemRow)).mapError
          ProviderError.ofSdk ∧
      (provider.items vaultId).2.client = (provider.client.items checkedVault).2 := by
  simp only [items, vault]
  cases provider.client.items checkedVault with
  | mk result client => cases result <;> exact ⟨rfl, rfl⟩

theorem fields_eq (provider : OnePasswordProvider) {vaultId itemId : String}
    {checkedVault : VaultId} {checkedItem : ItemId} (vault : Id.new vaultId = .ok checkedVault)
    (item : Id.new itemId = .ok checkedItem) :
    (provider.fields vaultId itemId).1 =
        ((provider.client.fields checkedVault checkedItem).1.mapError ProviderError.ofSdk).bind
          (List.mapM (fieldRow checkedVault checkedItem)) ∧
      (provider.fields vaultId itemId).2.client =
        (provider.client.fields checkedVault checkedItem).2 := by
  simp only [fields, vault, item]
  cases provider.client.fields checkedVault checkedItem with
  | mk result client => cases result <;> exact ⟨rfl, rfl⟩

/-- The rows of a listing are those of one decoded item, under ids that were accepted. -/
theorem fields_ok (provider : OnePasswordProvider) {vaultId itemId : String} {rows : List Field}
    (listed : (provider.fields vaultId itemId).1 = .ok rows) :
    ∃ wire, (provider.client.invokeTyped "WireItem" WireItem.deserialize "ItemsGet"
        [("vault_id", .string vaultId), ("item_id", .string itemId)]).1 = .ok wire ∧
      (provider.fields vaultId itemId).2.client = (provider.client.invokeTyped "WireItem"
        WireItem.deserialize "ItemsGet"
        [("vault_id", .string vaultId), ("item_id", .string itemId)]).2 ∧
      List.Forall₂ (fun field row => fieldRow ⟨vaultId⟩ ⟨itemId⟩
        (ClientInner.fieldOverview wire.sections field) = .ok row) wire.fields rows := by
  cases vault : (Id.new vaultId : Result VaultId) with
  | error error => simp [fields, vault] at listed
  | ok checkedVault =>
      cases item : (Id.new itemId : Result ItemId) with
      | error error => simp [fields, vault, item] at listed
      | ok checkedItem =>
          obtain ⟨result, client⟩ := provider.fields_eq vault item
          obtain ⟨_, rfl⟩ := Id.new_eq_ok_iff.mp vault
          obtain ⟨_, rfl⟩ := Id.new_eq_ok_iff.mp item
          rw [result] at listed
          rw [client]
          simp only [ClientInner.fields] at listed ⊢
          split at listed
          · cases listed
          · rename_i wire after read
            refine ⟨wire, by rw [read], by rw [read], ?_⟩
            have mapped := Collect.mapM_eq_ok_iff.mp listed
            rwa [List.forall₂_map_left_iff] at mapped

end OnePasswordProvider

/-- `LoadRequest::run` on the SDK's provider, with the provider it leaves behind. -/
def LoadRequest.ask (request : LoadRequest) (provider : OnePasswordProvider) :
    ProviderResult (List Row) × OnePasswordProvider :=
  match request with
  | .vaults => (provider.vaults.1.map (List.map Row.vault), provider.vaults.2)
  | .items vault =>
      ((provider.items vault.id).1.map (List.map Row.item), (provider.items vault.id).2)
  | .fields vault item =>
      ((provider.fields vault.id item.id).1.map (List.map Row.field),
        (provider.fields vault.id item.id).2)

/-- The result is what the provider would answer in its present state. -/
theorem LoadRequest.ask_fst (request : LoadRequest) (provider : OnePasswordProvider) :
    (request.ask provider).1 = request.run provider.answers := by
  cases request <;> rfl

omit [Codec] [Target] [Rust.UnicodeTables] in
/-- The operation a load comes down to, unless an id is refused. -/
def LoadRequest.operation : LoadRequest → Result Operation
  | .vaults => .ok .vaults
  | .items vault => do
      let vaultId ← Id.new vault.id
      return .items vaultId
  | .fields vault item => do
      let vaultId ← Id.new vault.id
      let itemId ← Id.new item.id
      return .fields vaultId itemId

omit [Codec] [Target] [Rust.UnicodeTables] in
theorem LoadRequest.operation_items_eq_ok_iff {vault : Vault} {operation : Operation} :
    (items vault).operation = .ok operation ↔
      ∃ vaultId, (Id.new vault.id : Result VaultId) = .ok vaultId ∧ .items vaultId = operation := by
  simp only [LoadRequest.operation]
  cases (Id.new vault.id : Result VaultId) <;> simp [bind, Except.bind, pure, Except.pure]

omit [Codec] [Target] [Rust.UnicodeTables] in
theorem LoadRequest.operation_fields_eq_ok_iff {vault : Vault} {item : Item}
    {operation : Operation} :
    (fields vault item).operation = .ok operation ↔
      ∃ vaultId itemId, (Id.new vault.id : Result VaultId) = .ok vaultId ∧
        (Id.new item.id : Result ItemId) = .ok itemId ∧ .fields vaultId itemId = operation := by
  simp only [LoadRequest.operation]
  cases (Id.new vault.id : Result VaultId) <;> cases (Id.new item.id : Result ItemId) <;>
    simp [bind, Except.bind, pure, Except.pure]

/-- A refused id is reported without a message. -/
theorem LoadRequest.ask_refused {request : LoadRequest} {provider : OnePasswordProvider}
    {error : Sdk.Error} (refused : request.operation = .error error) :
    request.ask provider = (.error (.ofSdk error), provider) := by
  cases request with
  | vaults => cases refused
  | items vault =>
      simp only [operation] at refused
      cases checked : (Id.new vault.id : Result VaultId) with
      | error reason =>
          obtain rfl := Except.error.inj (checked ▸ refused)
          simp [ask, OnePasswordProvider.items, checked, Except.map]
      | ok vaultId =>
          rw [checked] at refused
          cases refused
  | fields vault item =>
      simp only [operation] at refused
      cases vaultChecked : (Id.new vault.id : Result VaultId) with
      | error reason =>
          obtain rfl := Except.error.inj (vaultChecked ▸ refused)
          simp [ask, OnePasswordProvider.fields, vaultChecked, Except.map]
      | ok vaultId =>
          rw [vaultChecked] at refused
          cases checked : (Id.new item.id : Result ItemId) with
          | error reason =>
              obtain rfl := Except.error.inj (checked ▸ refused)
              simp [ask, OnePasswordProvider.fields, vaultChecked, checked, Except.map]
          | ok itemId =>
              rw [checked] at refused
              cases refused

/-- Otherwise the client performs that operation. -/
theorem LoadRequest.ask_client {request : LoadRequest} {provider : OnePasswordProvider}
    {operation : Operation} (accepted : request.operation = .ok operation) :
    (request.ask provider).2.client = (operation.perform provider.client).2 := by
  cases request with
  | vaults =>
      obtain rfl := Except.ok.inj accepted
      exact (provider.vaults_eq).2
  | items vault =>
      obtain ⟨vaultId, checked, rfl⟩ := operation_items_eq_ok_iff.mp accepted
      exact (provider.items_eq checked).2
  | fields vault item =>
      obtain ⟨vaultId, itemId, vaultChecked, checked, rfl⟩ := operation_fields_eq_ok_iff.mp accepted
      exact (provider.fields_eq vaultChecked checked).2

/-- The result is made from the reply to that operation alone. -/
theorem LoadRequest.ask_congr {request : LoadRequest} {provider other : OnePasswordProvider}
    {operation : Operation} (accepted : request.operation = .ok operation)
    (same : (operation.perform provider.client).1 = (operation.perform other.client).1) :
    (request.ask provider).1 = (request.ask other).1 := by
  cases request with
  | vaults =>
      obtain rfl := Except.ok.inj accepted
      simp only [ask, OnePasswordProvider.vaults_eq, Reply.vaults.inj same]
  | items vault =>
      obtain ⟨vaultId, checked, rfl⟩ := operation_items_eq_ok_iff.mp accepted
      simp only [ask, OnePasswordProvider.items_eq _ checked, Reply.items.inj same]
  | fields vault item =>
      obtain ⟨vaultId, itemId, vaultChecked, checked, rfl⟩ := operation_fields_eq_ok_iff.mp accepted
      simp only [ask, OnePasswordProvider.fields_eq _ vaultChecked checked, Reply.fields.inj same]

/-- A closed client refuses every load, and is left as it was. -/
theorem LoadRequest.ask_closed (request : LoadRequest) {provider : OnePasswordProvider}
    (closed : provider.client.clientId = none) :
    (request.ask provider).2.client = provider.client ∧
      ∃ error, (request.ask provider).1 = .error (.ofSdk error) ∧
        (error = .clientClosed ∨ request.operation = .error error) := by
  cases accepted : request.operation with
  | error error =>
      rw [ask_refused accepted]
      exact ⟨rfl, error, rfl, .inr rfl⟩
  | ok operation =>
      have unsent := ClientInner.perform_closed operation closed
      refine ⟨by rw [ask_client accepted, unsent], .clientClosed, ?_, .inl rfl⟩
      cases request with
      | vaults =>
          obtain rfl := Except.ok.inj accepted
          have replied := Reply.vaults.inj (congrArg Prod.fst unsent)
          simp only [ask, OnePasswordProvider.vaults_eq, replied]
          rfl
      | items vault =>
          obtain ⟨vaultId, checked, rfl⟩ := operation_items_eq_ok_iff.mp accepted
          have replied := Reply.items.inj (congrArg Prod.fst unsent)
          simp only [ask, OnePasswordProvider.items_eq _ checked, replied]
          rfl
      | fields vault item =>
          obtain ⟨vaultId, itemId, vaultChecked, checked, rfl⟩ :=
            operation_fields_eq_ok_iff.mp accepted
          have replied := Reply.fields.inj (congrArg Prod.fst unsent)
          simp only [ask, OnePasswordProvider.fields_eq _ vaultChecked checked, replied]
          rfl

omit [Codec] [Target] [Rust.UnicodeTables] in
/-- The method a load invokes, with its parameters. -/
def LoadRequest.invocation : LoadRequest → String × List (String × Json)
  | .vaults => ("VaultsList", [("params", .null)])
  | .items vault => ("ItemsList", [("vault_id", .string vault.id), ("filters", .array [])])
  | .fields vault item =>
      ("ItemsGet", [("vault_id", .string vault.id), ("item_id", .string item.id)])

omit [Codec] [Target] [Rust.UnicodeTables] in
theorem LoadRequest.invocation_operation {request : LoadRequest} {operation : Operation}
    (accepted : request.operation = .ok operation) :
    operation.invocation = some request.invocation := by
  cases request with
  | vaults =>
      obtain rfl := Except.ok.inj accepted
      rfl
  | items vault =>
      obtain ⟨vaultId, checked, rfl⟩ := operation_items_eq_ok_iff.mp accepted
      obtain ⟨_, rfl⟩ := Id.new_eq_ok_iff.mp checked
      rfl
  | fields vault item =>
      obtain ⟨vaultId, itemId, vaultChecked, checked, rfl⟩ := operation_fields_eq_ok_iff.mp accepted
      obtain ⟨_, rfl⟩ := Id.new_eq_ok_iff.mp vaultChecked
      obtain ⟨_, rfl⟩ := Id.new_eq_ok_iff.mp checked
      rfl

omit [Rust.UnicodeTables] in
/-- Messages that make one request for metadata, and renew the session at most once. -/
structure Discreet (accountName : String) (integration : IntegrationInfo) (request : LoadRequest)
    (sent : List Exchange) : Prop where
  few : sent.length ≤ 3
  only : ∀ e ∈ sent, e.request = initRequest accountName integration ∨
    ∃ id, e.request = invokeRequest accountName id request.invocation.1 request.invocation.2

/-- A load keeps the identity of the client, and adds discreet messages only. -/
theorem LoadRequest.ask_sends (request : LoadRequest) (provider : OnePasswordProvider) :
    (request.ask provider).2.client.accountName = provider.client.accountName ∧
      (request.ask provider).2.client.integration = provider.client.integration ∧
      ∃ sent, (request.ask provider).2.client.transport.log = provider.client.transport.log ++ sent ∧
        Discreet provider.client.accountName provider.client.integration request sent := by
  cases accepted : request.operation with
  | error error =>
      rw [ask_refused accepted]
      exact ⟨rfl, rfl, [], (List.append_nil _).symm, Nat.zero_le _, fun e member => by cases member⟩
  | ok operation =>
      rw [ask_client accepted, Operation.perform_invocation (invocation_operation accepted)]
      obtain ⟨account, identity, sent, log, course⟩ :=
        provider.client.invokeBytes_course request.invocation.1 request.invocation.2
      exact ⟨account, identity, sent, log, course.length_le, course.request⟩

/-- A load does not close the client. -/
theorem LoadRequest.ask_open (request : LoadRequest) {provider : OnePasswordProvider}
    (held : provider.client.clientId ≠ none) : (request.ask provider).2.client.clientId ≠ none := by
  cases accepted : request.operation with
  | error error =>
      rw [ask_refused accepted]
      exact held
  | ok operation =>
      rw [ask_client accepted, Operation.perform_invocation (invocation_operation accepted)]
      obtain ⟨_, _, _, _, course⟩ :=
        provider.client.invokeBytes_course request.invocation.1 request.invocation.2
      exact course.stays_open held

end Asking

end Picker
