import OpGpui.Demo.Options
import OpGpui.Picker.Reach

/-!
# The demo

Its arguments decide between a built-in catalogue and the desktop app (`provider`). Then
it shows a picker, subscribes to what the picker emits, and puts the last reference and a
status next to it. With the built-in catalogue it never shows an error, since the catalogue
has everything that it lists (`mock_demo`).
-/

namespace GpuiDemo

open Serde Sdk Machine

/-- Where the rows come from. -/
inductive Backend where
  | mock
  | onePassword (connection : Connection)

/-- What the demo starts with, and what it has done to get there. -/
structure Started where
  result : Except Stop (Backend × String)
  libraries : Libraries
  log : List Exchange

section Starting

variable [Codec] [Target] [Rust.UnicodeTables]

/-- The builder of an account, under the demo's own name. -/
def desktopBuilder (account : String) (library : Option Rust.PathBuf) : DesktopBuilder :=
  let builder := (DesktopBuilder.builder.desktop account).withIntegration "op-gpui-demo" "0.1.0"
  match library with
  | some path => builder.withLibraryPath path
  | none => builder

def provider (arguments : List String) (platform : Platform) (s : Libraries)
    (answers : Stream' (Result Bytes)) : Started :=
  match options arguments with
  | .error stop => ⟨.error stop, s, []⟩
  | .ok options =>
      match options.account with
      | none => ⟨.ok (.mock, "mock catalogue"), s, []⟩
      | some account =>
          let connected := (desktopBuilder account options.library).connect platform s answers
          match connected.result with
          | .error error =>
              ⟨.error (.message ("Couldn’t connect to 1Password: " ++ error.toString)),
                connected.libraries, connected.log⟩
          | .ok connection =>
              ⟨.ok (.onePassword connection, "1Password · " ++ account), connected.libraries,
                connected.log⟩

omit [Codec] [Target] [Rust.UnicodeTables] in
@[simp] theorem desktopBuilder_accountName (account : String) (library : Option Rust.PathBuf) :
    (desktopBuilder account library).accountName = some account := by
  cases library <;> rfl

omit [Codec] [Target] [Rust.UnicodeTables] in
@[simp] theorem desktopBuilder_integration (account : String) (library : Option Rust.PathBuf) :
    (desktopBuilder account library).integration = some ⟨"op-gpui-demo", "0.1.0"⟩ := by
  cases library <;> rfl

/-- Starting the demo is discreet. It loads and sends nothing unless its arguments are
settings that leave an account named, and then sends at most one message, an `init_client`
under that account and the demo's own name. -/
theorem provider_discreet (arguments : List String) (platform : Platform) (s : Libraries)
    (answers : Stream' (Result Bytes)) :
    ((provider arguments platform s answers).libraries = s ∧
        (provider arguments platform s answers).log = []) ∨
      ∃ (settings : List Setting) (account : String), arguments = settings.flatMap Setting.words ∧
        (settings.foldl Setting.apply ⟨none, none⟩).account = some account ∧
        ((provider arguments platform s answers).log = [] ∨
          (provider arguments platform s answers).log =
            [exchange (initRequest account ⟨"op-gpui-demo", "0.1.0"⟩) answers.head]) := by
  cases read : options arguments with
  | error stop => exact .inl (by simp only [provider, read, and_self])
  | ok options =>
      cases named : options.account with
      | none => exact .inl (by simp only [provider, read, named, and_self])
      | some account =>
          have log : (provider arguments platform s answers).log =
              ((desktopBuilder account options.library).connect platform s answers).log := by
            simp only [provider, read, named]
            cases ((desktopBuilder account options.library).connect platform s answers).result <;> rfl
          obtain ⟨settings, rfl⟩ | ⟨settings, rest, stop, rfl, stops⟩ := readable none none arguments
          · rw [options_settings] at read
            obtain rfl := Except.ok.inj read
            refine .inr ⟨settings, account, rfl, named, ?_⟩
            rw [log]
            obtain silent | ⟨_, _, same, own, sent⟩ := connect_log (desktopBuilder account _) platform s answers
            · exact .inl silent
            · obtain rfl := Option.some.inj ((desktopBuilder_accountName ..).symm.trans same)
              obtain rfl := Option.some.inj ((desktopBuilder_integration ..).symm.trans own)
              exact .inr sent
          · rw [options_stops settings stops] at read
            cases read

end Starting

section Mock

variable [Rust.UnicodeTables]

open Picker

def field (vaultId itemId fieldId title kind : String) : ProviderResult Field :=
  match SecretReference.parse ("op://" ++ vaultId ++ "/" ++ itemId ++ "/" ++ fieldId) with
  | .error error => .error (.ofSdk error)
  | .ok reference => .ok ((Field.new fieldId title reference).withKind kind)

namespace MockProvider

def vaults : ProviderResult (List Vault) := .ok [
  ((Vault.new "personal" "Personal").withDescription "Private credentials").withActiveItemCount 2,
  ((Vault.new "engineering" "Engineering").withDescription "Shared services").withActiveItemCount 2]

def items (vaultId : String) : ProviderResult (List Item) :=
  if vaultId = "personal" then .ok [
    (Item.new vaultId "email" "Email account").withCategory "Login",
    (Item.new vaultId "router" "Home router").withCategory "Password"]
  else if vaultId = "engineering" then .ok [
    (Item.new vaultId "database" "Production database").withCategory "Database",
    (Item.new vaultId "deploy" "Deployment token").withCategory "API credential"]
  else .error ⟨"Unknown vault: " ++ vaultId⟩

def fields (vaultId itemId : String) : ProviderResult (List Field) :=
  if vaultId = "personal" ∧ itemId = "email" then do
    let username ← field vaultId itemId "username" "Username" "string"
    let password ← field vaultId itemId "password" "Password" "concealed"
    return [username, password]
  else if vaultId = "personal" ∧ itemId = "router" then do
    let password ← field vaultId itemId "password" "Admin password" "concealed"
    return [password]
  else if vaultId = "engineering" ∧ itemId = "database" then do
    let host ← field vaultId itemId "host" "Host" "string"
    let password ← field vaultId itemId "password" "Password" "concealed"
    return [host.withSectionTitle "Connection", password.withSectionTitle "Credentials"]
  else if vaultId = "engineering" ∧ itemId = "deploy" then do
    let credential ← field vaultId itemId "credential" "Credential" "concealed"
    return [credential]
  else .error ⟨"Unknown item: " ++ vaultId ++ "/" ++ itemId⟩

end MockProvider

def mockProvider : SecretProvider := ⟨MockProvider.vaults, MockProvider.items, MockProvider.fields⟩

/-- The text of a reference that is accepted makes a field. -/
theorem exists_field (vaultId itemId fieldId title kind : String)
    (accepted : (SecretReference.parse ("op://" ++ vaultId ++ "/" ++ itemId ++ "/" ++ fieldId)).isOk) :
    ∃ row, field vaultId itemId fieldId title kind = .ok row := by
  simp only [field]
  cases parsed : SecretReference.parse ("op://" ++ vaultId ++ "/" ++ itemId ++ "/" ++ fieldId) with
  | error error => simp [parsed, Except.isOk, Except.toBool] at accepted
  | ok reference => exact ⟨_, rfl⟩

/-- The four items of the catalogue, each under its vault. -/
def mockItems : List (String × String) :=
  [("personal", "email"), ("personal", "router"), ("engineering", "database"), ("engineering", "deploy")]

theorem mock_fields {vaultId itemId : String} (known : (vaultId, itemId) ∈ mockItems) :
    ∃ fields, MockProvider.fields vaultId itemId = .ok fields := by
  simp only [mockItems, List.mem_cons, Prod.mk.injEq, List.not_mem_nil, or_false] at known
  obtain ⟨rfl, rfl⟩ | ⟨rfl, rfl⟩ | ⟨rfl, rfl⟩ | ⟨rfl, rfl⟩ := known
  · obtain ⟨username, named⟩ := exists_field "personal" "email" "username" "Username" "string"
      (by decide +kernel)
    obtain ⟨password, concealed⟩ := exists_field "personal" "email" "password" "Password" "concealed"
      (by decide +kernel)
    exact ⟨[username, password], by simp [MockProvider.fields, named, concealed, pure, Except.pure, bind, Except.bind]⟩
  · obtain ⟨password, concealed⟩ := exists_field "personal" "router" "password" "Admin password"
      "concealed" (by decide +kernel)
    exact ⟨[password], by simp [MockProvider.fields, concealed, pure, Except.pure, bind, Except.bind]⟩
  · obtain ⟨host, named⟩ := exists_field "engineering" "database" "host" "Host" "string"
      (by decide +kernel)
    obtain ⟨password, concealed⟩ := exists_field "engineering" "database" "password" "Password"
      "concealed" (by decide +kernel)
    exact ⟨[host.withSectionTitle "Connection", password.withSectionTitle "Credentials"],
      by simp [MockProvider.fields, named, concealed, pure, Except.pure, bind, Except.bind]⟩
  · obtain ⟨credential, concealed⟩ := exists_field "engineering" "deploy" "credential" "Credential"
      "concealed" (by decide +kernel)
    exact ⟨[credential], by simp [MockProvider.fields, concealed, pure, Except.pure, bind, Except.bind]⟩

omit [Rust.UnicodeTables] in
theorem mock_vaults {vaults : List Vault} (listed : MockProvider.vaults = .ok vaults) :
    ∀ vault ∈ vaults, vault.id ∈ ["personal", "engineering"] := by
  obtain rfl := Except.ok.inj listed
  decide

omit [Rust.UnicodeTables] in
theorem mock_items {vaultId : String} (known : vaultId ∈ ["personal", "engineering"]) :
    ∃ items, MockProvider.items vaultId = .ok items ∧
      ∀ item ∈ items, (vaultId, item.id) ∈ mockItems := by
  simp only [List.mem_cons, List.not_mem_nil, or_false] at known
  obtain rfl | rfl := known
  · exact ⟨_, rfl, by decide⟩
  · exact ⟨_, rfl, by decide⟩

/-- Where a picker of the catalogue can be. -/
def MockNode : LoadRequest → Prop
  | .vaults => True
  | .items vault => vault.id ∈ ["personal", "engineering"]
  | .fields vault item => (vault.id, item.id) ∈ mockItems

theorem mock_within {node : LoadRequest} (within : (catalogue mockProvider).Within node) :
    MockNode node := by
  induction within with
  | root => trivial
  | @child node child entries entry _ listed member leads ih =>
      cases node with
      | vaults =>
          have listed : LoadRequest.vaults.run mockProvider = .ok entries := listed
          obtain ⟨vaults, answered, rfl⟩ := LoadRequest.run_vaults_eq_ok_iff.mp listed
          obtain ⟨vault, inside, rfl⟩ := List.mem_map.mp member
          obtain rfl := Sum.inl.inj (Option.some.inj leads)
          exact mock_vaults answered vault inside
      | items vault =>
          have listed : (LoadRequest.items vault).run mockProvider = .ok entries := listed
          obtain ⟨items, answered, rfl⟩ := LoadRequest.run_items_eq_ok_iff.mp listed
          obtain ⟨item, inside, rfl⟩ := List.mem_map.mp member
          obtain rfl := Sum.inl.inj (Option.some.inj leads)
          obtain ⟨known, has, places⟩ := mock_items ih
          obtain rfl := Except.ok.inj (has.symm.trans answered)
          exact places item inside
      | fields vault item =>
          have listed : (LoadRequest.fields vault item).run mockProvider = .ok entries := listed
          obtain ⟨fields, _, rfl⟩ := LoadRequest.run_fields_eq_ok_iff.mp listed
          obtain ⟨field, _, rfl⟩ := List.mem_map.mp member
          cases leads
  | @parent node parent _ above ih =>
      cases node with
      | vaults => cases above
      | items vault =>
          obtain rfl := Option.some.inj above
          trivial
      | fields vault item =>
          obtain rfl := Option.some.inj above
          simp only [MockNode, mockItems, List.mem_cons, Prod.mk.injEq, List.not_mem_nil, or_false] at ih ⊢
          obtain ⟨same, _⟩ | ⟨same, _⟩ | ⟨same, _⟩ | ⟨same, _⟩ := ih <;> simp [same]

/-- The catalogue has everything that it lists. -/
theorem mock_obliging : (catalogue mockProvider).Obliging := by
  intro node within
  have known := mock_within within
  cases node with
  | vaults => exact ⟨_, rfl⟩
  | items vault =>
      obtain ⟨items, has, _⟩ := mock_items known
      exact ⟨_, LoadRequest.run_items_eq_ok_iff.mpr ⟨items, has, rfl⟩⟩
  | fields vault item =>
      obtain ⟨fields, has⟩ := mock_fields known
      exact ⟨_, LoadRequest.run_fields_eq_ok_iff.mpr ⟨fields, has, rfl⟩⟩

end Mock

/-- The window: the picker with its loads, and what is shown around it. -/
structure Demo where
  system : Picker.System
  source : String
  selected : Option SecretReference
  status : String

namespace Demo

open Picker

def new (source : String) : Demo :=
  ⟨.start, source, none, "Navigate with the keyboard or pointer"⟩

/-- The subscription to the picker. -/
def hear (demo : Demo) : SecretPickerEvent → Demo
  | .selected reference =>
      { demo with
        selected := some reference
        status := "Reference selected; plaintext was not loaded" }
  | .cancelRequested => { demo with status := "Cancel requested at the vault list" }

/-- What is painted below the picker. -/
def selectedText (demo : Demo) : String :=
  match demo.selected with
  | some reference => reference.asStr
  | none => "No reference selected"

/-- The events the picker has emitted since are heard before anything else happens. -/
def follow (demo : Demo) (system : System) : Demo :=
  (system.emitted.drop demo.system.emitted.length).foldl hear { demo with system }

/-- Hearing leaves the picker alone. -/
theorem foldl_hear (demo : Demo) (system : System) (heard : List SecretPickerEvent) :
    heard.foldl hear { demo with system } = { heard.foldl hear demo with system } := by
  induction heard generalizing demo with
  | nil => rfl
  | cons event heard ih =>
      rw [List.foldl_cons, List.foldl_cons, ← ih]
      cases event <;> rfl

@[simp] theorem follow_system (demo : Demo) (system : System) : (demo.follow system).system = system := by
  rw [follow, foldl_hear]

/-- The demo shows what it has heard since the beginning. -/
def Heard (source : String) (demo : Demo) : Prop :=
  demo = { demo.system.emitted.foldl hear (new source) with system := demo.system }

theorem Heard.follow {source : String} {demo : Demo} {system : System} (heard : demo.Heard source)
    (grows : demo.system.emitted <+: system.emitted) : (demo.follow system).Heard source := by
  obtain ⟨emitted, grown⟩ := grows
  have fresh : system.emitted.drop demo.system.emitted.length = emitted := by
    rw [← grown, List.drop_left]
  rw [Heard, follow_system, Demo.follow, fresh, foldl_hear, ← grown, List.foldl_append]
  rw [heard, foldl_hear]

variable [Rust.UnicodeTables]

def step (demo : Demo) (event : Picker.Event) : Option Demo :=
  (demo.system.step event).map demo.follow

variable {demo next : Demo} {events : List Picker.Event}

theorem run_system (run : Run step demo events next) : Run System.step demo.system events next.system := by
  induction run with
  | nil => exact .nil _
  | cons head _ ih =>
      obtain ⟨system, stepped, rfl⟩ := Option.map_eq_some_iff.mp head
      rw [follow_system] at ih
      exact .cons stepped ih

theorem Heard.run {source : String} (run : Run step (new source) events demo) : demo.Heard source := by
  refine run.invariant (P := Heard source) ?_ rfl
  intro before event after heard h
  obtain ⟨system, stepped, rfl⟩ := Option.map_eq_some_iff.mp h
  obtain ⟨emitted, grown⟩ := System.emitted_grows stepped
  exact heard.follow ⟨emitted, grown.symm⟩

/-- The reference an event selects. -/
def chosen : SecretPickerEvent → Option SecretReference
  | .selected reference => some reference
  | .cancelRequested => none

omit [Rust.UnicodeTables] in
/-- Cancelling does not take back what was selected. -/
theorem foldl_hear_selected (source : String) (heard : List SecretPickerEvent) :
    (heard.foldl hear (new source)).selected = (heard.filterMap chosen).getLast? := by
  induction heard using List.reverseRecOn with
  | nil => rfl
  | append_singleton heard event ih =>
      rw [List.foldl_append, List.filterMap_append]
      cases event with
      | selected reference => simp [hear, chosen]
      | cancelRequested => simpa [hear, chosen] using ih

omit [Rust.UnicodeTables] in
/-- The source on show does not change. -/
theorem Heard.source {source : String} (heard : demo.Heard source) : demo.source = source := by
  have kept : ∀ (heard : List SecretPickerEvent) (demo : Demo),
      (heard.foldl hear demo).source = demo.source := by
    intro heard
    induction heard with
    | nil => exact fun _ => rfl
    | cons event heard ih =>
        intro demo
        rw [List.foldl_cons, ih]
        cases event <;> rfl
  exact (congrArg Demo.source heard).trans (kept _ _)

omit [Rust.UnicodeTables] in
/-- The reference on show is the last one that was selected. -/
theorem Heard.selected {source : String} (heard : demo.Heard source) :
    demo.selected = (demo.system.emitted.filterMap chosen).getLast? := by
  have same := congrArg Demo.selected heard
  rw [← foldl_hear_selected source]
  exact same

/-- The demo on its catalogue. Whatever is pressed and clicked, and whenever its loads are
answered and delivered, it never shows an error, and the reference it shows is the last one
that was selected and one that the catalogue has. -/
theorem mock_demo {source : String} (run : Run step (new source) events demo)
    (alike : ∀ number other, .answer number other ∈ events → other = mockProvider) :
    (∀ error, demo.system.picker.loadState ≠ .failed error) ∧
    demo.selected = (demo.system.emitted.filterMap chosen).getLast? ∧
    ∀ reference, demo.selected = some reference → mockProvider.Offers reference := by
  have picked := run_system run
  obtain ⟨moves, reader, moved, shows⟩ :=
    Shows.run_moves picked Shows.start System.Traced.start alike
  have selected := (Heard.run run).selected
  refine ⟨fun error => shows.unfailing mock_obliging moved error, selected, ?_⟩
  intro reference shown
  rw [selected] at shown
  obtain ⟨event, emitted, same⟩ := List.mem_filterMap.mp (List.mem_of_getLast? shown)
  cases event with
  | selected other =>
      obtain rfl := Option.some.inj same
      exact offers_of_emitted picked alike emitted
  | cancelRequested => cases same

end Demo

section Trying

open Picker

local instance tryingTables : Rust.UnicodeTables := .ascii

/-- The first row is confirmed three times, and then Escape pressed until it cancels. -/
def trying : List Picker.Event :=
  [.answer 1 mockProvider, .complete 1, .act .confirm, .answer 2 mockProvider, .complete 2,
    .act .confirm, .answer 3 mockProvider, .complete 3, .act .confirm, .act .cancel, .act .cancel,
    .act .cancel]

theorem trying_alike (number : Nat) (other : SecretProvider)
    (member : .answer number other ∈ trying) : other = mockProvider := by
  simp only [trying, List.mem_cons, Event.answer.injEq, reduceCtorEq, List.not_mem_nil, false_or,
    or_false] at member
  obtain ⟨_, same⟩ | ⟨_, same⟩ | ⟨_, same⟩ := member <;> exact same

theorem mock_demo_trying : ∃ demo, Run Demo.step (.new "mock catalogue") trying demo ∧
    demo.selectedText = "op://personal/email/username" ∧
    demo.status = "Cancel requested at the vault list" ∧
    ∀ error, demo.system.picker.loadState ≠ .failed error := by
  have reached : (trying.foldlM Demo.step (.new "mock catalogue")).any (fun demo : Demo =>
      demo.selectedText = "op://personal/email/username" &&
        demo.status = "Cancel requested at the vault list") = true := by
    decide +kernel
  obtain ⟨demo, folded, holds⟩ := (Option.any_eq_true _ _).mp reached
  simp only [Bool.and_eq_true, decide_eq_true_eq] at holds
  obtain ⟨shown, status⟩ := holds
  have run := Run.iff_foldlM.mpr folded
  exact ⟨demo, run, shown, status, (Demo.mock_demo run trying_alike).1⟩

end Trying

end GpuiDemo
