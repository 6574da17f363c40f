import OpGpui.Sdk.Connect

/-!
# A process with any number of clients

An application connects clients, each through the library of its path, clones and drops
their handles and makes calls, in any order. The last handle of a client takes its share of
the library with it. What an application does to the libraries of the process is a run of
`Process` (`projects_process`), and what it does to one client a run of `Session`; so the
invariants of both hold together, and nothing outlives its owner: neither a library nor a
session (`nothing_leaks`).
-/

namespace Sdk

open Serde Rust Shared Machine

/-- A connected client behind its handles, and the library it was connected through. -/
structure LiveClient where
  handle : Handle
  session : Session

structure Application where
  libraries : Libraries
  clients : List LiveClient
  /-- The messages of connections that failed and of clients that are gone. -/
  past : List (List Exchange)
  opened : List PathBuf

inductive ApplicationEvent where
  | connect (builder : DesktopBuilder) (platform : Platform) (answers : Stream' (Result Bytes))
  /-- Something happens to the client at that place. -/
  | use (place : Nat) (event : Event)

namespace Application

def start : Application := ⟨⟨.empty, fun _ => none⟩, [], [], []⟩

/-- The application after a connection. -/
def connected (s : Application) (done : Connected) : Application where
  libraries := done.libraries
  clients :=
    match done.result with
    | .ok connection => ⟨connection.handle, .start connection.client⟩ :: s.clients
    | .error _ => s.clients
  past :=
    match done.result with
    | .ok _ => s.past
    | .error _ => s.past ++ [done.log]
  opened := s.opened ++ done.opened

/-- The application after something has happened to one of its clients. -/
def used (s : Application) (place : Nat) (client : LiveClient) (session : Session) : Application :=
  if session.handles = 0 then
    { s with
      libraries := { s.libraries with heap := s.libraries.heap.drop client.handle.library }
      clients := s.clients.eraseIdx place
      past := s.past ++ [session.inner.transport.log] }
  else { s with clients := s.clients.set place ⟨client.handle, session⟩ }

variable [Codec] [Target]

def step (s : Application) : ApplicationEvent → Option Application
  | .connect builder platform answers =>
      some (s.connected (builder.connect platform s.libraries answers))
  | .use place event =>
      s.clients[place]?.bind fun client =>
        (client.session.step event).map (s.used place client)

variable {s t : Application} {event : ApplicationEvent} {events : List ApplicationEvent}

/-- The same libraries, with the handles of the clients as theirs. -/
structure Owns (s : Application) (process : Process) : Prop where
  libraries : process.libraries = s.libraries
  handles : process.handles = s.clients.map LiveClient.handle
  opened : process.opened = s.opened

theorem projects_step {process : Process} (owns : s.Owns process) (h : s.step event = some t) :
    ∃ events after, Run Process.step process events after ∧ t.Owns after := by
  obtain ⟨libraries, handles, opened⟩ := process
  obtain ⟨rfl, rfl, rfl⟩ := owns
  cases event with
  | connect builder platform answers =>
      obtain rfl := Option.some.inj h
      obtain ⟨error, eq⟩ | ⟨path, ⟨error, failed, eq⟩ | ⟨library, loaded, eq⟩⟩ :=
        connect_cases builder platform s.libraries answers
      · rw [eq]
        exact ⟨[], _, .nil _, ⟨rfl, rfl, (List.append_nil _).symm⟩⟩
      · rw [eq]
        refine ⟨[.load path (platform.openLibrary path)], _, .single rfl, ?_⟩
        simp only [Process.load, failed, Process.load_error failed]
        exact ⟨rfl, rfl, rfl⟩
      · have loads : Process.step ⟨s.libraries, s.clients.map LiveClient.handle, s.opened⟩
            (.load path (platform.openLibrary path)) =
            some ⟨(s.libraries.load path (platform.openLibrary path)).libraries,
              ⟨path, library⟩ :: s.clients.map LiveClient.handle,
              s.opened ++ (s.libraries.load path (platform.openLibrary path)).opened⟩ := by
          simp only [Process.step, Process.load, loaded]
        rw [eq]
        obtain ⟨error, log, _, eq⟩ | ⟨client, _, eq⟩ := connectThrough_cases builder path library
          (s.libraries.load path (platform.openLibrary path)) answers
        -- The library is given back at once.
        · rw [eq]
          exact ⟨[.load path (platform.openLibrary path), .drop 0], _, .cons loads (.single rfl),
            ⟨rfl, rfl, rfl⟩⟩
        · rw [eq]
          exact ⟨[.load path (platform.openLibrary path)], _, .single loads, ⟨rfl, rfl, rfl⟩⟩
  | use place event =>
      obtain ⟨client, found, h⟩ := Option.bind_eq_some_iff.mp h
      obtain ⟨session, _, rfl⟩ := Option.map_eq_some_iff.mp h
      simp only [used]
      split
      · have drops : Process.step ⟨s.libraries, s.clients.map LiveClient.handle, s.opened⟩
            (.drop place) = some (Process.drop ⟨s.libraries, s.clients.map LiveClient.handle, s.opened⟩
              place client.handle) := by
          simp only [Process.step, List.getElem?_map, found, Option.map_some]
        refine ⟨[.drop place], _, .single drops, ⟨rfl, ?_, rfl⟩⟩
        exact List.eraseIdx_map ..
      · obtain ⟨inside, rfl⟩ := List.getElem?_eq_some_iff.mp found
        refine ⟨[], _, .nil _, ⟨rfl, ?_, rfl⟩⟩
        have bound : place < (s.clients.map LiveClient.handle).length := by simpa using inside
        have same := (List.set_getElem_self bound).symm
        rw [List.getElem_map] at same
        rw [List.map_set]
        exact same

/-- What an application does to the libraries is a run of loads and drops. -/
theorem projects_process (run : Run step start events s) :
    ∃ events process, Run Process.step .start events process ∧ s.Owns process :=
  run.stuttering (fun _ _ _ _ owns h => projects_step owns h) ⟨rfl, rfl, rfl⟩

/-- A log that has opened no session and released none, or has released its session with its
last message and no other. -/
def Settled (log : List Exchange) : Prop :=
  (latestSession log = none ∧ ∀ e ∈ log, e.request.kind ≠ "release_client") ∨
    ∃ front last id accountName, log = front ++ [last] ∧
      latestSession front = some id ∧ last.request = releaseRequest accountName id ∧
      ∀ e ∈ front, e.request.kind ≠ "release_client"

omit [Target] in
theorem settled_nil : Settled [] := .inl ⟨rfl, fun _ member => (List.not_mem_nil member).elim⟩

/-- Every client that lives has a handle and a legal history, and every other log is settled. -/
structure Kept (s : Application) : Prop where
  clients : ∀ client ∈ s.clients, client.session.handles ≠ 0 ∧
    ∃ accountName integration, client.session.Kept accountName integration
  past : ∀ log ∈ s.past, Settled log

/-- A client that was just connected has its first handle and its session. -/
theorem Kept.connected (kept : s.Kept) {done : Connected}
    (settled : ∀ error, done.result = .error error → Settled done.log)
    (begins : ∀ connection, done.result = .ok connection → ∃ builder answers,
      (ClientBuilder.connectWithTransport builder (.fresh answers)).1 = .ok connection.client) :
    (s.connected done).Kept := by
  obtain ⟨result, libraries, opened, log⟩ := done
  cases result with
  | error error =>
      refine ⟨kept.clients, ?_⟩
      intro other member
      obtain old | new := List.mem_append.mp member
      · exact kept.past other old
      · rw [List.mem_singleton.mp new]
        exact settled error rfl
  | ok connection =>
      refine ⟨?_, kept.past⟩
      intro client member
      obtain rfl | old := List.mem_cons.mp member
      · obtain ⟨builder, answers, connected⟩ := begins connection rfl
        exact ⟨Nat.one_ne_zero, _, _, (connected_kept connected).2⟩
      · exact kept.clients client old

/-- A client that has lost its last handle has released its session with its last message. -/
theorem Kept.used (kept : s.Kept) {place : Nat} {client : LiveClient} {session : Session}
    {event : Event} (found : s.clients[place]? = some client)
    (h : client.session.step event = some session) : (s.used place client session).Kept := by
  obtain ⟨_, accountName, integration, legal⟩ := kept.clients client (List.mem_of_getElem? found)
  have legal := legal.step h
  simp only [Application.used]
  split
  · rename_i gone
    refine ⟨fun other member => kept.clients other (List.mem_of_mem_eraseIdx member), ?_⟩
    intro log member
    obtain old | new := List.mem_append.mp member
    · exact kept.past log old
    · obtain ⟨front, last, id, sent⟩ := legal.released gone
      rw [List.mem_singleton.mp new]
      exact .inr ⟨front, last, id, accountName, sent⟩
  · rename_i handled
    refine ⟨?_, kept.past⟩
    intro other member
    obtain old | rfl := List.mem_or_eq_of_mem_set member
    · exact kept.clients other old
    · exact ⟨handled, accountName, integration, legal⟩

theorem kept_step (kept : s.Kept) (h : s.step event = some t) : t.Kept := by
  cases event with
  | connect builder platform answers =>
      obtain rfl := Option.some.inj h
      obtain ⟨error, eq⟩ | ⟨path, ⟨error, _, eq⟩ | ⟨library, _, eq⟩⟩ :=
        connect_cases builder platform s.libraries answers
      · rw [eq]
        exact kept.connected (fun _ _ => settled_nil) fun _ impossible => by cases impossible
      · rw [eq]
        exact kept.connected (fun _ _ => settled_nil) fun _ impossible => by cases impossible
      · rw [eq]
        obtain ⟨error, log, none, eq⟩ | ⟨client, connected, eq⟩ := connectThrough_cases builder path
          library (s.libraries.load path (platform.openLibrary path)) answers
        · rw [eq]
          exact kept.connected (fun _ _ => .inl none) fun _ impossible => by cases impossible
        · rw [eq]
          refine kept.connected (fun _ impossible => by cases impossible) ?_
          intro connection same
          obtain rfl := Except.ok.inj same
          exact ⟨builder.toClientBuilder, answers, connected⟩
  | use place event =>
      obtain ⟨client, found, h⟩ := Option.bind_eq_some_iff.mp h
      obtain ⟨session, stepped, rfl⟩ := Option.map_eq_some_iff.mp h
      exact kept.used found stepped

/-- What an application holds is what its clients need. -/
structure Leakless (s : Application) : Prop where
  /-- Clients share a library exactly if their paths have the same components. -/
  shared : ∀ first ∈ s.clients, ∀ second ∈ s.clients, first.handle.library = second.handle.library ↔
    first.handle.path.components = second.handle.path.components
  /-- A library is owned by its clients and by nothing else. -/
  owned : ∀ library, s.libraries.heap.strong library =
    (s.clients.map fun client => client.handle.library).count library
  live : ∀ client ∈ s.clients, client.session.handles ≠ 0 ∧
    ∃ accountName integration, client.session.inner.Legal accountName integration
  past : ∀ log ∈ s.past, Settled log

/-- Nothing outlives its owner. However an application connects clients, with whatever
failures, and uses and drops their handles, its libraries are shared by path and alive
exactly as long as clients hold them, and every client that is gone and every connection
that failed has left no session behind. -/
theorem nothing_leaks (run : Run step start events s) : s.Leakless := by
  obtain ⟨_, process, processRun, libraries, handles, _⟩ := projects_process run
  have sound := Process.Sound.run processRun
  have kept : s.Kept := run.invariant (P := Kept) (fun _ _ _ kept h => kept_step kept h)
    ⟨fun _ member => (List.not_mem_nil member).elim, fun _ member => (List.not_mem_nil member).elim⟩
  have registered : ∀ client ∈ s.clients, process.libraries.registry client.handle.path.components =
      some client.handle.library := by
    intro client live
    exact sound.registered _ (handles ▸ List.mem_map_of_mem live)
  refine ⟨?_, ?_, ?_, kept.past⟩
  · intro first live second live'
    constructor
    · intro same
      exact sound.injective _ _ _ (registered first live) (same ▸ registered second live')
    · intro same
      have entry := registered first live
      rw [same, registered second live'] at entry
      exact (Option.some.inj entry).symm
  · intro library
    rw [← libraries, sound.counted library, handles, List.map_map]
    rfl
  · intro client live
    obtain ⟨handled, accountName, integration, legal⟩ := kept.clients client live
    exact ⟨handled, accountName, integration, legal.legal⟩

end Application

section Sharing

@[reducible] def Target.macos : Target where
  os := "macos"
  arch := "aarch64"

local instance macCodec : Codec := sessionCodec

local instance macTarget : Target := .macos

/-- The library is where the system's applications are, and nothing is resolved. -/
def macPlatform : Platform where
  home := some (.ofString "/Users/example")
  isFile path := path = (PathBuf.ofString "/Applications").join dylibRelativePath
  canonicalize _ := none
  openLibrary _ := .ok Process.fullLibrary

def macBuilder : DesktopBuilder := (DesktopBuilder.builder.desktop "desk").withIntegration "App" "1.0"

/-- A transport that opens session 7 and answers everything after it with nothing. -/
def openingSeven : Stream' (Result Bytes) :=
  .cons (.ok (accepted (serializeU64 7)).toBytes) (.const (.ok []))

/-- Two clients of one library, one of them gone again, and two connections that failed. -/
def sharingClients : List ApplicationEvent :=
  [.connect macBuilder macPlatform openingSeven, .connect .builder macPlatform openingSeven,
    .connect macBuilder macPlatform (.const (.error .channelClosed)),
    .connect macBuilder macPlatform openingSeven, .use 0 .clone, .use 0 (.drop (.const (.ok []))),
    .use 0 (.drop (.const (.ok [])))]

theorem nothing_leaks_sharing : ∃ s, Run Application.step .start sharingClients s ∧
    s.clients.length = 1 ∧ s.past.map List.length = [0, 1, 2] ∧ s.opened.length = 1 ∧ s.Leakless := by
  have reached : (sharingClients.foldlM Application.step .start).any (fun s =>
      s.clients.length = 1 && s.past.map List.length = [0, 1, 2] && s.opened.length = 1) = true := by
    decide +kernel
  obtain ⟨s, folded, holds⟩ := (Option.any_eq_true _ _).mp reached
  simp only [Bool.and_eq_true, decide_eq_true_eq, and_assoc] at holds
  obtain ⟨one, past, opened⟩ := holds
  have run := Run.iff_foldlM.mpr folded
  exact ⟨s, run, one, past, opened, Application.nothing_leaks run⟩

end Sharing

end Sdk
