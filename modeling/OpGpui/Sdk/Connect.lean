import OpGpui.Sdk.Session
import OpGpui.Sdk.Transport

/-!
# Connecting to the desktop app

The whole of `ClientBuilder::connect`: find the library, load it through the registry of
the process, and initialize a client over it. What the platform says on the way is an
argument: the home directory, which files there are, what a path resolves to, and what
comes of opening a library. Whatever fails after the load gives the library back.
-/

namespace Rust.PathBuf

/-- The path of a text. -/
def ofString (text : String) : PathBuf := ⟨text.toList.flatMap String.utf8EncodeChar⟩

/-- `Path::join`: an absolute path replaces the other. -/
def join (path other : PathBuf) : PathBuf :=
  if other.bytes.head? = some 0x2F then other
  else if path.bytes = [] ∨ path.bytes.getLast? = some 0x2F then ⟨path.bytes ++ other.bytes⟩
  else ⟨path.bytes ++ 0x2F :: other.bytes⟩

end Rust.PathBuf

namespace Sdk

open Serde Rust Shared

/-- What a connection asks of the platform. -/
structure Platform where
  home : Option PathBuf
  isFile : PathBuf → Bool
  canonicalize : PathBuf → Option PathBuf
  openLibrary : PathBuf → Except String Library

/-- A builder that may override the discovery of the library. -/
structure DesktopBuilder extends ClientBuilder where
  libraryPath : Option PathBuf

namespace DesktopBuilder

def builder : DesktopBuilder := ⟨⟨none, none⟩, none⟩

/-- Selects an account by its name or UUID. -/
def desktop (builder : DesktopBuilder) (accountName : String) : DesktopBuilder :=
  { builder with accountName := some accountName }

/-- Sets the identity shown to the user. -/
def withIntegration (builder : DesktopBuilder) (name version : String) : DesktopBuilder :=
  { builder with integration := some ⟨name, version⟩ }

def withLibraryPath (builder : DesktopBuilder) (path : PathBuf) : DesktopBuilder :=
  { builder with libraryPath := some path }

end DesktopBuilder

def dylibRelativePath : PathBuf :=
  .ofString "1Password.app/Contents/Frameworks/libop_sdk_ipc_client.dylib"

def libraryCandidates (home : Option PathBuf) : List PathBuf :=
  (PathBuf.ofString "/Applications").join dylibRelativePath ::
    (home.map fun home => (home.join (.ofString "Applications")).join dylibRelativePath).toList

def findLibraryIn (candidates : List PathBuf) (isFile : PathBuf → Bool) : Result PathBuf :=
  match candidates.find? isFile with
  | some candidate => .ok candidate
  | none => .error (.applicationNotFound (candidates.map PathBuf.display))

def findLibraryPath (platform : Platform) : Result PathBuf :=
  findLibraryIn (libraryCandidates platform.home) platform.isFile

/-- The path that was configured, or the one that is discovered. -/
def DesktopBuilder.findPath (builder : DesktopBuilder) (platform : Platform) : Result PathBuf :=
  match builder.libraryPath with
  | some path => .ok path
  | none => findLibraryPath platform

/-- A client with the library it was connected through. -/
structure Connection where
  handle : Handle
  client : ClientInner

/-- The result of a connection, with the libraries after it, the paths it had the platform
open and the messages it sent. -/
structure Connected where
  result : Result Connection
  libraries : Libraries
  opened : List PathBuf
  log : List Exchange

section Connecting

variable [Codec] [Target]

/-- Initialize a client over a library that was just loaded. -/
def DesktopBuilder.connectThrough (builder : DesktopBuilder) (path : PathBuf) (library : Nat)
    (loaded : Loaded) (answers : Stream' (Result Bytes)) : Connected :=
  match builder.connectWithTransport (.fresh answers) with
  | (.error error, transport) =>
      ⟨.error error, { loaded.libraries with heap := loaded.libraries.heap.drop library },
        loaded.opened, transport.log⟩
  | (.ok client, transport) =>
      ⟨.ok ⟨⟨path, library⟩, client⟩, loaded.libraries, loaded.opened, transport.log⟩

def DesktopBuilder.connect (builder : DesktopBuilder) (platform : Platform) (s : Libraries)
    (answers : Stream' (Result Bytes)) : Connected :=
  if Target.os ≠ "macos" then ⟨.error .unsupportedPlatform, s, [], []⟩
  else
    match builder.findPath platform with
    | .error error => ⟨.error error, s, [], []⟩
    | .ok path =>
        let path := (platform.canonicalize path).getD path
        let loaded := s.load path (platform.openLibrary path)
        match loaded.result with
        | .error error => ⟨.error error, loaded.libraries, loaded.opened, []⟩
        | .ok library => builder.connectThrough path library loaded answers

variable {builder : DesktopBuilder} {platform : Platform} {s : Libraries}
  {answers : Stream' (Result Bytes)} {path : PathBuf} {library : Nat} {loaded : Loaded}

/-- A connection ends before its load, with the load, or over the loaded library. -/
theorem connect_cases (builder : DesktopBuilder) (platform : Platform) (s : Libraries)
    (answers : Stream' (Result Bytes)) :
    (∃ error, builder.connect platform s answers = ⟨.error error, s, [], []⟩) ∨
      ∃ path,
        (∃ error, (s.load path (platform.openLibrary path)).result = .error error ∧
          builder.connect platform s answers =
            ⟨.error error, s, (s.load path (platform.openLibrary path)).opened, []⟩) ∨
        ∃ library, (s.load path (platform.openLibrary path)).result = .ok library ∧
          builder.connect platform s answers =
            builder.connectThrough path library (s.load path (platform.openLibrary path)) answers := by
  simp only [DesktopBuilder.connect]
  split
  · exact .inl ⟨_, rfl⟩
  · cases builder.findPath platform with
    | error error => exact .inl ⟨error, rfl⟩
    | ok found =>
        refine .inr ⟨(platform.canonicalize found).getD found, ?_⟩
        cases result : (s.load ((platform.canonicalize found).getD found)
            (platform.openLibrary ((platform.canonicalize found).getD found))).result with
        | error error =>
            refine .inl ⟨error, rfl, ?_⟩
            simp only [result, Process.load_error result]
        | ok library => exact .inr ⟨library, rfl, by simp only [result]⟩

/-- Over a loaded library a client is connected, or the library is given back, and no
session was opened or released. -/
theorem connectThrough_cases (builder : DesktopBuilder) (path : PathBuf) (library : Nat)
    (loaded : Loaded) (answers : Stream' (Result Bytes)) :
    (∃ error log, (latestSession log = none ∧ ∀ e ∈ log, e.request.kind ≠ "release_client") ∧
        builder.connectThrough path library loaded answers = ⟨.error error, { loaded.libraries with heap := loaded.libraries.heap.drop library },
          loaded.opened, log⟩) ∨
      ∃ client, (builder.connectWithTransport (.fresh answers)).1 = .ok client ∧
        builder.connectThrough path library loaded answers =
          ⟨.ok ⟨⟨path, library⟩, client⟩, loaded.libraries, loaded.opened, client.transport.log⟩ := by
  have silent := connect_releases_nothing builder.toClientBuilder answers
  simp only [DesktopBuilder.connectThrough]
  obtain ⟨field, eq⟩ | ⟨accountName, integration, _, _, _, eq⟩ :=
    connectWithTransport_cases builder.toClientBuilder answers
  · rw [eq] at silent ⊢
    exact .inl ⟨_, _, ⟨rfl, silent⟩, rfl⟩
  · rw [eq] at silent ⊢
    cases opened : readSession answers.head with
    | error error =>
        rw [opened] at silent
        refine .inl ⟨error, _, ⟨?_, silent⟩, rfl⟩
        rw [latestSession, List.foldl_cons, List.foldl_nil, advance_init, opened]
    | ok id => exact .inr ⟨_, rfl, rfl⟩

/-- A connection sends nothing, or one `init_client` under its complete configuration. -/
theorem connect_log (builder : DesktopBuilder) (platform : Platform) (s : Libraries)
    (answers : Stream' (Result Bytes)) :
    (builder.connect platform s answers).log = [] ∨ ∃ accountName integration,
      builder.accountName = some accountName ∧ builder.integration = some integration ∧
        (builder.connect platform s answers).log =
          [exchange (initRequest accountName integration) answers.head] := by
  obtain ⟨error, eq⟩ | ⟨path, ⟨error, _, eq⟩ | ⟨library, _, eq⟩⟩ :=
    connect_cases builder platform s answers
  · exact .inl (by rw [eq])
  · exact .inl (by rw [eq])
  · rw [eq, DesktopBuilder.connectThrough]
    obtain ⟨field, eq⟩ | ⟨accountName, integration, named, identified, _, eq⟩ :=
      connectWithTransport_cases builder.toClientBuilder answers
    · exact .inl (by rw [eq]; rfl)
    · refine .inr ⟨accountName, integration, named, identified, ?_⟩
      rw [eq]
      cases readSession answers.head <;> rfl

/-- A connection that succeeds holds the session its only message has opened. -/
theorem connect_ok {connection : Connection}
    (connected : (builder.connect platform s answers).result = .ok connection) :
    ∃ accountName integration id, builder.accountName = some accountName ∧
      builder.integration = some integration ∧ readSession answers.head = .ok id ∧
      connection.client = ⟨⟨answers.tail,
        [exchange (initRequest accountName integration) answers.head]⟩, accountName, integration,
          some id⟩ := by
  obtain ⟨error, eq⟩ | ⟨path, ⟨error, _, eq⟩ | ⟨library, _, eq⟩⟩ :=
    connect_cases builder platform s answers
  · rw [eq] at connected
    cases connected
  · rw [eq] at connected
    cases connected
  · rw [eq, DesktopBuilder.connectThrough] at connected
    obtain ⟨field, eq⟩ | ⟨accountName, integration, named, identified, _, eq⟩ :=
      connectWithTransport_cases builder.toClientBuilder answers
    · rw [eq] at connected
      cases connected
    · rw [eq] at connected
      cases opened : readSession answers.head with
      | error error =>
          rw [opened] at connected
          cases connected
      | ok id =>
          rw [opened] at connected
          obtain rfl := Except.ok.inj connected
          exact ⟨accountName, integration, id, named, identified, rfl, rfl⟩

end Connecting

end Sdk
