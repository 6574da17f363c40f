import Mathlib.Logic.Function.Basic
import OpGpui.Library.Run
import OpGpui.Library.Shared
import OpGpui.Sdk.Error

/-!
# Loading the desktop library

The registry of loaded libraries, which is shared by the whole process. It keeps weak
references only, so an entry may be absent, dead or alive; a library lives as long as
one of the handles that `load` returned. What the platform does is an argument of the
load: the message of a failed opening, or a library with its symbols. Calls through a
library are not modelled here.

`Sound` ties the registry to the live handles, in every order of loads and drops: the
entry of a path is alive exactly while a handle of that path is, and it is the library
of that handle (`Process.Sound.yields_iff`).
-/

namespace Rust

/-- A path of the platform, as its bytes. -/
structure PathBuf where
  bytes : List UInt8
  deriving DecidableEq

/-- A component of a path. -/
inductive Component where
  | rootDir
  | curDir
  | parentDir
  | normal (name : List UInt8)
  deriving DecidableEq

namespace PathBuf

/-- What stands between two separators. Nothing and a single dot are no components. -/
def component (part : List UInt8) : Option Component :=
  if part = [] ∨ part = [0x2E] then none
  else if part = [0x2E, 0x2E] then some .parentDir
  else some (.normal part)

/-- `Path::components`. A dot counts only at the beginning. Two paths are equal if their
components are. -/
def components (path : PathBuf) : List Component :=
  match path.bytes.splitOn 0x2F with
  | [] :: parts =>
      (if path.bytes = [] then [] else [.rootDir]) ++ parts.filterMap component
  | [0x2E] :: parts => .curDir :: parts.filterMap component
  | parts => parts.filterMap component

/-- `Path::display`. -/
def display (path : PathBuf) : String := fromUtf8Lossy path.bytes

end PathBuf

end Rust

namespace Sdk

open Rust Shared Machine

/-- An opened library: the address of each symbol, or the message of a failed lookup. -/
structure Library where
  get : String → Except String Nat

structure DynamicLibrary where
  library : Library
  sendMessage : Nat
  freeResponse : Nat

/-- The live and dead libraries of the process, and the weak references of the registry. -/
structure Libraries where
  heap : Heap DynamicLibrary
  registry : List Component → Option Nat

/-- The result of a load, with the libraries after it and the paths it opened anew. -/
structure Loaded where
  result : Result Nat
  libraries : Libraries
  opened : List PathBuf

/-- Opening a library and looking up its symbols. -/
def openLibrary (path : PathBuf) (opening : Except String Library) : Result DynamicLibrary :=
  match opening with
  | .error message => .error (.libraryLoad path.display message)
  | .ok library =>
      match library.get "op_sdk_ipc_send_message\x00" with
      | .error message => .error (.missingSymbol "op_sdk_ipc_send_message" message)
      | .ok sendMessage =>
          match library.get "op_sdk_ipc_free_response\x00" with
          | .error message => .error (.missingSymbol "op_sdk_ipc_free_response" message)
          | .ok freeResponse => .ok { library, sendMessage, freeResponse }

namespace Libraries

/-- The entry of a path as an owner of its library, if it is alive. -/
def upgrade (s : Libraries) (path : PathBuf) : Option (Nat × Heap DynamicLibrary) :=
  (s.registry path.components).bind fun library =>
    (s.heap.upgrade library).map fun heap => (library, heap)

def load (s : Libraries) (path : PathBuf) (opening : Except String Library) : Loaded :=
  match s.upgrade path with
  | some (library, heap) => ⟨.ok library, { s with heap }, []⟩
  | none =>
      match openLibrary path opening with
      | .error error => ⟨.error error, s, [path]⟩
      | .ok loaded =>
          let (library, heap) := s.heap.new loaded
          ⟨.ok library, ⟨heap, Function.update s.registry path.components (some library)⟩, [path]⟩

/-- The library a load of the path would share. -/
def yields (s : Libraries) (path : PathBuf) : Option Nat := (s.upgrade path).map Prod.fst

end Libraries

/-- What a load returned: a share of a library. -/
structure Handle where
  path : PathBuf
  library : Nat

/-- A process that loads libraries and drops its handles. `opened` lists the paths it
asked the platform to open. -/
structure Process where
  libraries : Libraries
  handles : List Handle
  opened : List PathBuf

inductive LoadEvent where
  | load (path : PathBuf) (opening : Except String Library)
  | drop (place : Nat)

namespace Process

def start : Process := ⟨⟨.empty, fun _ => none⟩, [], []⟩

/-- The process after a load. -/
def load (s : Process) (path : PathBuf) (loaded : Loaded) : Process where
  libraries := loaded.libraries
  handles :=
    match loaded.result with
    | .ok library => ⟨path, library⟩ :: s.handles
    | .error _ => s.handles
  opened := s.opened ++ loaded.opened

/-- The process after one of its handles was dropped. -/
def drop (s : Process) (place : Nat) (handle : Handle) : Process :=
  { s with
    libraries := { s.libraries with heap := s.libraries.heap.drop handle.library }
    handles := s.handles.eraseIdx place }

def step (s : Process) : LoadEvent → Option Process
  | .load path opening => some (s.load path (s.libraries.load path opening))
  | .drop place => s.handles[place]?.map (s.drop place)

variable {s t : Process} {path other : PathBuf} {opening : Except String Library}
  {library place : Nat} {handle : Handle} {events : List LoadEvent}

/-- The registry and the live handles belong together. -/
structure Sound (s : Process) : Prop where
  counted : s.libraries.heap.Counted (s.handles.map Handle.library)
  registered : ∀ handle ∈ s.handles,
    s.libraries.registry handle.path.components = some handle.library
  injective : ∀ key key' library, s.libraries.registry key = some library →
    s.libraries.registry key' = some library → key = key'
  allocated : ∀ key library, s.libraries.registry key = some library →
    library < s.libraries.heap.size

/-- A load shares the library of a live entry; otherwise it opens one, which fails and
leaves everything alone, or gives the path a new entry. -/
theorem load_cases (s : Libraries) (path : PathBuf) (opening : Except String Library) :
    (∃ library heap, s.registry path.components = some library ∧
      s.heap.upgrade library = some heap ∧
      s.load path opening = ⟨.ok library, { s with heap }, []⟩) ∨
    s.upgrade path = none ∧
      ((∃ error, s.load path opening = ⟨.error error, s, [path]⟩) ∨
      ∃ loaded, s.load path opening = ⟨.ok s.heap.size, ⟨(s.heap.new loaded).2,
        Function.update s.registry path.components (some s.heap.size)⟩, [path]⟩) := by
  simp only [Libraries.load]
  cases found : s.upgrade path with
  | some shared =>
      obtain ⟨weak, entry, upgraded⟩ := Option.bind_eq_some_iff.mp found
      obtain ⟨heap, alive, rfl⟩ := Option.map_eq_some_iff.mp upgraded
      exact .inl ⟨weak, heap, entry, alive, rfl⟩
  | none =>
      refine .inr ⟨rfl, ?_⟩
      cases openLibrary path opening with
      | error error => exact .inl ⟨error, rfl⟩
      | ok loaded => exact .inr ⟨loaded, rfl⟩

/-- A load opens a library exactly if the entry of the path is absent or dead. -/
theorem load_opened_iff (s : Libraries) (path : PathBuf) (opening : Except String Library) :
    (s.load path opening).opened ≠ [] ↔ s.upgrade path = none := by
  obtain ⟨library, heap, entry, upgraded, eq⟩ | ⟨dead, ⟨_, eq⟩ | ⟨_, eq⟩⟩ :=
    load_cases s path opening
  · simp [eq, Libraries.upgrade, entry, upgraded]
  · simp [eq, dead]
  · simp [eq, dead]

/-- A load that fails changes nothing. -/
theorem load_error {s : Libraries} {error : Error}
    (failed : (s.load path opening).result = .error error) : (s.load path opening).libraries = s := by
  obtain ⟨_, _, _, _, eq⟩ | ⟨_, ⟨_, eq⟩ | ⟨_, eq⟩⟩ := load_cases s path opening
  · rw [eq] at failed
    cases failed
  · rw [eq]
  · rw [eq] at failed
    cases failed

theorem yields_eq_some_iff (s : Libraries) : s.yields path = some library ↔
    s.registry path.components = some library ∧ s.heap.upgrade library ≠ none := by
  simp only [Libraries.yields, Libraries.upgrade, Option.map_eq_some_iff, Option.bind_eq_some_iff,
    Prod.exists, Option.ne_none_iff_exists']
  constructor
  · rintro ⟨weak, heap, ⟨_, entry, _, upgraded, same⟩, rfl⟩
    cases same
    exact ⟨entry, _, upgraded⟩
  · rintro ⟨entry, heap, upgraded⟩
    exact ⟨library, heap, ⟨library, entry, heap, upgraded, rfl⟩, rfl⟩

namespace Sound

theorem start : Sound start :=
  ⟨.empty, by simp [Process.start], by simp [Process.start], by simp [Process.start]⟩

/-- A path yields a library exactly while a handle of the path shares it. -/
theorem yields_iff (sound : s.Sound) : s.libraries.yields path = some library ↔
    ∃ handle ∈ s.handles, handle.path.components = path.components ∧ handle.library = library := by
  rw [yields_eq_some_iff, ne_eq, sound.counted.upgrade_eq_none_iff, not_not, List.mem_map]
  constructor
  · rintro ⟨entry, handle, live, rfl⟩
    exact ⟨handle, live, sound.injective _ _ _ (sound.registered handle live) entry, rfl⟩
  · rintro ⟨handle, live, same, rfl⟩
    exact ⟨same ▸ sound.registered handle live, handle, live, rfl⟩

/-- An entry is absent or dead exactly if there is no handle of its path. -/
theorem upgrade_eq_none_iff (sound : s.Sound) : s.libraries.upgrade path = none ↔
    ∀ handle ∈ s.handles, handle.path.components ≠ path.components := by
  have none_iff : s.libraries.upgrade path = none ↔ s.libraries.yields path = none :=
    Option.map_eq_none_iff.symm
  rw [none_iff, Option.eq_none_iff_forall_ne_some]
  constructor
  · intro dead handle live same
    exact dead handle.library (sound.yields_iff.mpr ⟨handle, live, same, rfl⟩)
  · intro gone library alive
    obtain ⟨handle, live, same, _⟩ := sound.yields_iff.mp alive
    exact gone handle live same

theorem load (sound : s.Sound) (path : PathBuf) (opening : Except String Library) :
    (s.load path (s.libraries.load path opening)).Sound := by
  obtain ⟨library, heap, entry, upgraded, eq⟩ | ⟨dead, ⟨error, eq⟩ | ⟨loaded, eq⟩⟩ :=
    load_cases s.libraries path opening
  · rw [eq]
    refine ⟨sound.counted.upgrade upgraded, ?_, sound.injective, ?_⟩
    · intro handle live
      obtain rfl | old := List.mem_cons.mp live
      · exact entry
      · exact sound.registered handle old
    · intro key other found
      exact (Heap.size_upgrade upgraded).symm ▸ sound.allocated key other found
  · rw [eq]
    exact ⟨sound.counted, sound.registered, sound.injective, sound.allocated⟩
  · rw [eq]
    have fresh (key : List Component) : s.libraries.registry key ≠ some s.libraries.heap.size :=
      fun found => Nat.lt_irrefl _ (sound.allocated key _ found)
    have entries {key : List Component} {library : Nat}
        (found : Function.update s.libraries.registry path.components (some s.libraries.heap.size) key =
          some library) : key = path.components ∧ s.libraries.heap.size = library ∨
            s.libraries.registry key = some library := by
      by_cases same : key = path.components
      · rw [same, Function.update_self] at found
        exact .inl ⟨same, Option.some.inj found⟩
      · rw [Function.update_of_ne same] at found
        exact .inr found
    refine ⟨sound.counted.new loaded, ?_, ?_, ?_⟩
    · intro handle live
      obtain rfl | old := List.mem_cons.mp live
      · exact Function.update_self ..
      · have other := sound.upgrade_eq_none_iff.mp dead handle old
        exact (Function.update_of_ne other ..).trans (sound.registered handle old)
    · intro key key' library found found'
      obtain ⟨rfl, rfl⟩ | old := entries found
      · obtain ⟨same, _⟩ | old' := entries found'
        · exact same.symm
        · exact absurd old' (fresh key')
      · obtain ⟨rfl, rfl⟩ | old' := entries found'
        · exact absurd old (fresh key)
        · exact sound.injective key key' library old old'
    · intro key library found
      apply Nat.lt_of_lt_of_eq ?_ (s.libraries.heap.size_new loaded).symm
      obtain ⟨_, rfl⟩ | old := entries found
      · exact Nat.lt_succ_self _
      · exact Nat.lt_succ_of_lt (sound.allocated key library old)

theorem drop (sound : s.Sound) (found : s.handles[place]? = some handle) :
    (s.drop place handle).Sound := by
  obtain ⟨inside, rfl⟩ := List.getElem?_eq_some_iff.mp found
  refine ⟨?_, ?_, sound.injective, ?_⟩
  · apply sound.counted.drop
    exact (List.getElem_cons_eraseIdx_perm inside).symm.map Handle.library
  · intro handle live
    exact sound.registered handle (List.mem_of_mem_eraseIdx live)
  · intro key library entry
    exact (Heap.size_drop ..).symm ▸ sound.allocated key library entry

theorem run (run : Run step Process.start events s) : s.Sound := by
  refine run.invariant ?_ start
  intro s event t sound h
  cases event with
  | load path opening =>
      obtain rfl := Option.some.inj h
      exact sound.load path opening
  | drop place =>
      obtain ⟨handle, found, rfl⟩ := Option.map_eq_some_iff.mp h
      exact sound.drop found

end Sound

/-- One live library per path. In every state that loads and drops lead to, the live
handles of a path share one library; a load opens a library anew exactly if no handle of
its path is alive; a load that fails leaves the registry and every live handle alone, and
one that does not returns the library its path yields from then on; and no load changes
what another path yields. -/
theorem one_live_library_per_path (run : Run step start events s) :
    (∀ first ∈ s.handles, ∀ second ∈ s.handles,
      first.path.components = second.path.components → first.library = second.library) ∧
    ∀ path opening t, s.step (.load path opening) = some t →
      (t.opened ≠ s.opened ↔ ∀ handle ∈ s.handles, handle.path.components ≠ path.components) ∧
      (∀ error, (s.libraries.load path opening).result = .error error →
        t.libraries = s.libraries ∧ t.handles = s.handles) ∧
      (∀ library, (s.libraries.load path opening).result = .ok library →
        t.handles = ⟨path, library⟩ :: s.handles ∧ t.libraries.yields path = some library) ∧
      ∀ other, other.components ≠ path.components →
        t.libraries.yields other = s.libraries.yields other := by
  have sound := Sound.run run
  refine ⟨?_, ?_⟩
  · intro first live second live' same
    have entry := sound.registered first live
    rw [same, sound.registered second live'] at entry
    exact (Option.some.inj entry).symm
  · intro path opening t h
    obtain rfl := Option.some.inj h
    have sound' := sound.load path opening
    refine ⟨?_, ?_, ?_, ?_⟩
    · have appended : (s.load path (s.libraries.load path opening)).opened =
          s.opened ++ (s.libraries.load path opening).opened := rfl
      rw [← sound.upgrade_eq_none_iff, ← load_opened_iff s.libraries path opening, appended, ne_eq,
        List.append_right_eq_self]
    · intro error failed
      exact ⟨load_error failed, by simp only [Process.load, failed]⟩
    · intro library shared
      have handles : (s.load path (s.libraries.load path opening)).handles =
          ⟨path, library⟩ :: s.handles := by simp only [Process.load, shared]
      refine ⟨handles, sound'.yields_iff.mpr ⟨⟨path, library⟩, ?_, rfl, rfl⟩⟩
      rw [handles]
      exact List.mem_cons_self
    · intro other distinct
      ext library
      rw [sound'.yields_iff, sound.yields_iff]
      cases result : (s.libraries.load path opening).result with
      | error error => simp only [Process.load, result]
      | ok shared =>
          have elsewhere : ¬ (path.components = other.components ∧ shared = library) :=
            fun same => distinct same.1.symm
          simp [Process.load, result, elsewhere]

/-- A library with every symbol. -/
def fullLibrary : Library := ⟨fun _ => .ok 0⟩

/-- A library with no symbol. -/
def bareLibrary : Library := ⟨fun symbol => .error symbol⟩

/-- Loads of one path, spelled `/a` and `//a/`. -/
def twoSpellings : List LoadEvent :=
  [.load ⟨[0x2F, 0x61]⟩ (.ok fullLibrary), .load ⟨[0x2F, 0x2F, 0x61, 0x2F]⟩ (.ok fullLibrary)]

/-- The second load shares the library of the first, and a failed load of another path
leaves it alone. -/
theorem one_live_library_per_path_spellings :
    ∃ s, Run step start twoSpellings s ∧ s.handles.length = 2 ∧
      (∀ first ∈ s.handles, ∀ second ∈ s.handles, first.library = second.library) ∧
      ∀ t, s.step (.load ⟨[0x2F, 0x62]⟩ (.ok bareLibrary)) = some t → t.handles = s.handles := by
  have reached : ∃ s, Run step start twoSpellings s ∧ s.handles.length = 2 ∧
      (∀ handle ∈ s.handles, handle.path.components = [.rootDir, .normal [0x61]]) ∧
      ∃ error, (s.libraries.load ⟨[0x2F, 0x62]⟩ (.ok bareLibrary)).result = .error error :=
    ⟨_, .cons rfl (.single rfl), rfl, by decide +kernel, _, rfl⟩
  obtain ⟨s, run, two, spelled, error, failed⟩ := reached
  obtain ⟨shared, loads⟩ := one_live_library_per_path run
  refine ⟨s, run, two, ?_, ?_⟩
  · intro first live second live'
    exact shared first live second live' ((spelled first live).trans (spelled second live').symm)
  · intro t h
    exact ((loads _ _ t h).2.1 error failed).2

end Process

end Sdk
