import OpGpui.Rust.Str
import OpGpui.Sdk.Connect

/-!
# The arguments of the demo

`options` reads the arguments one after the other, and the last setting of a kind wins.
`Setting.words` writes a setting down again. The loop accepts exactly what is written so,
and otherwise stops at the first argument that cannot be read (`options_spec`).
-/

namespace GpuiDemo

open Rust

structure Options where
  account : Option String
  library : Option PathBuf

/-- Why the demo does not start: a message with exit code 2, or the help with 0. -/
inductive Stop where
  | message (text : String)
  | help
  deriving DecidableEq

/-- The loop, with what was set so far. -/
def optionsFrom (account : Option String) (library : Option PathBuf) :
    List String → Except Stop Options
  | [] => .ok ⟨account, library⟩
  | argument :: arguments =>
      if argument = "--mock" then optionsFrom none library arguments
      else if argument = "--account" then
        match arguments with
        | [] => .error (.message "--account requires a name or UUID")
        | name :: arguments => optionsFrom (some name) library arguments
      else if argument = "--library" then
        match arguments with
        | [] => .error (.message "--library requires a dylib path")
        | path :: arguments => optionsFrom account (some (.ofString path)) arguments
      else if argument = "-h" ∨ argument = "--help" then .error .help
      else .error (.message ("Unknown argument: " ++ argument))

/-- `arguments` are those after the program's name. -/
def options (arguments : List String) : Except Stop Options := optionsFrom none none arguments

/-- What one or two arguments set. -/
inductive Setting where
  | mock
  | account (name : String)
  | library (path : String)

namespace Setting

def words : Setting → List String
  | .mock => ["--mock"]
  | .account name => ["--account", name]
  | .library path => ["--library", path]

def apply (options : Options) : Setting → Options
  | .mock => { options with account := none }
  | .account name => { options with account := some name }
  | .library path => { options with library := some (.ofString path) }

end Setting

/-- Arguments that stop the loop at once. -/
inductive Stops : List String → Stop → Prop
  | account : Stops ["--account"] (.message "--account requires a name or UUID")
  | library : Stops ["--library"] (.message "--library requires a dylib path")
  | help {argument : String} {rest : List String} (asked : argument = "-h" ∨ argument = "--help") :
      Stops (argument :: rest) .help
  | unknown {argument : String} {rest : List String}
      (unknown : argument ∉ ["--mock", "--account", "--library", "-h", "--help"]) :
      Stops (argument :: rest) (.message ("Unknown argument: " ++ argument))

variable {arguments rest : List String} {settings : List Setting} {stop : Stop}

/-- Written settings are applied one after the other. -/
theorem optionsFrom_settings (settings : List Setting) (rest : List String) (start : Options) :
    optionsFrom start.account start.library (settings.flatMap Setting.words ++ rest) =
      optionsFrom (settings.foldl Setting.apply start).account
        (settings.foldl Setting.apply start).library rest := by
  induction settings generalizing start with
  | nil => rfl
  | cons setting settings ih =>
      rw [List.foldl_cons, ← ih, List.flatMap_cons, List.append_assoc]
      cases setting with
      | mock =>
          rw [optionsFrom.eq_def]
          rfl
      | account name =>
          rw [optionsFrom.eq_def]
          rfl
      | library path =>
          rw [optionsFrom.eq_def]
          rfl

theorem Stops.optionsFrom_eq (stops : Stops rest stop) (account : Option String)
    (library : Option PathBuf) : optionsFrom account library rest = .error stop := by
  rw [optionsFrom.eq_def]
  cases stops with
  | account => simp
  | library => simp
  | help asked => obtain rfl | rfl := asked <;> simp
  | unknown unknown =>
      simp only [List.mem_cons, List.not_mem_nil, or_false, not_or] at unknown
      simp [unknown]

/-- Settings up to the end, or up to where the loop stops. -/
def Readable (arguments : List String) : Prop :=
  (∃ settings : List Setting, arguments = settings.flatMap Setting.words) ∨
    ∃ (settings : List Setting) (rest : List String) (stop : Stop),
      arguments = settings.flatMap Setting.words ++ rest ∧ Stops rest stop

theorem Readable.cons (setting : Setting) (readable : Readable arguments) :
    Readable (setting.words ++ arguments) := by
  obtain ⟨settings, rfl⟩ | ⟨settings, rest, stop, rfl, stops⟩ := readable
  · exact .inl ⟨setting :: settings, rfl⟩
  · exact .inr ⟨setting :: settings, rest, stop, by simp, stops⟩

theorem Stops.readable (stops : Stops rest stop) : Readable rest := .inr ⟨[], rest, stop, rfl, stops⟩

theorem readable (account : Option String) (library : Option PathBuf) (arguments : List String) :
    Readable arguments := by
  fun_induction optionsFrom account library arguments with
  | case1 => exact .inl ⟨[], rfl⟩
  | case2 account library arguments ih => exact ih.cons .mock
  | case3 => exact Stops.account.readable
  | case4 account library name arguments _ ih => exact ih.cons (.account name)
  | case5 => exact Stops.library.readable
  | case6 account library path arguments _ _ ih => exact ih.cons (.library path)
  | case7 account library argument rest _ _ _ asked => exact (Stops.help asked).readable
  | case8 account library argument rest mock account' library' help =>
      exact (Stops.unknown (by simpa [mock, account', library'] using help)).readable

theorem options_settings (settings : List Setting) :
    options (settings.flatMap Setting.words) = .ok (settings.foldl Setting.apply ⟨none, none⟩) := by
  have read := optionsFrom_settings settings [] ⟨none, none⟩
  rw [List.append_nil] at read
  exact read

theorem options_stops (settings : List Setting) (stops : Stops rest stop) :
    options (settings.flatMap Setting.words ++ rest) = .error stop :=
  (optionsFrom_settings settings rest ⟨none, none⟩).trans (stops.optionsFrom_eq _ _)

/-- The arguments the demo accepts are written settings, of which the last of a kind wins;
any others are refused for the first of them that cannot be read. -/
theorem options_spec (arguments : List String) :
    (∀ chosen, options arguments = .ok chosen ↔ ∃ settings : List Setting,
      arguments = settings.flatMap Setting.words ∧
        settings.foldl Setting.apply ⟨none, none⟩ = chosen) ∧
    ∀ stop, options arguments = .error stop ↔ ∃ (settings : List Setting) (rest : List String),
      arguments = settings.flatMap Setting.words ++ rest ∧ Stops rest stop := by
  constructor
  · intro chosen
    constructor
    · intro accepted
      obtain ⟨settings, rfl⟩ | ⟨settings, rest, stop, rfl, stops⟩ := readable none none arguments
      · rw [options_settings] at accepted
        exact ⟨settings, rfl, Except.ok.inj accepted⟩
      · rw [options_stops settings stops] at accepted
        cases accepted
    · rintro ⟨settings, rfl, rfl⟩
      exact options_settings settings
  · intro stop
    constructor
    · intro refused
      obtain ⟨settings, rfl⟩ | ⟨settings, rest, stop', rfl, stops⟩ := readable none none arguments
      · rw [options_settings] at refused
        cases refused
      · rw [options_stops settings stops] at refused
        exact ⟨settings, rest, rfl, Except.error.inj refused ▸ stops⟩
    · rintro ⟨settings, rest, rfl, stops⟩
      exact options_stops settings stops

end GpuiDemo
