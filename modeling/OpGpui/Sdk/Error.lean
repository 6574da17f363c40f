import Mathlib.Tactic.Common
import OpGpui.Rust.Str

/-!
# Errors of the SDK

Every failure the SDK reports, with the text it displays. Only one of them is
ever inspected by the code itself: a remote error named `DesktopSessionExpired`
makes the client renew its session.
-/

namespace Sdk

/-- Errors produced while discovering, loading, or invoking the desktop SDK. -/
inductive Error where
  | unsupportedPlatform
  | applicationNotFound (searchedPaths : List String)
  | libraryLoad (path message : String)
  | missingSymbol (symbol message : String)
  | channelClosed
  | connectionDropped
  | transportCode (code : Int32)
  | protocol (message : String)
  | remote (name message : String)
  | missingConfiguration (field : String)
  | invalidReferenceSegment (segment : String)
  | invalidSecretReference (value : String)
  | clientClosed
  | lockPoisoned
  deriving DecidableEq

abbrev Result (α : Type) := Except Error α

namespace Error

/-- Whether the desktop app reported that the session of the client has expired. -/
def isSessionExpired : Error → Bool
  | .remote name _ => name = "DesktopSessionExpired"
  | _ => false

/-- The displayed text. -/
def toString [Rust.UnicodeTables] : Error → String
  | .unsupportedPlatform => "1Password desktop integration is only supported on macOS"
  | .applicationNotFound _ =>
      "1Password desktop application was not found in any supported location"
  | .libraryLoad path message =>
      "failed to load 1Password desktop library at " ++ path ++ ": " ++ message
  | .missingSymbol symbol message =>
      "1Password desktop library is missing symbol " ++ symbol ++ ": " ++ message
  | .channelClosed =>
      "desktop app connection channel is closed; " ++
        "enable Settings > Developer > Integrate with other apps"
  | .connectionDropped => "connection to the 1Password desktop app was unexpectedly dropped"
  | .transportCode code => "1Password desktop library returned code " ++ ToString.toString code
  | .protocol message => "invalid desktop SDK protocol response: " ++ message
  | .remote name message => "1Password operation " ++ name ++ " failed: " ++ message
  | .missingConfiguration field => field ++ " must not be empty"
  | .invalidReferenceSegment segment =>
      "invalid secret-reference segment " ++ Rust.debugStr segment
  | .invalidSecretReference value => "invalid 1Password secret reference: " ++ value
  | .clientClosed => "the 1Password client is closed"
  | .lockPoisoned => "the 1Password client state lock was poisoned"

theorem isSessionExpired_iff {error : Error} :
    error.isSessionExpired ↔ ∃ message, error = .remote "DesktopSessionExpired" message := by
  cases error <;> simp [isSessionExpired]

end Error

/-- Whether a result is the failure that starts a renewal. -/
def expired {α : Type} : Result α → Bool
  | .ok _ => false
  | .error error => error.isSessionExpired

end Sdk
