import OpGpui.Library.Run
import OpGpui.Library.Mealy
import OpGpui.Library.Pool
import OpGpui.Library.Monitor
import OpGpui.Library.Attain
import OpGpui.Library.Browser
import OpGpui.Library.Collect
import OpGpui.Library.Delimited
import OpGpui.Library.Trim
import OpGpui.Library.Shared
import OpGpui.Library.Base64
import OpGpui.Rust.Str
import OpGpui.Rust.Lowercase
import OpGpui.Serde.Json
import OpGpui.Serde.Print
import OpGpui.Sdk.Error
import OpGpui.Sdk.Transport
import OpGpui.Sdk.Types
import OpGpui.Sdk.Reference
import OpGpui.Sdk.Grammar
import OpGpui.Sdk.Protocol
import OpGpui.Sdk.Payload
import OpGpui.Sdk.Client
import OpGpui.Sdk.Ledger
import OpGpui.Sdk.Operation
import OpGpui.Sdk.Session
import OpGpui.Sdk.Course
import OpGpui.Sdk.Redaction
import OpGpui.Sdk.Locking
import OpGpui.Sdk.Threaded
import OpGpui.Sdk.Symbols
import OpGpui.Sdk.Traffic
import OpGpui.Sdk.Renewal
import OpGpui.Sdk.Connect
import OpGpui.Sdk.Application
import OpGpui.Picker.Provider
import OpGpui.Picker.Fields
import OpGpui.Picker.Row
import OpGpui.Picker.Filter
import OpGpui.Picker.Identity
import OpGpui.Picker.State
import OpGpui.Picker.Paint
import OpGpui.Picker.Invariant
import OpGpui.Picker.Keyboard
import OpGpui.Picker.TypeAhead
import OpGpui.Picker.System
import OpGpui.Picker.Latest
import OpGpui.Picker.Provenance
import OpGpui.Picker.Click
import OpGpui.Picker.Asking
import OpGpui.Picker.History
import OpGpui.Picker.Desktop
import OpGpui.Picker.Demand
import OpGpui.Picker.Several
import OpGpui.Picker.Secrecy
import OpGpui.Picker.Frame
import OpGpui.Picker.Catalogue
import OpGpui.Picker.Reach
import OpGpui.Demo.Options
import OpGpui.Demo.Host
import OpGpui.Demo.Account
