import Mathlib.Algebra.Ring.Nat
import Mathlib.Data.List.Basic
import OpGpui.Sdk.Error
import OpGpui.Serde.Json

/-!
# Calls through the two symbols of the desktop library

`send_message` hands out a buffer with its response, which is the library's own: it is
copied and given back with `free_response`. What happened at that boundary is a list of
`Foreign` events, in order. `Foreign.apply` keeps the account of the buffers that have
been handed out and not given back, and does not accept the reading or freeing of any
other. The pointers passed in are not modelled; what they point to is.
-/

namespace Sdk

open Serde

/-- A response in the memory of the library. Its length is that of its contents. -/
structure Buffer where
  address : UInt64
  capacity : UInt64
  contents : Bytes
  addressable : contents.length < UInt64.size
  deriving DecidableEq

/-- What `send_message` returns and writes. A null output is no buffer. -/
structure SendReply where
  code : Int32
  output : Option Buffer

/-- One thing that happens between a client and a library. -/
inductive Foreign where
  | sendMessage (input : Bytes)
  | returned (reply : SendReply)
  | read (buffer : Buffer)
  | freeResponse (address : UInt64) (len : Nat) (capacity : UInt64)

/-- Give a buffer back as it was received. -/
def Buffer.free (buffer : Buffer) : Foreign :=
  .freeResponse buffer.address buffer.contents.length buffer.capacity

/-- `isize::MAX`. -/
def isizeMax : Nat := 2 ^ 63 - 1

/-- What the code of `send_message` says of the response. -/
def readCode (code : Int32) (response : Bytes) : Result Bytes :=
  if code = 0 then .ok response
  else if code = -3 then .error .channelClosed
  else if code = -7 then .error .connectionDropped
  else .error (.transportCode code)

/-- The part of `call_symbols` that follows the return of `send_message`. -/
def callSymbols (reply : SendReply) : List Foreign × Result Bytes :=
  match reply.output with
  | none => ([], readCode reply.code [])
  | some buffer =>
      if buffer.contents.length > isizeMax then
        ([buffer.free], .error (.protocol "desktop response exceeds addressable memory"))
      else ([.read buffer, buffer.free], readCode reply.code buffer.contents)

/-- The error of `call` for an empty request, which is not sent. -/
def emptyRequest : Error := .protocol "refusing to send an empty request"

/-- The buffers handed out and not given back, after one more event. Neither reading
nor freeing any other buffer is accepted. -/
def Foreign.apply (outstanding : List Buffer) : Foreign → Option (List Buffer)
  | .sendMessage _ => some outstanding
  | .returned reply => some (reply.output.toList ++ outstanding)
  | .read buffer => if buffer ∈ outstanding then some outstanding else none
  | .freeResponse address len capacity =>
      match outstanding.find? fun buffer =>
        buffer.address = address ∧ buffer.contents.length = len ∧ buffer.capacity = capacity with
      | some buffer => some (outstanding.erase buffer)
      | none => none

/-- The buffers outstanding at the end of a trace, unless it misused one on the way. -/
def outstanding (trace : List Foreign) : Option (List Buffer) := trace.foldlM Foreign.apply []

theorem outstanding_append {first rest : List Foreign} (balanced : outstanding first = some []) :
    outstanding (first ++ rest) = outstanding rest := by
  simp only [outstanding] at balanced ⊢
  rw [List.foldlM_append, balanced]
  rfl

/-- The whole of one call, from the sending to the last use of the response. -/
def callTrace (input : Bytes) (reply : SendReply) : List Foreign :=
  [.sendMessage input, .returned reply] ++ (callSymbols reply).1

theorem outstanding_returned {input : Bytes} {reply : SendReply} :
    outstanding [.sendMessage input, .returned reply] = some reply.output.toList := by
  simp [outstanding, Foreign.apply]

/-- A call leaves no buffer behind, and uses none that is not its own. -/
theorem outstanding_callTrace {input : Bytes} {reply : SendReply} :
    outstanding (callTrace input reply) = some [] := by
  obtain ⟨code, output⟩ := reply
  cases output with
  | none => rfl
  | some buffer =>
      simp only [callTrace, callSymbols]
      split <;> simp [outstanding, Foreign.apply, Buffer.free]

end Sdk
