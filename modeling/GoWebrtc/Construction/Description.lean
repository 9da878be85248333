import GoWebrtc.Construction.ChannelProperties
import GoWebrtc.Construction.Sdp

/-!
The local and remote descriptions of a `PeerConnection` and their native calls.
-/

namespace GoWebrtc

open GoRuntime CMemory

/-- A native `JsepSessionDescription` as `CGO_DeserializeSDP` builds it: the type it is
constructed with and the text `SdpDeserialize` is given. -/
structure NativeDescription where
  type : List UInt8
  msg : List UInt8
  deriving DecidableEq, Repr

/-- `CGO_DeserializeSDP(type, msg)`: both C strings read up to their zero. The `SdpParseError` is
never looked at, so a text that does not parse still gives a description. -/
def cgoDeserializeSDP (heap : Heap) (type msg : Nat) : Except Fault NativeDescription := do
  let type ← heap.readCString type
  let msg ← heap.readCString msg
  pure ⟨type, msg⟩

/-- `desc.GoStringToCgoSdp()`: the type and the SDP as `C.CString`s, the native description, and
the deferred frees, the last deferred first. -/
def SessionDescription.goStringToCgoSdp (heap : Heap) (desc : SessionDescription) :
    Except Crash (Heap × NativeDescription) := do
  let (heap, t) := heap.cString (utf8Bytes desc.type)
  let (heap, s) := heap.cString (utf8Bytes desc.sdp)
  let sdp ← cCall (cgoDeserializeSDP heap t s)
  let heap ← cCall (heap.free s)
  let heap ← cCall (heap.free t)
  pure (heap, sdp)

/-- `CGO_SerializeSDP`: a `strdup` of the text libwebrtc's `ToString` writes; a `NULL`
description is dereferenced. -/
def cgoSerializeSDP (toString : NativeDescription → List UInt8) (heap : Heap) (sdp : Option NativeDescription) :
    Except Fault (Heap × Nat) :=
  match sdp with
  | some description => pure (heap.strdup (toString description))
  | none => throw .nullDereference

/-- `CgoSdpToGoString(sdp)`. -/
def cgoSdpToGoString (toString : NativeDescription → List UInt8) (heap : Heap) (sdp : Option NativeDescription) :
    Except Crash (Heap × List Char) := do
  let serializedSDP ← cCall (cgoSerializeSDP toString heap sdp)
  goStringFreeing serializedSDP

/-- A description slot of a `PeerConnection`: the Go pointer (`none` is nil) and the native
description (`none` is `NULL`). -/
structure DescriptionSlot where
  description : Option Nat
  native : Option NativeDescription
  deriving DecidableEq, Repr

/-- What the description calls touch: the Go `SessionDescription` objects, which a pointer names
by its address, the local and the remote slot, and the C heap. -/
structure DescriptionState where
  objects : Nat → SessionDescription
  localSlot : DescriptionSlot
  remoteSlot : DescriptionSlot
  heap : Heap

/-- The body `CGO_SetLocalDescription` and `CGO_SetRemoteDescription` share: libwebrtc takes the
description when it accepts it, and the observer's promise gives `0`, or `-1` on failure. -/
def cgoSetDescription (accepted : Bool) (current : Option NativeDescription) (sdp : NativeDescription) :
    Option NativeDescription × Int32 :=
  if accepted then (some sdp, 0) else (current, -1)

def cgoSetLocalDescription (accepted : Bool) (current : Option NativeDescription) (sdp : NativeDescription) :
    Option NativeDescription × Int32 :=
  cgoSetDescription accepted current sdp

def cgoSetRemoteDescription (accepted : Bool) (current : Option NativeDescription) (sdp : NativeDescription) :
    Option NativeDescription × Int32 :=
  cgoSetDescription accepted current sdp

/-- The body of `SetLocalDescription` and `SetRemoteDescription`: the slot keeps the pointer when
the native call returns `0`. -/
def setDescription (cgoSet : Bool → Option NativeDescription → NativeDescription → Option NativeDescription × Int32)
    (failed : String) (accepted : Bool) (objects : Nat → SessionDescription) (heap : Heap)
    (slot : DescriptionSlot) (sdp : Option Nat) : Except Crash (Heap × DescriptionSlot × Option String) :=
  match sdp with
  | none => pure (heap, slot, some "Cannot use nil SessionDescription.")
  | some p => do
      let (heap, cgoSdp) ← (objects p).goStringToCgoSdp heap
      let (native, r) := cgoSet accepted slot.native cgoSdp
      if 0 ≠ r then pure (heap, { slot with native }, some failed)
      else pure (heap, ⟨some p, native⟩, none)

/-- `pc.SetLocalDescription(sdp)`. -/
def setLocalDescription (accepted : Bool) (state : DescriptionState) (sdp : Option Nat) :
    Except Crash (DescriptionState × Option String) := do
  let (heap, localSlot, err) ← setDescription cgoSetLocalDescription "SetLocalDescription failed." accepted
    state.objects state.heap state.localSlot sdp
  pure ({ state with heap, localSlot }, err)

/-- `pc.SetRemoteDescription(sdp)`. -/
def setRemoteDescription (accepted : Bool) (state : DescriptionState) (sdp : Option Nat) :
    Except Crash (DescriptionState × Option String) := do
  let (heap, remoteSlot, err) ← setDescription cgoSetRemoteDescription "SetRemoteDescription failed." accepted
    state.objects state.heap state.remoteSlot sdp
  pure ({ state with heap, remoteSlot }, err)

/-- `CGO_GetLocalDescription`: `pc_->local_description()`. -/
def cgoGetLocalDescription (state : DescriptionState) : Option NativeDescription := state.localSlot.native

/-- `CGO_GetRemoteDescription`: `pc_->remote_description()`. -/
def cgoGetRemoteDescription (state : DescriptionState) : Option NativeDescription := state.remoteSlot.native

/-- The body of `LocalDescription` and `RemoteDescription`: the native description, serialized
again, overwrites the `Sdp` of the Go object. -/
def description (toString : NativeDescription → List UInt8) (objects : Nat → SessionDescription) (heap : Heap)
    (pointer : Option Nat) (cgoSdp : Option NativeDescription) :
    Except Crash ((Nat → SessionDescription) × Heap × Option Nat) :=
  match pointer with
  | some p => do
      let (heap, sdp) ← cgoSdpToGoString toString heap cgoSdp
      pure (Function.update objects p { objects p with sdp }, heap, some p)
  | none => pure (objects, heap, none)

/-- `pc.LocalDescription()`. -/
def localDescription (toString : NativeDescription → List UInt8) (state : DescriptionState) :
    Except Crash (DescriptionState × Option Nat) := do
  let (objects, heap, sdp) ←
    description toString state.objects state.heap state.localSlot.description (cgoGetLocalDescription state)
  pure ({ state with objects, heap }, sdp)

/-- `pc.RemoteDescription()`. -/
def remoteDescription (toString : NativeDescription → List UInt8) (state : DescriptionState) :
    Except Crash (DescriptionState × Option Nat) := do
  let (objects, heap, sdp) ←
    description toString state.objects state.heap state.remoteSlot.description (cgoGetRemoteDescription state)
  pure ({ state with objects, heap }, sdp)

/-- A call a goroutine makes on the descriptions of one `PeerConnection`, with libwebrtc's answer
to a set. -/
inductive DescriptionCall where
  | setLocalDescription (sdp : Option Nat) (accepted : Bool)
  | setRemoteDescription (sdp : Option Nat) (accepted : Bool)
  | localDescription
  | remoteDescription
  deriving DecidableEq, Repr

/-- What a call returns: the error of a set (`none` is nil), the pointer of a get. -/
inductive DescriptionReply where
  | err (text : Option String)
  | description (sdp : Option Nat)
  deriving DecidableEq, Repr

def DescriptionCall.perform (toString : NativeDescription → List UInt8) (state : DescriptionState) :
    DescriptionCall → Except Crash (DescriptionState × DescriptionReply)
  | .setLocalDescription sdp accepted => do
      let (state, err) ← GoWebrtc.setLocalDescription accepted state sdp
      pure (state, .err err)
  | .setRemoteDescription sdp accepted => do
      let (state, err) ← GoWebrtc.setRemoteDescription accepted state sdp
      pure (state, .err err)
  | .localDescription => do
      let (state, sdp) ← GoWebrtc.localDescription toString state
      pure (state, .description sdp)
  | .remoteDescription => do
      let (state, sdp) ← GoWebrtc.remoteDescription toString state
      pure (state, .description sdp)

/-- The calls one after another; the first crash ends the run. -/
def runDescriptionCalls (toString : NativeDescription → List UInt8) (state : DescriptionState) :
    List DescriptionCall → Except Crash (DescriptionState × List DescriptionReply)
  | [] => pure (state, [])
  | call :: calls => do
      let (state, reply) ← call.perform toString state
      let (state, replies) ← runDescriptionCalls toString state calls
      pure (state, reply :: replies)

end GoWebrtc
