import GoWebrtc.Construction.Utils

/-!
The ICE connection callbacks of a `Peer` and the Go hooks they call.
-/

namespace GoWebrtc

open GoRuntime

/-- libwebrtc's `PeerConnectionInterface::IceConnectionState`, up to `kIceConnectionMax`. -/
inductive NativeIceConnectionState where
  | new
  | checking
  | connected
  | completed
  | failed
  | disconnected
  | closed
  | max
  deriving DecidableEq, Repr

/-- The C `int` a native state crosses to Go as: its place in the enumeration. -/
def NativeIceConnectionState.toCInt : NativeIceConnectionState → Int32
  | .new => 0
  | .checking => 1
  | .connected => 2
  | .completed => 3
  | .failed => 4
  | .disconnected => 5
  | .closed => 6
  | .max => 7

/-- Go's `IceConnectionState` constants. -/
def iceConnectionStateNew : Int64 := 0
def iceConnectionStateChecking : Int64 := 1
def iceConnectionStateConnected : Int64 := 2
def iceConnectionStateCompleted : Int64 := 3
def iceConnectionStateFailed : Int64 := 4
def iceConnectionStateDisconnected : Int64 := 5
def iceConnectionStateClosed : Int64 := 6

/-- Go's `PeerConnectionState` constants. -/
def peerConnectionStateNew : Int64 := 0
def peerConnectionStateConnecting : Int64 := 1
def peerConnectionStateConnected : Int64 := 2
def peerConnectionStateDisconnected : Int64 := 3
def peerConnectionStateFailed : Int64 := 4

/-- The three handlers of a Go `PeerConnection` these hooks call; `false` is nil. -/
structure PeerHandlers where
  onIceConnectionStateChange : Bool
  onConnectionStateChange : Bool
  onIceCandidateError : Bool
  deriving DecidableEq, Repr

/-- A user handler that ran, with its argument. -/
inductive PeerEvent where
  | iceConnectionStateChange (state : Int64)
  | connectionStateChange (state : Int64)
  | iceCandidateError
  deriving DecidableEq, Repr

/-- The switch of `cgoOnConnectionStateChange`: the `PeerConnectionState` of an ICE state, and
nothing for the states its `default` returns on. -/
def connectionStateOf (iceState : Int64) : Option Int64 :=
  if iceState = iceConnectionStateNew then some peerConnectionStateNew
  else if iceState = iceConnectionStateChecking then some peerConnectionStateConnecting
  else if iceState = iceConnectionStateConnected then some peerConnectionStateConnected
  else if iceState = iceConnectionStateFailed then some peerConnectionStateFailed
  else if iceState = iceConnectionStateDisconnected then some peerConnectionStateDisconnected
  else none

/-- `CGO_IceConnectionState`: `pc_->ice_connection_state()` as a C `int`. -/
def cgoIceConnectionState (iceConnectionState : NativeIceConnectionState) : Int32 := iceConnectionState.toCInt

/-- `pc.ConnectionState()`: the native ICE connection state converted to `PeerConnectionState` as
it is, with no translation. -/
def connectionState (iceConnectionState : NativeIceConnectionState) : Int64 :=
  goInt (cgoIceConnectionState iceConnectionState)

/-- `PCMap.Get(p).(*PeerConnection)` and the handler it holds: `PCMap` names each Go
`PeerConnection` by allocation order, and `handlers` gives what each has set. -/
def peerHandlers (pcMap : CGOMap Nat) (handlers : Nat → PeerHandlers) (p : Int64) :
    Except Panic PeerHandlers := do
  let pc ← pcMap.get p
  pure (handlers pc)

/-- `cgoOnIceConnectionStateChange`. -/
def cgoOnIceConnectionStateChange (pcMap : CGOMap Nat) (handlers : Nat → PeerHandlers) (p state : Int64) :
    Except Panic (List PeerEvent) := do
  let pc ← peerHandlers pcMap handlers p
  pure (if pc.onIceConnectionStateChange then [.iceConnectionStateChange state] else [])

/-- `cgoOnConnectionStateChange`: a state the switch drops returns before `PCMap` is read. -/
def cgoOnConnectionStateChange (pcMap : CGOMap Nat) (handlers : Nat → PeerHandlers) (p iceState : Int64) :
    Except Panic (List PeerEvent) :=
  match connectionStateOf iceState with
  | none => pure []
  | some state => do
      let pc ← peerHandlers pcMap handlers p
      pure (if pc.onConnectionStateChange then [.connectionStateChange state] else [])

/-- `cgoOnIceCandidateError`. -/
def cgoOnIceCandidateError (pcMap : CGOMap Nat) (handlers : Nat → PeerHandlers) (p : Int64) :
    Except Panic (List PeerEvent) := do
  let pc ← peerHandlers pcMap handlers p
  pure (if pc.onIceCandidateError then [.iceCandidateError] else [])

/-- `Peer::OnIceConnectionChange`: a failed connection only reports the error; every other
state goes to both hooks, the ICE state first. -/
def onIceConnectionChange (pcMap : CGOMap Nat) (handlers : Nat → PeerHandlers) (goPeerConnection : Int32)
    (newState : NativeIceConnectionState) : Except Panic (List PeerEvent) :=
  if newState = .failed then cgoOnIceCandidateError pcMap handlers (goInt goPeerConnection)
  else do
    let first ← cgoOnIceConnectionStateChange pcMap handlers (goInt goPeerConnection) (goInt newState.toCInt)
    let second ← cgoOnConnectionStateChange pcMap handlers (goInt goPeerConnection) (goInt newState.toCInt)
    pure (first ++ second)

end GoWebrtc
