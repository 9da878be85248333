import GoWebrtc.Construction.NativeConfiguration
import GoWebrtc.Construction.Utils
import GoWebrtc.Construction.Ice
import GoWebrtc.Json.Encode

/-!
`NewPeerConnection`, `SetConfiguration` and `AddIceCandidate` with their native calls.
-/

namespace GoWebrtc

open GoRuntime CMemory

/-- What the two native factories return: `CreatePeerConnectionFactory` a factory or null, and
`pc_factory->CreatePeerConnection` a connection or null. -/
structure NativeOutcome where
  factoryCreated : Bool
  connectionCreated : Bool
  deriving DecidableEq, Repr

/-- A native `Peer`: the index it hands to Go, whether `pc_factory` and `pc_` are non-null, and
the configuration `SetConfig` stored. -/
structure Peer where
  goPeerConnection : Int32
  pcFactory : Bool
  pc : Bool
  config : Option RTCConfiguration
  deriving DecidableEq, Repr

/-- A Go `PeerConnection`: its `PCMap` index, its `cgoPeer` (`none` is nil) and its `config`. -/
structure PeerConnection where
  index : Int64
  cgoPeer : Option Nat
  config : Configuration
  deriving DecidableEq, Repr

/-- The two peer registries with the objects they name: `PCMap` and the Go `PeerConnection`s,
the native `Peer`s and the `localPeers` vector of their addresses, and the C heap. -/
structure PeerRegistries where
  pcMap : CGOMap Nat
  peerConnections : List PeerConnection
  peers : List Peer
  localPeers : List Nat
  heap : Heap

/-- The registries when the process starts: `PCMap = NewCGOMap()`, no `Peer`s, an empty heap. -/
def emptyPeerRegistries : PeerRegistries := ⟨newCGOMap, [], [], [], Heap.empty⟩

/-- `SUCCESS`, what `CGO_CreatePeerConnection` returns when the connection was created. -/
def success : Int32 := 0

/-- `FAILURE`, what `CGO_CreatePeerConnection` returns when it was not. -/
def failure : Int32 := -1

/-- `Peer::Initialize`: the factory is stored whatever it is; a null one makes it return false
before the constraints are set. -/
def Peer.initialize (peer : Peer) (factoryCreated : Bool) : Peer × Bool :=
  ({ peer with pcFactory := factoryCreated }, factoryCreated)

/-- `CGO_InitializePeer`: a new `Peer`, initialised with the result dropped, pushed on
`localPeers`; then `goPeerConnection` is written through the pointer just pushed. -/
def cgoInitializePeer (factoryCreated : Bool) (goPc : Int32) (state : PeerRegistries) :
    PeerRegistries × Option Nat :=
  let localPeer := state.peers.length
  let initialized := Peer.initialize ⟨0, false, false, none⟩ factoryCreated
  ({ state with
    peers := state.peers ++ [{ initialized.1 with goPeerConnection := goPc }]
    localPeers := state.localPeers ++ [localPeer] }, some localPeer)

/-- `CGO_CreatePeerConnection`: `SetConfig(castConfig_(cgoConfig))`, then the call through
`pc_factory`, which dereferences a null factory; the connection it returns is stored in `pc_`. -/
def cgoCreatePeerConnection (connectionCreated : Bool) (state : PeerRegistries) (cgoPeer cgoConfig : Nat) :
    Except Fault (PeerRegistries × Int32) := do
  let peer ← match state.peers[cgoPeer]? with
    | some peer => pure peer
    | none => throw (.badLoad cgoPeer)
  let config ← castConfig state.heap cgoConfig
  let peer := { peer with config := some config }
  if !peer.pcFactory then throw .nullDereference
  let peer := { peer with pc := connectionCreated }
  let state := { state with peers := state.peers.set cgoPeer peer }
  if peer.pc then pure (state, success) else pure (state, failure)

/-- The Go zero value of `Configuration`, which `new(PeerConnection)` gives `pc.config`. -/
def zeroConfiguration : Configuration := ⟨[], 0, 0, []⟩

/-- `NewPeerConnection(config)`: the `*PeerConnection` and the error text (`none` is nil), or the
crash, with the deferred `freeConfig` run last. -/
def newPeerConnection (outcome : NativeOutcome) (config : Option Configuration) (state : PeerRegistries) :
    Except Crash (PeerRegistries × Option Nat × Option String) :=
  match config with
  | none => .ok (state, none, some "PeerConnection requires a Configuration.")
  | some config => do
      let pc := state.peerConnections.length
      let (pcMap, index) := state.pcMap.set (some pc)
      let state := { state with pcMap, peerConnections := state.peerConnections ++ [⟨index, none, zeroConfiguration⟩] }
      let (state, cgoPeer) := cgoInitializePeer outcome.factoryCreated (cInt index) state
      let state := { state with
        peerConnections := state.peerConnections.modify pc fun object => { object with cgoPeer } }
      match cgoPeer with
      | none => .ok (state, some pc, some "PeerConnection: failed to initialize.")
      | some cgoPeer =>
          let state := { state with
            peerConnections := state.peerConnections.modify pc fun object => { object with config } }
          let (heap, cConfig) := config.cgo state.heap
          let (state, created) ← cCall (cgoCreatePeerConnection outcome.connectionCreated { state with heap }
            cgoPeer cConfig)
          let result : Option Nat × Option String :=
            if 0 ≠ created then (none, some "PeerConnection: could not create from config.") else (some pc, none)
          let heap ← freeConfig state.heap cConfig
          pure ({ state with heap }, result)

/-- What `pc_->SetConfiguration(*cConfig, error)` does: whether it succeeds, and the type of the
`RTCError` it leaves otherwise. -/
structure SetConfigurationOutcome where
  succeeded : Bool
  errorType : Int32
  deriving DecidableEq, Repr

/-- `CGO_SetConfiguration`: the configuration cast by `castConfig_`, the call through `pc_`, then
`SetConfig` and `SUCCESS`, or the error's type as an `int`. -/
def cgoSetConfiguration (outcome : SetConfigurationOutcome) (state : PeerRegistries) (cgoPeer cgoConfig : Nat) :
    Except Fault (PeerRegistries × Int32) := do
  let peer ← match state.peers[cgoPeer]? with
    | some peer => pure peer
    | none => throw (.badLoad cgoPeer)
  let cConfig ← castConfig state.heap cgoConfig
  if !peer.pc then throw .nullDereference
  if outcome.succeeded then
    pure ({ state with peers := state.peers.set cgoPeer { peer with config := some cConfig } }, success)
  else pure (state, outcome.errorType)

/-- `PeerConnection.SetConfiguration(config)` on the `pc`-th `PeerConnection`: `pc.config` is set
on a zero result, and the error text comes back after `freeConfig`. -/
def setConfiguration (outcome : SetConfigurationOutcome) (state : PeerRegistries) (pc : Nat)
    (config : Configuration) : Except Crash (PeerRegistries × Option String) := do
  let (heap, cConfig) := config.cgo state.heap
  let state := { state with heap }
  let cgoPeer ← match state.peerConnections[pc]?.bind PeerConnection.cgoPeer with
    | some cgoPeer => pure cgoPeer
    | none => throw (.fault .nullDereference)
  let (state, err) ← cCall (cgoSetConfiguration outcome state cgoPeer cConfig)
  let (state, result) :=
    if err ≠ 0 then
      (state, some ("PeerConnection: could not set configuration. Error ID: " ++ String.ofList (Json.formatInt err.toInt)))
    else ({ state with peerConnections := state.peerConnections.modify pc fun object => { object with config } }, none)
  let heap ← freeConfig state.heap cConfig
  pure ({ state with heap }, result)

/-- `CGO_IceCandidate` (`peerconnection.h`), allocated by Go: the two C strings and the index. -/
structure CGOIceCandidate where
  sdpMid : Nat
  sdpMlineIndex : Int32
  sdp : Nat
  deriving DecidableEq, Repr

end GoWebrtc
