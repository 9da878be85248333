import GoWebrtc.Construction.PeerConnection
import GoWebrtc.Proof.FreeConfig

/-!
`NewPeerConnection`, `SetConfiguration` and `AddIceCandidate` against their contracts.
-/

namespace GoWebrtc

open GoRuntime CMemory

/-- `CGO_InitializePeer` never returns null, so the `failed to initialize` branch is dead. -/
@[simp] theorem cgoInitializePeer_snd (factoryCreated : Bool) (goPc : Int32) (state : PeerRegistries) :
    (cgoInitializePeer factoryCreated goPc state).2 = some state.peers.length := rfl

/-- The registries when `NewPeerConnection` calls `CGO_CreatePeerConnection`. -/
def preparedRegistries (factoryCreated : Bool) (config : Configuration) (state : PeerRegistries) :
    PeerRegistries :=
  let set := state.pcMap.set (some state.peerConnections.length)
  ⟨set.1, state.peerConnections ++ [⟨set.2, some state.peers.length, config⟩],
    state.peers ++ [⟨cInt set.2, factoryCreated, false, none⟩], state.localPeers ++ [state.peers.length],
    (config.cgo state.heap).1⟩

/-- `NewPeerConnection` with a configuration: everything before `CGO_CreatePeerConnection` is
fixed, and the outcome only decides what happens from that call on. -/
theorem newPeerConnection_some (outcome : NativeOutcome) (config : Configuration) (state : PeerRegistries) :
    newPeerConnection outcome (some config) state = (do
      let (after, created) ← cCall (cgoCreatePeerConnection outcome.connectionCreated
        (preparedRegistries outcome.factoryCreated config state) state.peers.length (config.cgo state.heap).2)
      let result : Option Nat × Option String :=
        if 0 ≠ created then (none, some "PeerConnection: could not create from config.")
        else (some state.peerConnections.length, none)
      let heap ← freeConfig after.heap (config.cgo state.heap).2
      pure ({ after with heap }, result)) := by
  simp [newPeerConnection, cgoInitializePeer, preparedRegistries, Peer.initialize, modify_append_length]

@[simp] theorem preparedRegistries_heap (factoryCreated : Bool) (config : Configuration)
    (state : PeerRegistries) : (preparedRegistries factoryCreated config state).heap = (config.cgo state.heap).1 :=
  rfl

theorem preparedRegistries_peer (factoryCreated : Bool) (config : Configuration) (state : PeerRegistries) :
    (preparedRegistries factoryCreated config state).peers[state.peers.length]? =
      some ⟨cInt (state.pcMap.set (some state.peerConnections.length)).2, factoryCreated, false, none⟩ := by
  simp [preparedRegistries]

/-- A `Peer` whose factory is null is dereferenced once its configuration has been cast. -/
theorem cgoCreatePeerConnection_nullFactory {state : PeerRegistries} {cgoPeer cgoConfig : Nat} {peer : Peer}
    (found : state.peers[cgoPeer]? = some peer) (null : peer.pcFactory = false) {native : RTCConfiguration}
    (cast : castConfig state.heap cgoConfig = .ok native) (connectionCreated : Bool) :
    cgoCreatePeerConnection connectionCreated state cgoPeer cgoConfig = .error .nullDereference := by
  simp [cgoCreatePeerConnection, found, cast, null, throw_eq_error]

/-- A `Peer` with a factory stores the cast configuration and the connection, and reports whether
there is one. -/
theorem cgoCreatePeerConnection_of_factory {state : PeerRegistries} {cgoPeer cgoConfig : Nat} {peer : Peer}
    (found : state.peers[cgoPeer]? = some peer) (factory : peer.pcFactory = true) {native : RTCConfiguration}
    (cast : castConfig state.heap cgoConfig = .ok native) (connectionCreated : Bool) :
    cgoCreatePeerConnection connectionCreated state cgoPeer cgoConfig =
      .ok ({ state with peers := state.peers.set cgoPeer { peer with config := some native, pc := connectionCreated } },
        if connectionCreated then success else failure) := by
  cases connectionCreated <;> simp [cgoCreatePeerConnection, found, cast, factory]

/-- With a factory, `NewPeerConnection` returns what `CGO_CreatePeerConnection` reported; either
way `pc` stays registered. -/
theorem newPeerConnection_of_factory {config : Configuration} (crossable : config.Crossable)
    (connectionCreated : Bool) (state : PeerRegistries) :
    newPeerConnection ⟨true, connectionCreated⟩ (some config) state =
      (freeConfig (config.cgo state.heap).1 (config.cgo state.heap).2).map fun heap =>
        ({ preparedRegistries true config state with
            peers := state.peers ++ [⟨cInt (state.pcMap.set (some state.peerConnections.length)).2, true,
              connectionCreated, some (nativeConfiguration config)⟩]
            heap },
          if connectionCreated then (some state.peerConnections.length, none)
          else (none, some "PeerConnection: could not create from config.")) := by
  rw [newPeerConnection_some, cgoCreatePeerConnection_of_factory (preparedRegistries_peer true config state) rfl
    (castConfig_cgo crossable state.heap)]
  have replaced : ∀ peer : Peer, (preparedRegistries true config state).peers.set state.peers.length peer =
      state.peers ++ [peer] := fun peer => by
    simp [preparedRegistries]
  cases freed : freeConfig (config.cgo state.heap).1 (config.cgo state.heap).2 <;>
    cases connectionCreated <;> simp [cCall, Except.mapError, replaced, freed, success, failure, Except.map]

/-- With a factory, `NewPeerConnection` returns and its deferred `freeConfig` frees every block
`_CGO` allocated, once. -/
theorem newPeerConnection_freesConfig {config : Configuration} (crossable : config.Crossable)
    (freeable : config.Freeable) (connectionCreated : Bool) {state : PeerRegistries} (fresh : state.heap.Fresh) :
    ∃ after result, newPeerConnection ⟨true, connectionCreated⟩ (some config) state = .ok (after, result) ∧
      after.heap.sizes = state.heap.sizes := by
  obtain ⟨final, freed, restored⟩ := freeConfig_cgo_restores freeable fresh
  rw [newPeerConnection_of_factory crossable, freed]
  exact ⟨_, _, rfl, restored⟩

theorem newPeerConnection_freesConfig_stun :
    stunConfiguration.Crossable ∧ stunConfiguration.Freeable ∧ emptyPeerRegistries.heap.Fresh ∧
      ∃ after result, newPeerConnection ⟨true, true⟩ (some stunConfiguration) emptyPeerRegistries =
          .ok (after, result) ∧ after.heap.sizes = emptyPeerRegistries.heap.sizes :=
  ⟨by decide, by decide, Heap.fresh_empty,
    newPeerConnection_freesConfig (by decide) (by decide) true Heap.fresh_empty⟩

/-- Without a factory, `CGO_CreatePeerConnection` calls through the null `pc_factory`. -/
theorem newPeerConnection_nullFactory {config : Configuration} (crossable : config.Crossable)
    (connectionCreated : Bool) (state : PeerRegistries) :
    newPeerConnection ⟨false, connectionCreated⟩ (some config) state = .error (.fault .nullDereference) := by
  rw [newPeerConnection_some, cgoCreatePeerConnection_nullFactory (preparedRegistries_peer false config state) rfl
    (castConfig_cgo crossable state.heap)]
  rfl

/-- A failed first `NewPeerConnection` still leaves `pc` in `PCMap` and its `Peer` in
`localPeers`; without a factory it crashes. -/
theorem newPeerConnection_failuresKeepRegistrations :
    (newPeerConnection ⟨true, false⟩ (some stunConfiguration) emptyPeerRegistries).map
        (fun returned => (returned.2, returned.1.pcMap.get 1, returned.1.localPeers)) =
      .ok ((none, some "PeerConnection: could not create from config."), .ok 0, [0]) ∧
    emptyPeerRegistries.pcMap.get 1 = .error (.message "couldn't retrieve the pointer") ∧
    emptyPeerRegistries.localPeers = [] ∧
    newPeerConnection ⟨false, true⟩ (some stunConfiguration) emptyPeerRegistries =
      .error (.fault .nullDereference) :=
  ⟨by decide, rfl, rfl, newPeerConnection_nullFactory (by decide) true emptyPeerRegistries⟩

/-- `CGO_SetConfiguration` on a `Peer` with a connection, for a configuration that casts: the cast
configuration is stored when libwebrtc accepts it, and the result is `SUCCESS` or the error's type. -/
theorem cgoSetConfiguration_of_connected (outcome : SetConfigurationOutcome) {state : PeerRegistries}
    {cgoPeer cgoConfig : Nat} {peer : Peer} (found : state.peers[cgoPeer]? = some peer) (connected : peer.pc = true)
    {native : RTCConfiguration} (cast : castConfig state.heap cgoConfig = .ok native) :
    cgoSetConfiguration outcome state cgoPeer cgoConfig =
      .ok (if outcome.succeeded then
          ({ state with peers := state.peers.set cgoPeer { peer with config := some native } }, success)
        else (state, outcome.errorType)) := by
  cases succeeded : outcome.succeeded <;> simp [cgoSetConfiguration, found, cast, connected, succeeded]

/-- `SetConfiguration` returns, sets `pc.config` whenever the native call returns zero (an error
of type `NONE` included) and frees every block `_CGO` allocated. -/
theorem setConfiguration_spec {config : Configuration} (crossable : config.Crossable) (freeable : config.Freeable)
    (outcome : SetConfigurationOutcome) {state : PeerRegistries} (fresh : state.heap.Fresh) {pc cgoPeer : Nat}
    (hasPeer : state.peerConnections[pc]?.bind PeerConnection.cgoPeer = some cgoPeer) {peer : Peer}
    (found : state.peers[cgoPeer]? = some peer) (connected : peer.pc = true) :
    ∃ after, setConfiguration outcome state pc config =
        .ok (after, if outcome.succeeded ∨ outcome.errorType = 0 then none
          else some ("PeerConnection: could not set configuration. Error ID: " ++
            String.ofList (Json.formatInt outcome.errorType.toInt))) ∧
      after.peers = (if outcome.succeeded then
          state.peers.set cgoPeer { peer with config := some (nativeConfiguration config) }
        else state.peers) ∧
      after.peerConnections = (if outcome.succeeded ∨ outcome.errorType = 0 then
          state.peerConnections.modify pc fun object => { object with config }
        else state.peerConnections) ∧
      after.pcMap = state.pcMap ∧ after.localPeers = state.localPeers ∧ after.heap.sizes = state.heap.sizes := by
  obtain ⟨final, freed, restored⟩ := freeConfig_cgo_restores freeable fresh
  have native := @cgoSetConfiguration_of_connected outcome { state with heap := (config.cgo state.heap).1 } cgoPeer
    (config.cgo state.heap).2 peer found connected _ (castConfig_cgo crossable state.heap)
  obtain ⟨succeeded, errorType⟩ := outcome
  unfold setConfiguration
  simp only [hasPeer, pure_eq_ok, ok_bind, native, cCall, Except.mapError]
  cases succeeded <;> by_cases zero : errorType = 0 <;> simp [zero, success, freed, restored]

/-- One Go `PeerConnection`, under `PCMap` index 1, whose `Peer` has a factory and a connection,
with nothing allocated in C memory. -/
def connectedRegistries : PeerRegistries :=
  ⟨(newCGOMap.set (some 0)).1, [⟨1, some 0, zeroConfiguration⟩], [⟨1, true, true, none⟩], [0], Heap.empty⟩

/-- libwebrtc refuses the STUN configuration with error type 5: the error carries the type, the
Go configuration stays the zero one, and the C heap is as before. -/
theorem setConfiguration_spec_rejected :
    stunConfiguration.Crossable ∧ stunConfiguration.Freeable ∧ connectedRegistries.heap.Fresh ∧
      ∃ after, setConfiguration ⟨false, 5⟩ connectedRegistries 0 stunConfiguration =
          .ok (after, some "PeerConnection: could not set configuration. Error ID: 5") ∧
        after.peerConnections = connectedRegistries.peerConnections ∧
        after.heap.sizes = connectedRegistries.heap.sizes := by
  obtain ⟨after, ok, -, unchanged, -, -, restored⟩ :=
    @setConfiguration_spec stunConfiguration (by decide) (by decide) ⟨false, 5⟩ connectedRegistries
      Heap.fresh_empty 0 0 rfl ⟨1, true, true, none⟩ rfl rfl
  have message : (if (false = true ∨ (5 : Int32) = 0) then none
      else some ("PeerConnection: could not set configuration. Error ID: " ++
        String.ofList (Json.formatInt (5 : Int32).toInt))) =
      some "PeerConnection: could not set configuration. Error ID: 5" := by decide
  rw [message] at ok
  refine ⟨by decide, by decide, Heap.fresh_empty, after, ok, ?_, restored⟩
  rw [unchanged]
  rfl

end GoWebrtc
