import GoWebrtc.Construction.Utils

/-!
How Go wrappers and native observers name each other through `DCMap` and `PCMap`.
-/

namespace GoWebrtc

open GoRuntime

/-- A `CGoDataChannelObserver`: the index it passes to Go, and whether the native channel holds it. -/
structure ChannelObserver where
  goChannel : Int32
  registered : Bool
  deriving DecidableEq, Repr

/-- A Go `DataChannel`: its `DCMap` index and its `cgoChannelObserver` (`none` is nil). -/
structure GoChannel where
  index : Int64
  cgoChannelObserver : Option Nat
  deriving DecidableEq, Repr

/-- A native `Peer`: the index it passes to Go, and whether `pc_` holds a native connection. -/
structure NativePeer where
  goPeerConnection : Int32
  hasConnection : Bool
  deriving DecidableEq, Repr

/-- A Go `PeerConnection`: its `PCMap` index and its `cgoPeer` (`none` is nil). -/
structure GoPeerConnection where
  index : Int64
  cgoPeer : Option Nat
  deriving DecidableEq, Repr

/-- What one native callback resolved its Go wrapper to. -/
inductive Resolution where
  | channel (observer : Nat) (result : Except Panic Nat)
  | peer (peer : Nat) (result : Except Panic Nat)
  deriving DecidableEq, Repr

/-- Both index tables, the native and Go objects, and the callbacks that reached Go. -/
structure Registries where
  dcMap : CGOMap Nat
  pcMap : CGOMap Nat
  observers : List ChannelObserver
  channels : List GoChannel
  peers : List NativePeer
  peerConnections : List GoPeerConnection
  callbacks : List Resolution

/-- The atomic steps of registration, deletion and native callbacks, in source order. -/
inductive RegistrationAction where
  /-- `new CGoDataChannelObserver(channel)` and `channel->RegisterObserver(o)`. -/
  | registerObserver
  /-- `c := new(DataChannel)` and the locked region of `DCMap.Set(c)`. -/
  | newChannel
  /-- `c.index =` the unlocked read of `DCMap.index` that ends `Set`. -/
  | channelIndex
  /-- `CGO_Channel_RegisterObserver(o, C.int(c.index))` writes `o->goChannel`. -/
  | storeChannelIndex
  /-- `c.cgoChannelObserver = o`. -/
  | attachObserver
  /-- `pc := new(PeerConnection)` and the locked region of `PCMap.Set(pc)`. -/
  | newPeerConnection
  /-- `pc.index =` the unlocked read of `PCMap.index`. -/
  | peerIndex
  /-- `pc.cgoPeer = CGO_InitializePeer(C.int(pc.index))`. -/
  | initializePeer
  /-- `CGO_CreatePeerConnection` gives the Peer its native connection. -/
  | createPeerConnection
  /-- `CGO_DeleteDataChannel` drops the observer, whose destructor unregisters it. -/
  | releaseObserver (channel : Nat)
  /-- `deleteDataChannel(dc.index)`. -/
  | deleteChannel (channel : Nat)
  /-- `PCMap.Delete(pc.index)` in `Destroy`. -/
  | deletePeerConnection (peerConnection : Nat)
  /-- `CGO_DestroyPeer` drops the Peer with its native connection. -/
  | destroyPeer (peerConnection : Nat)
  /-- A native `OnMessage`, `OnStateChange` or `OnBufferedAmountChange` on an observer. -/
  | channelCallback (observer : Nat)
  /-- A `PeerConnectionObserver` callback on a Peer. -/
  | peerCallback (peer : Nat)
  deriving DecidableEq, Repr

/-- A thread's remaining steps, with the objects its current registration has made. -/
structure Registrar where
  actions : List RegistrationAction
  observer : Nat
  channel : Nat
  peerConnection : Nat

/-- The calls the threads make; each one runs as its atomic steps. -/
inductive RegistrationCall where
  /-- `PeerConnection.CreateDataChannel`, or `Peer::OnDataChannel` then `cgoOnDataChannel`. -/
  | registerChannel
  /-- `NewPeerConnection` with native steps that succeed. -/
  | registerPeerConnection
  /-- `PeerConnection.DeleteDataChannel` of a channel. -/
  | deleteDataChannel (channel : Nat)
  /-- `PeerConnection.Destroy` of a peer connection. -/
  | destroy (peerConnection : Nat)
  /-- A native callback on an observer, or on a Peer. -/
  | channelCallback (observer : Nat)
  | peerCallback (peer : Nat)

def RegistrationCall.actions : RegistrationCall → List RegistrationAction
  | .registerChannel =>
      [.registerObserver, .newChannel, .channelIndex, .storeChannelIndex, .attachObserver]
  | .registerPeerConnection =>
      [.newPeerConnection, .peerIndex, .initializePeer, .createPeerConnection]
  | .deleteDataChannel channel => [.releaseObserver channel, .deleteChannel channel]
  | .destroy peerConnection => [.deletePeerConnection peerConnection, .destroyPeer peerConnection]
  | .channelCallback observer => [.channelCallback observer]
  | .peerCallback peer => [.peerCallback peer]

namespace Registries

/-- The callback's lookup `DCMap.Get(goChannel)` for a registered observer; nothing otherwise. -/
def resolveChannel (state : Registries) (observer : Nat) : Option Resolution :=
  match state.observers[observer]? with
  | some native =>
      if native.registered then
        some (.channel observer (state.dcMap.get (goInt native.goChannel)))
      else none
  | none => none

/-- The callback's lookup `PCMap.Get(goPeerConnection)` for a Peer with a native connection. -/
def resolvePeer (state : Registries) (peer : Nat) : Option Resolution :=
  match state.peers[peer]? with
  | some native =>
      if native.hasConnection then
        some (.peer peer (state.pcMap.get (goInt native.goPeerConnection)))
      else none
  | none => none

/-- `delete(DCMap.pointers, dc.index)` for a channel that exists. -/
def deleteChannel (state : Registries) (channel : Nat) : Registries :=
  match state.channels[channel]? with
  | some goChannel => { state with dcMap := state.dcMap.delete goChannel.index }
  | none => state

/-- `delete(PCMap.pointers, pc.index)` for a peer connection that exists. -/
def deletePeerConnection (state : Registries) (peerConnection : Nat) : Registries :=
  match state.peerConnections[peerConnection]? with
  | some goPeerConnection => { state with pcMap := state.pcMap.delete goPeerConnection.index }
  | none => state

/-- The observer of a channel is dropped and no longer registered with the native channel. -/
def releaseObserver (state : Registries) (channel : Nat) : Registries :=
  match state.channels[channel]? with
  | some ⟨_, some observer⟩ =>
      let observers := state.observers.modify observer fun native => { native with registered := false }
      { state with observers }
  | _ => state

/-- The Peer of a peer connection is dropped with its native connection. -/
def destroyPeer (state : Registries) (peerConnection : Nat) : Registries :=
  match state.peerConnections[peerConnection]? with
  | some ⟨_, some peer⟩ =>
      let peers := state.peers.modify peer fun native => { native with hasConnection := false }
      { state with peers }
  | _ => state

end Registries

/-- One atomic step of a thread. A new observer or Peer starts with the indeterminate value
`uninitialised` in its index field, which C++ leaves uninitialised until it is written. -/
def registrationStep (uninitialised : Int32) (registrar : Registrar) (state : Registries) :
    Option (Registrar × Registries) :=
  match registrar.actions with
  | [] => none
  | action :: rest =>
      let next := { registrar with actions := rest }
      match action with
      | .registerObserver =>
          some ({ next with observer := state.observers.length },
            { state with observers := state.observers ++ [⟨uninitialised, true⟩] })
      | .newChannel =>
          some ({ next with channel := state.channels.length },
            { state with
              channels := state.channels ++ [⟨0, none⟩]
              dcMap := state.dcMap.setLocked (some state.channels.length) })
      | .channelIndex =>
          let channels := state.channels.modify registrar.channel
            fun goChannel => { goChannel with index := state.dcMap.index }
          some (next, { state with channels })
      | .storeChannelIndex =>
          let index := (state.channels[registrar.channel]?.map GoChannel.index).getD 0
          let observers := state.observers.modify registrar.observer
            fun native => { native with goChannel := cInt index }
          some (next, { state with observers })
      | .attachObserver =>
          let channels := state.channels.modify registrar.channel
            fun goChannel => { goChannel with cgoChannelObserver := some registrar.observer }
          some (next, { state with channels })
      | .newPeerConnection =>
          some ({ next with peerConnection := state.peerConnections.length },
            { state with
              peerConnections := state.peerConnections ++ [⟨0, none⟩]
              pcMap := state.pcMap.setLocked (some state.peerConnections.length) })
      | .peerIndex =>
          let peerConnections := state.peerConnections.modify registrar.peerConnection
            fun goPeerConnection => { goPeerConnection with index := state.pcMap.index }
          some (next, { state with peerConnections })
      | .initializePeer =>
          let index :=
            (state.peerConnections[registrar.peerConnection]?.map GoPeerConnection.index).getD 0
          let peerConnections := state.peerConnections.modify registrar.peerConnection
            fun goPeerConnection => { goPeerConnection with cgoPeer := some state.peers.length }
          some (next, { state with peers := state.peers ++ [⟨cInt index, false⟩], peerConnections })
      | .createPeerConnection =>
          let peer := (state.peerConnections[registrar.peerConnection]?.bind
            GoPeerConnection.cgoPeer).getD state.peers.length
          let peers := state.peers.modify peer fun native => { native with hasConnection := true }
          some (next, { state with peers })
      | .releaseObserver channel => some (next, state.releaseObserver channel)
      | .deleteChannel channel => some (next, state.deleteChannel channel)
      | .deletePeerConnection peerConnection => some (next, state.deletePeerConnection peerConnection)
      | .destroyPeer peerConnection => some (next, state.destroyPeer peerConnection)
      | .channelCallback observer =>
          some (next, { state with callbacks := state.callbacks ++ (state.resolveChannel observer).toList })
      | .peerCallback peer =>
          some (next, { state with callbacks := state.callbacks ++ (state.resolvePeer peer).toList })

/-- User goroutines and the native signalling thread, all sharing the registries. -/
def registrationSystem (Thread : Type) (uninitialised : Int32) :
    Interleaving.System Thread Registries Registrar :=
  ⟨fun _ => registrationStep uninitialised⟩

/-- Empty registries, with every thread about to make its calls. -/
def registrationStart {Thread : Type} (programs : Thread → List RegistrationCall) :
    Interleaving.Config Thread Registries Registrar :=
  ⟨⟨newCGOMap, newCGOMap, [], [], [], [], []⟩,
    fun thread => ⟨(programs thread).flatMap RegistrationCall.actions, 0, 0, 0⟩⟩

/-- A callback is resolved correctly when it reaches the wrapper that points back at its object. -/
def Resolution.Correct (state : Registries) : Resolution → Prop
  | .channel observer result =>
      ∃ channel, result = .ok channel ∧
        (state.channels[channel]?.bind GoChannel.cgoChannelObserver) = some observer
  | .peer native result =>
      ∃ peerConnection, result = .ok peerConnection ∧
        (state.peerConnections[peerConnection]?.bind GoPeerConnection.cgoPeer) = some native

/-- Two user goroutines and the native signalling thread. -/
inductive RegistrationThread where
  | first
  | second
  | signalling
  deriving DecidableEq, Repr

/-- A user goroutine creates a data channel while the signalling thread fires a callback on
its observer. -/
def windowPrograms : RegistrationThread → List RegistrationCall
  | .first => [.registerChannel]
  | .second => []
  | .signalling => [.channelCallback 0]

/-- The callback runs right after `RegisterObserver`, before `DCMap.Set` and before the index
reaches `goChannel`. -/
def windowRun (uninitialised : Int32) : Interleaving.Config RegistrationThread Registries Registrar :=
  (registrationSystem RegistrationThread uninitialised).run (registrationStart windowPrograms)
    [.first, .signalling, .first, .first, .first, .first]

/-- Two goroutines create data channels, then the signalling thread fires on the first observer. -/
def racePrograms : RegistrationThread → List RegistrationCall
  | .first => [.registerChannel]
  | .second => [.registerChannel]
  | .signalling => [.channelCallback 0]

/-- The two registrations alternate step by step, so both `Set` calls return 2. -/
def raceRun (uninitialised : Int32) : Interleaving.Config RegistrationThread Registries Registrar :=
  (registrationSystem RegistrationThread uninitialised).run (registrationStart racePrograms)
    [.first, .second, .first, .second, .first, .second, .first, .second, .first, .second, .signalling]

theorem windowRun_callbacks (uninitialised : Int32) :
    (windowRun uninitialised).shared.callbacks =
      [.channel 0 (.error (.message "couldn't retrieve the pointer"))] := rfl

theorem raceRun_callbacks (uninitialised : Int32) :
    (raceRun uninitialised).shared.callbacks = [.channel 0 (.ok 1)] := by
  simp [raceRun, racePrograms, registrationStart, registrationSystem, Interleaving.System.advance,
    registrationStep, RegistrationCall.actions, Registries.resolveChannel]
  rfl

theorem raceRun_observer (uninitialised : Int32) :
    ((raceRun uninitialised).shared.channels[1]?.bind GoChannel.cgoChannelObserver) = some 1 := by
  simp [raceRun, racePrograms, registrationStart, registrationSystem, Interleaving.System.advance,
    registrationStep, RegistrationCall.actions]

/-- Whatever the uninitialised field holds, the early callback panics, and after the race the
callback on the first observer reaches the second channel. -/
theorem callbacks_missTheirWrapper (uninitialised : Int32) :
    (windowRun uninitialised).shared.callbacks =
        [.channel 0 (.error (.message "couldn't retrieve the pointer"))] ∧
      (raceRun uninitialised).shared.callbacks = [.channel 0 (.ok 1)] ∧
      (∀ resolution ∈ (windowRun uninitialised).shared.callbacks,
        ¬ resolution.Correct (windowRun uninitialised).shared) ∧
      ∀ resolution ∈ (raceRun uninitialised).shared.callbacks,
        ¬ resolution.Correct (raceRun uninitialised).shared := by
  refine ⟨windowRun_callbacks uninitialised, raceRun_callbacks uninitialised, ?_, ?_⟩
  · intro resolution member
    rw [windowRun_callbacks, List.mem_singleton] at member
    subst member
    rintro ⟨channel, panicked, -⟩
    cases panicked
  · intro resolution member
    rw [raceRun_callbacks, List.mem_singleton] at member
    subst member
    rintro ⟨channel, reached, attached⟩
    cases reached
    rw [raceRun_observer] at attached
    cases attached

end GoWebrtc
