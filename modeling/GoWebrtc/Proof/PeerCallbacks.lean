import GoWebrtc.Construction.PeerCallbacks
import GoWebrtc.Construction.CandidateCallback
import GoWebrtc.C.Frame

/-!
What the native `Peer` callbacks deliver to the Go handlers.
-/

namespace GoWebrtc

open GoRuntime CMemory

/-- The ICE hook delivers the state it is given, or nothing when no handler is set. -/
theorem cgoOnIceConnectionStateChange_events {pcMap : CGOMap Nat} {handlers : Nat → PeerHandlers}
    {p state : Int64} {events : List PeerEvent}
    (delivered : cgoOnIceConnectionStateChange pcMap handlers p state = .ok events) :
    ∀ event ∈ events, event = .iceConnectionStateChange state := by
  obtain ⟨pc, -, returned⟩ := bind_eq_ok delivered
  cases returned
  intro event member
  split at member
  · exact List.mem_singleton.mp member
  · cases member

/-- The connection hook delivers the translation of the ICE state, when there is one. -/
theorem cgoOnConnectionStateChange_events {pcMap : CGOMap Nat} {handlers : Nat → PeerHandlers}
    {p iceState : Int64} {events : List PeerEvent}
    (delivered : cgoOnConnectionStateChange pcMap handlers p iceState = .ok events) :
    ∀ event ∈ events, ∃ state, connectionStateOf iceState = some state ∧ event = .connectionStateChange state := by
  unfold cgoOnConnectionStateChange at delivered
  cases translated : connectionStateOf iceState with
  | none =>
      rw [translated] at delivered
      cases delivered
      intro event member
      cases member
  | some state =>
      rw [translated] at delivered
      obtain ⟨pc, -, returned⟩ := bind_eq_ok delivered
      cases returned
      intro event member
      split at member
      · exact ⟨state, rfl, List.mem_singleton.mp member⟩
      · cases member

/-- A native state other than `kIceConnectionFailed` neither crosses nor translates to a failed one. -/
theorem crossed_ne_failed {newState : NativeIceConnectionState} (other : newState ≠ .failed) :
    goInt newState.toCInt ≠ iceConnectionStateFailed ∧
      connectionStateOf (goInt newState.toCInt) ≠ some peerConnectionStateFailed := by
  cases newState <;> first | exact absurd rfl other | decide

/-- However `PCMap` and the handlers stand, the events a change of ICE connection state
delivers never carry `IceConnectionStateFailed` or `PeerConnectionStateFailed`. -/
theorem onIceConnectionChange_neverFailed (pcMap : CGOMap Nat) (handlers : Nat → PeerHandlers)
    (goPeerConnection : Int32) (newState : NativeIceConnectionState) (events : List PeerEvent)
    (delivered : onIceConnectionChange pcMap handlers goPeerConnection newState = .ok events) :
    PeerEvent.iceConnectionStateChange iceConnectionStateFailed ∉ events ∧
      PeerEvent.connectionStateChange peerConnectionStateFailed ∉ events := by
  unfold onIceConnectionChange at delivered
  split at delivered
  case isTrue failed =>
    obtain ⟨pc, -, returned⟩ := bind_eq_ok delivered
    cases returned
    constructor <;> split <;> simp
  case isFalse other =>
    obtain ⟨first, firstOk, rest⟩ := bind_eq_ok delivered
    obtain ⟨second, secondOk, returned⟩ := bind_eq_ok rest
    cases returned
    obtain ⟨notIceFailed, notFailed⟩ := crossed_ne_failed other
    have firstEvents := cgoOnIceConnectionStateChange_events firstOk
    have secondEvents := cgoOnConnectionStateChange_events secondOk
    constructor
    · intro member
      rcases List.mem_append.mp member with inFirst | inSecond
      · have same := firstEvents _ inFirst
        exact notIceFailed (PeerEvent.iceConnectionStateChange.inj same).symm
      · obtain ⟨state, -, same⟩ := secondEvents _ inSecond
        cases same
    · intro member
      rcases List.mem_append.mp member with inFirst | inSecond
      · cases firstEvents _ inFirst
      · obtain ⟨state, translated, same⟩ := secondEvents _ inSecond
        cases same
        exact notFailed translated

/-- A failed connection of the first `PeerConnection`, with every handler set: the error handler
runs and nothing else. -/
theorem onIceConnectionChange_neverFailed_first :
    onIceConnectionChange (newCGOMap.set (some 0)).1 (fun _ => ⟨true, true, true⟩) 1 .failed =
        .ok [.iceCandidateError] ∧
      PeerEvent.iceConnectionStateChange iceConnectionStateFailed ∉ [PeerEvent.iceCandidateError] ∧
      PeerEvent.connectionStateChange peerConnectionStateFailed ∉ [PeerEvent.iceCandidateError] :=
  let delivered : onIceConnectionChange (newCGOMap.set (some 0)).1 (fun _ => ⟨true, true, true⟩) 1 .failed =
      .ok [.iceCandidateError] := by decide
  ⟨delivered, onIceConnectionChange_neverFailed _ _ 1 .failed _ delivered⟩

/-- Every `OnIceCandidate` faults in `cgoOnIceCandidate`, reading the mid through the released
storage of the temporary `ic->sdp_mid()`. -/
theorem onIceCandidate_readsDestroyedMid (pcMap : CGOMap Nat) (onIceCandidate : Nat → Bool)
    (goPeerConnection : Int32) (heap : Heap) (ic : NativeIceCandidate) :
    Peer.onIceCandidate pcMap onIceCandidate goPeerConnection heap ic =
      .error (.fault (.badLoad (heap.cString ic.sdp).1.next)) := by
  -- the temporary's block is released right after it is made
  obtain ⟨released, freeOk⟩ := @Heap.free_cString (heap.cString ic.sdp).1 ic.sdpMid
  have live : ((heap.cString ic.sdp).1.cString ic.sdpMid).1.sizes ((heap.cString ic.sdp).1.cString ic.sdpMid).2 =
      some (ic.sdpMid.length + 1) := by
    simp
  have textRead : released.readCString (heap.cString ic.sdp).2 = .ok (ic.sdp.takeWhile (· != 0)) :=
    ((readsWithin_cString_takeWhile heap ic.sdp).extend Set.Ico_subset_Iio_self
      ((Extends.cString (heap.cString ic.sdp).1 ic.sdpMid).free freeOk live le_rfl)).ok
  have nonnull : ((heap.cString ic.sdp).1.cString ic.sdpMid).2 ≠ 0 :=
    Nat.pos_iff_ne_zero.mp (heap.cString ic.sdp).1.next_pos
  have below : ((heap.cString ic.sdp).1.cString ic.sdpMid).2 < ((heap.cString ic.sdp).1.cString ic.sdpMid).1.next := by
    simp
  have midRead : released.readCString ((heap.cString ic.sdp).1.cString ic.sdpMid).2 =
      .error (.badLoad (heap.cString ic.sdp).1.next) :=
    Heap.readCString_freed nonnull live (Nat.succ_pos _) below freeOk
  simp only [Peer.onIceCandidate, cgoOnIceCandidate, goString, cCall, Except.mapError, freeOk, textRead,
    midRead, pure_eq_ok, ok_bind, error_bind]

end GoWebrtc
