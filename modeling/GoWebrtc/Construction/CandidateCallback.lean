import GoWebrtc.Construction.ChannelProperties
import GoWebrtc.Construction.PeerConnection

/-!
A gathered ICE candidate on its way to Go: `Peer::OnIceCandidate` and `cgoOnIceCandidate`.
-/

namespace GoWebrtc

open GoRuntime CMemory

/-- The candidate libwebrtc hands `OnIceCandidate`: its mid, its index and the text its
`ToString` writes. -/
structure NativeIceCandidate where
  sdpMid : List UInt8
  sdpMlineIndex : Int32
  sdp : List UInt8
  deriving DecidableEq, Repr

/-- `cgoOnIceCandidate(p, cIC)`: the two strings copied with `C.GoString`, `sdp` first, the index
through `int`, then the `OnIceCandidate` of the `PeerConnection` `PCMap` names, when it is set. -/
def cgoOnIceCandidate (pcMap : CGOMap Nat) (onIceCandidate : Nat → Bool) (p : Int64) (heap : Heap)
    (cIC : CGOIceCandidate) : Except Crash (List IceCandidate) := do
  let candidate ← cCall (goString heap cIC.sdp)
  let sdpMid ← cCall (goString heap cIC.sdpMid)
  let ic : IceCandidate := ⟨candidate, sdpMid, goInt cIC.sdpMlineIndex⟩
  let pc ← (pcMap.get p).mapError .panic
  pure (if onIceCandidate pc then [ic] else [])

/-- `Peer::OnIceCandidate(ic)`: `sdp` lives to the end, while the temporary `ic->sdp_mid()` is
destroyed before `cgoOnIceCandidate` reads its `c_str()`. -/
def Peer.onIceCandidate (pcMap : CGOMap Nat) (onIceCandidate : Nat → Bool) (goPeerConnection : Int32)
    (heap : Heap) (ic : NativeIceCandidate) : Except Crash (Heap × List IceCandidate) := do
  let (heap, sdp) := heap.cString ic.sdp
  let (heap, sdpMid) := heap.cString ic.sdpMid
  let cgoIC : CGOIceCandidate := ⟨sdpMid, ic.sdpMlineIndex, sdp⟩
  let heap ← cCall (heap.free sdpMid)
  let events ← cgoOnIceCandidate pcMap onIceCandidate (goInt goPeerConnection) heap cgoIC
  let heap ← cCall (heap.free sdp)
  pure (heap, events)

end GoWebrtc
