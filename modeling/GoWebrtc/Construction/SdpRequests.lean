import GoWebrtc.Go.Interleaving
import GoWebrtc.Cpp.Promise
import GoWebrtc.Construction.Sdp

/-!
`CGO_CreateOffer` and `CGO_CreateAnswer`: a goroutine waits on the Peer's one `promiseSDP`.
-/

namespace GoWebrtc

open Promise

/-- Which description a call asks `pc_` for. -/
inductive SdpRequest where
  | offer
  | answer
  deriving DecidableEq, Repr

/-- The Peer's state on this path: the `promiseSDP` member, the promise states, the requests
`pc_` has not answered yet in the order it got them, and whether a callback has thrown. -/
structure SdpPeer where
  promiseSDP : Nat
  states : Store (Option (List Char))
  unanswered : List (Nat × SdpRequest)
  issued : Nat
  thrown : Bool

namespace SdpPeer

/-- `resetPromise`: the member gets a new promise. -/
def resetPromise (peer : SdpPeer) : SdpPeer :=
  { peer with promiseSDP := peer.states.create.2, states := peer.states.create.1 }

/-- `pc_->CreateOffer(peer, ...)` or `CreateAnswer`: one more request for `pc_` to answer. -/
def request (peer : SdpPeer) (kind : SdpRequest) : SdpPeer :=
  { peer with unanswered := peer.unanswered ++ [(peer.issued, kind)], issued := peer.issued + 1 }

/-- `OnSuccess(desc)` or `OnFailure` (with `NULL`): `promiseSDP.set_value` on the current member;
the `promise_already_satisfied` exception escapes the callback. -/
def onReply (peer : SdpPeer) (sdp : Option (List Char)) : SdpPeer :=
  match peer.states.setValue peer.promiseSDP sdp with
  | .ok states => { peer with states }
  | .error _ => { peer with thrown := true }

/-- `Peer::Initialize` gives the member its first promise. -/
def initial : SdpPeer :=
  resetPromise ⟨0, Store.empty, [], 0, false⟩

@[simp] theorem resetPromise_promiseSDP (peer : SdpPeer) :
    peer.resetPromise.promiseSDP = peer.states.next := rfl

@[simp] theorem resetPromise_unanswered (peer : SdpPeer) :
    peer.resetPromise.unanswered = peer.unanswered := rfl

@[simp] theorem request_promiseSDP (peer : SdpPeer) (kind : SdpRequest) :
    (peer.request kind).promiseSDP = peer.promiseSDP := rfl

end SdpPeer

/-- Where a goroutine is inside `CGO_CreateOffer` or `CGO_CreateAnswer`. -/
inductive CallPhase where
  | idle
  | waiting (kind : SdpRequest) (future request : Nat)
  | gotValue (kind : SdpRequest) (request : Nat) (sdp : Option (List Char))
  | timedOut (kind : SdpRequest) (request : Nat)
  deriving DecidableEq, Repr

/-- A finished call: the request it made, and the SDP text it returned (`none` is `NULL`). -/
structure SdpCall where
  request : Nat
  kind : SdpRequest
  returned : Option (List Char)
  deriving DecidableEq, Repr

/-- The goroutine that makes the calls one after another, so that they never overlap. -/
structure SdpCaller where
  calls : List SdpRequest
  phase : CallPhase
  finished : List SdpCall

/-- One statement of the calling goroutine: `get_future` with the request, the timed wait with
`r.get()`, and the `resetPromise` before returning. -/
def callerStep (caller : SdpCaller) (peer : SdpPeer) : Option (SdpCaller × SdpPeer) :=
  match caller.phase, caller.calls with
  | .idle, [] => none
  | .idle, kind :: rest =>
      some (⟨rest, .waiting kind peer.promiseSDP peer.issued, caller.finished⟩, peer.request kind)
  | .waiting kind future request, calls =>
      match peer.states.values future with
      | some sdp => some (⟨calls, .gotValue kind request sdp, caller.finished⟩, peer)
      | none => some (⟨calls, .timedOut kind request, caller.finished⟩, peer)
  | .gotValue kind request sdp, calls =>
      some (⟨calls, .idle, caller.finished ++ [⟨request, kind, sdp⟩]⟩, peer.resetPromise)
  | .timedOut kind request, calls =>
      some (⟨calls, .idle, caller.finished ++ [⟨request, kind, none⟩]⟩, peer.resetPromise)

/-- The signalling thread answers the oldest request with what `pc_` produced for it. -/
def signallingStep (reply : Nat → SdpRequest → Option (List Char)) (peer : SdpPeer) :
    Option SdpPeer :=
  match peer.unanswered with
  | [] => none
  | (request, kind) :: rest => some ({ peer with unanswered := rest }.onReply (reply request kind))

/-- The two threads that touch `promiseSDP`. -/
inductive SdpThread where
  | caller
  | signalling
  deriving DecidableEq, Repr

/-- The calling goroutine and the signalling thread; nothing runs after a callback has thrown.
`reply request kind` is the description `pc_` produces for a request, `none` for `OnFailure`. -/
def sdpSystem (reply : Nat → SdpRequest → Option (List Char)) :
    Interleaving.System SdpThread SdpPeer SdpCaller :=
  ⟨fun thread caller peer =>
    if peer.thrown then none
    else match thread with
      | .caller => callerStep caller peer
      | .signalling => (signallingStep reply peer).map fun next => (caller, next)⟩

/-- The Peer after `Initialize`, with the goroutine about to make its calls. -/
def sdpStart (calls : List SdpRequest) : Interleaving.Config SdpThread SdpPeer SdpCaller :=
  ⟨SdpPeer.initial, fun _ => ⟨calls, .idle, []⟩⟩

/-- `PeerConnection.CreateOffer` and `CreateAnswer` wrap the returned text, or fail on `NULL`. -/
def sdpResult (kind : SdpRequest) (returned : Option (List Char)) :
    Except String SessionDescription :=
  let failure := match kind with
    | .offer => "CreateOffer: could not prepare SDP offer."
    | .answer => "CreateAnswer failed: could not prepare SDP offer."
  let sdpType := match kind with
    | .offer => "offer".toList
    | .answer => "answer".toList
  match returned with
  | none => .error failure
  | some sdp =>
      match newSessionDescription sdpType sdp with
      | some description => .ok description
      | none => .error failure

end GoWebrtc
