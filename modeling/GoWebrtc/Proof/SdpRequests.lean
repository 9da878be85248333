import GoWebrtc.Construction.SdpRequests

/-!
The SDP requests: a late reply reaches the next call, and replies in time reach their own.
-/

namespace GoWebrtc

/-- The native layer answers request `n` with the text `offer n` or `answer n`. -/
def numberedReply (request : Nat) (kind : SdpRequest) : Option (List Char) :=
  some ((match kind with
    | .offer => "offer ".toList
    | .answer => "answer ".toList) ++ (Nat.repr request).toList)

/-- The offer call times out and resets the promise; the answer call takes the new promise's
future; only then the offer's reply arrives, and the answer call finishes. -/
def staleOfferRun : Interleaving.Config SdpThread SdpPeer SdpCaller :=
  (sdpSystem numberedReply).run (sdpStart [.offer, .answer])
    [.caller, .caller, .caller, .caller, .signalling, .caller, .caller]

/-- The same calls, with both replies arriving while the answer call waits. -/
def doubleReplyRun : Interleaving.Config SdpThread SdpPeer SdpCaller :=
  (sdpSystem numberedReply).run (sdpStart [.offer, .answer])
    [.caller, .caller, .caller, .caller, .signalling, .signalling]

/-- The late offer reply completes the answer call, and `CreateAnswer` returns it typed as an
answer; when both replies come in time, the second `set_value` throws. -/
theorem lateOffer_returnedByCreateAnswer :
    (staleOfferRun.locals .caller).finished =
        [⟨0, .offer, none⟩, ⟨1, .answer, some "offer 0".toList⟩] ∧
      sdpResult .answer (some "offer 0".toList) = .ok ⟨"answer".toList, "offer 0".toList⟩ ∧
      doubleReplyRun.shared.thrown = true := by
  decide

/-- The first `done` calls, each with the reply to its own request. -/
def answeredCalls (reply : Nat → SdpRequest → Option (List Char)) (calls : List SdpRequest) (done : Nat) :
    List SdpCall :=
  (calls.take done).mapIdx fun request kind => ⟨request, kind, reply request kind⟩

theorem answeredCalls_succ {reply : Nat → SdpRequest → Option (List Char)} {calls : List SdpRequest}
    {done : Nat} {kind : SdpRequest} (asked : calls[done]? = some kind) :
    answeredCalls reply calls (done + 1) = answeredCalls reply calls done ++ [⟨done, kind, reply done kind⟩] := by
  have inside : done < calls.length := (List.getElem?_eq_some_iff.mp asked).1
  simp [answeredCalls, List.take_add_one, asked, List.mapIdx_append, Nat.min_eq_left inside.le]

theorem getElem?_eq_some_of_drop_eq_cons {α : Type} {l rest : List α} {n : Nat} {x : α}
    (split : l.drop n = x :: rest) : l[n]? = some x ∧ rest = l.drop (n + 1) := by
  constructor
  · have first := congrArg (·[0]?) split
    simpa using first
  · rw [← List.tail_drop, split, List.tail_cons]

/-- Whether the caller's timed wait would give up if it looked now: its future holds no value. -/
def SdpCaller.waitExpires (caller : SdpCaller) (peer : SdpPeer) : Bool :=
  match caller.phase with
  | .waiting _ future _ => (peer.states.values future).isNone
  | _ => false

/-- The schedule never runs the caller's wait before the reply it waits for: the native layer
always answers within `TIMEOUT_SECS`. -/
def waitsInTime (reply : Nat → SdpRequest → Option (List Char))
    (config : Interleaving.Config SdpThread SdpPeer SdpCaller) : List SdpThread → Bool
  | [] => true
  | .caller :: schedule =>
      !(config.locals .caller).waitExpires config.shared &&
        waitsInTime reply ((sdpSystem reply).advance config .caller) schedule
  | .signalling :: schedule => waitsInTime reply ((sdpSystem reply).advance config .signalling) schedule

section InTime

variable (reply : Nat → SdpRequest → Option (List Char)) (calls : List SdpRequest)

/-- Where the calling goroutine is, and what the Peer holds there, while every reply comes in
time: `done` calls have finished and `remaining` are still to be made. -/
inductive SdpPhaseAgrees (done : Nat) (remaining : List SdpRequest) (peer : SdpPeer) : CallPhase → Prop
  | idle (remainingAt : remaining = calls.drop done) (issuedAt : peer.issued = done)
      (quiet : peer.unanswered = []) (fresh : peer.states.values peer.promiseSDP = none) :
      SdpPhaseAgrees done remaining peer .idle
  | pending (kind : SdpRequest) (asked : calls[done]? = some kind)
      (remainingAt : remaining = calls.drop (done + 1)) (issuedAt : peer.issued = done + 1)
      (queued : peer.unanswered = [(done, kind)]) (fresh : peer.states.values peer.promiseSDP = none) :
      SdpPhaseAgrees done remaining peer (.waiting kind peer.promiseSDP done)
  | answered (kind : SdpRequest) (asked : calls[done]? = some kind)
      (remainingAt : remaining = calls.drop (done + 1)) (issuedAt : peer.issued = done + 1)
      (quiet : peer.unanswered = []) (satisfied : peer.states.values peer.promiseSDP = some (reply done kind)) :
      SdpPhaseAgrees done remaining peer (.waiting kind peer.promiseSDP done)
  | received (kind : SdpRequest) (asked : calls[done]? = some kind)
      (remainingAt : remaining = calls.drop (done + 1)) (issuedAt : peer.issued = done + 1)
      (quiet : peer.unanswered = []) :
      SdpPhaseAgrees done remaining peer (.gotValue kind done (reply done kind))

/-- The calling goroutine and the Peer agree with the program when every reply came in time. -/
structure SdpAgrees (caller : SdpCaller) (peer : SdpPeer) : Prop where
  finished : caller.finished = answeredCalls reply calls caller.finished.length
  notThrown : peer.thrown = false
  allocated : peer.promiseSDP < peer.states.next
  phase : SdpPhaseAgrees reply calls caller.finished.length caller.calls peer caller.phase

variable {reply calls}

theorem sdpAgrees_start : SdpAgrees reply calls ⟨calls, .idle, []⟩ SdpPeer.initial where
  finished := rfl
  notThrown := rfl
  allocated := Nat.zero_lt_one
  phase := .idle rfl rfl rfl rfl

/-- A step of the calling goroutine that does not find its wait expired keeps the agreement. -/
theorem SdpAgrees.callerStep {caller next : SdpCaller} {peer stepped : SdpPeer}
    (agrees : SdpAgrees reply calls caller peer) (inTime : caller.waitExpires peer = false)
    (step : GoWebrtc.callerStep caller peer = some (next, stepped)) : SdpAgrees reply calls next stepped := by
  obtain ⟨remaining, phase, finished⟩ := caller
  obtain ⟨finishedAt, notThrown, allocated, agreesPhase⟩ := agrees
  dsimp only at finishedAt agreesPhase inTime step ⊢
  cases agreesPhase with
  | idle remainingAt issuedAt quiet fresh =>
      cases remaining with
      | nil => simp [GoWebrtc.callerStep] at step
      | cons kind rest =>
          simp only [GoWebrtc.callerStep, Option.some.injEq, Prod.mk.injEq] at step
          obtain ⟨rfl, rfl⟩ := step
          obtain ⟨asked, restAt⟩ := getElem?_eq_some_of_drop_eq_cons remainingAt.symm
          refine ⟨finishedAt, notThrown, allocated, ?_⟩
          rw [issuedAt]
          exact .pending kind asked restAt (by simp [SdpPeer.request, issuedAt])
            (by simp [SdpPeer.request, quiet, issuedAt]) fresh
  | pending kind asked remainingAt issuedAt queued fresh =>
      -- the wait would give up here, which the schedule rules out
      simp [SdpCaller.waitExpires, fresh] at inTime
  | answered kind asked remainingAt issuedAt quiet satisfied =>
      simp only [GoWebrtc.callerStep, satisfied, Option.some.injEq, Prod.mk.injEq] at step
      obtain ⟨rfl, rfl⟩ := step
      exact ⟨finishedAt, notThrown, allocated, .received kind asked remainingAt issuedAt quiet⟩
  | received kind asked remainingAt issuedAt quiet =>
      simp only [GoWebrtc.callerStep, Option.some.injEq, Prod.mk.injEq] at step
      obtain ⟨rfl, rfl⟩ := step
      have length : (finished ++ [(⟨finished.length, kind, reply finished.length kind⟩ : SdpCall)]).length =
          finished.length + 1 := by simp
      refine ⟨?_, notThrown, by simp [SdpPeer.resetPromise], ?_⟩
      · rw [length, answeredCalls_succ asked, ← finishedAt]
      · rw [length]
        exact .idle remainingAt issuedAt quiet (Promise.Store.values_create_state _)

/-- The signalling thread's reply goes to the promise the caller waits on. -/
theorem SdpAgrees.signallingStep {caller : SdpCaller} {peer stepped : SdpPeer}
    (agrees : SdpAgrees reply calls caller peer) (step : GoWebrtc.signallingStep reply peer = some stepped) :
    SdpAgrees reply calls caller stepped := by
  obtain ⟨remaining, phase, finished⟩ := caller
  obtain ⟨finishedAt, notThrown, allocated, agreesPhase⟩ := agrees
  dsimp only at finishedAt agreesPhase ⊢
  cases agreesPhase with
  | pending kind asked remainingAt issuedAt queued fresh =>
      obtain ⟨states, set, nextAt, valuesAt⟩ :=
        Promise.Store.setValue_of_pending fresh allocated (reply finished.length kind)
      simp only [GoWebrtc.signallingStep, queued, SdpPeer.onReply, set, Option.some.injEq] at step
      subst step
      refine ⟨finishedAt, notThrown, by simpa [nextAt] using allocated, ?_⟩
      exact .answered kind asked remainingAt issuedAt rfl (by simp [valuesAt])
  | idle _ _ quiet _ => simp [GoWebrtc.signallingStep, quiet] at step
  | answered _ _ _ _ quiet _ => simp [GoWebrtc.signallingStep, quiet] at step
  | received _ _ _ _ quiet => simp [GoWebrtc.signallingStep, quiet] at step

/-- Any thread's step keeps the agreement, the caller's when its wait does not give up. -/
theorem SdpAgrees.advance {config : Interleaving.Config SdpThread SdpPeer SdpCaller}
    (agrees : SdpAgrees reply calls (config.locals .caller) config.shared) (thread : SdpThread)
    (inTime : thread = .caller → (config.locals .caller).waitExpires config.shared = false) :
    SdpAgrees reply calls (((sdpSystem reply).advance config thread).locals .caller)
      ((sdpSystem reply).advance config thread).shared := by
  unfold Interleaving.System.advance
  split
  · rename_i next shared step
    simp only [sdpSystem, agrees.notThrown, Bool.false_eq_true, if_false] at step
    dsimp only
    cases thread with
    | caller =>
        simp only at step
        rw [Function.update_self]
        exact agrees.callerStep (inTime rfl) step
    | signalling =>
        simp only at step
        obtain ⟨replied, signalled, same⟩ := Option.map_eq_some_iff.mp step
        simp only [Prod.mk.injEq] at same
        obtain ⟨rfl, rfl⟩ := same
        rw [Function.update_of_ne (by decide)]
        exact agrees.signallingStep signalled
  · exact agrees

theorem SdpAgrees.run {config : Interleaving.Config SdpThread SdpPeer SdpCaller}
    (agrees : SdpAgrees reply calls (config.locals .caller) config.shared) (schedule : List SdpThread)
    (inTime : waitsInTime reply config schedule = true) :
    SdpAgrees reply calls (((sdpSystem reply).run config schedule).locals .caller)
      ((sdpSystem reply).run config schedule).shared := by
  induction schedule generalizing config with
  | nil => exact agrees
  | cons thread schedule ih =>
      cases thread with
      | caller =>
          simp only [waitsInTime, Bool.and_eq_true, Bool.not_eq_true'] at inTime
          exact ih (agrees.advance .caller fun _ => inTime.1) inTime.2
      | signalling =>
          exact ih (agrees.advance .signalling fun never => by cases never) inTime

/-- One call when the native layer answers at once: the caller asks, the signalling thread
replies, and the caller reads the value and returns. -/
theorem SdpAgrees.round {config : Interleaving.Config SdpThread SdpPeer SdpCaller}
    (agrees : SdpAgrees reply calls (config.locals .caller) config.shared)
    (idle : (config.locals .caller).phase = .idle) {kind : SdpRequest} {rest : List SdpRequest}
    (asking : (config.locals .caller).calls = kind :: rest) :
    let after := (sdpSystem reply).run config [.caller, .signalling, .caller, .caller]
    waitsInTime reply config [.caller, .signalling, .caller, .caller] = true ∧
      (after.locals .caller).phase = .idle ∧ (after.locals .caller).calls = rest ∧
      (after.locals .caller).finished.length = (config.locals .caller).finished.length + 1 := by
  obtain ⟨peer, locals⟩ := config
  obtain ⟨finishedAt, notThrown, allocated, agreesPhase⟩ := agrees
  dsimp only at finishedAt notThrown allocated agreesPhase idle asking ⊢
  rw [idle] at agreesPhase
  cases agreesPhase with
  | idle remainingAt issuedAt quiet fresh =>
      obtain ⟨states, set, nextAt, valuesAt⟩ :=
        Promise.Store.setValue_of_pending fresh allocated (reply peer.issued kind)
      simp [waitsInTime, Interleaving.System.advance, sdpSystem, GoWebrtc.callerStep, GoWebrtc.signallingStep,
        SdpPeer.request, SdpPeer.onReply, SdpCaller.waitExpires, notThrown, idle, asking, quiet, set, valuesAt]

theorem waitsInTime_append (config : Interleaving.Config SdpThread SdpPeer SdpCaller)
    (first second : List SdpThread) :
    waitsInTime reply config (first ++ second) =
      (waitsInTime reply config first && waitsInTime reply ((sdpSystem reply).run config first) second) := by
  induction first generalizing config with
  | nil => simp [waitsInTime]
  | cons thread first ih =>
      cases thread <;> simp [waitsInTime, ih, Bool.and_assoc]

/-- The schedule where the native layer answers each request at once. -/
def punctualSchedule (calls : List SdpRequest) : List SdpThread :=
  calls.flatMap fun _ => [.caller, .signalling, .caller, .caller]

/-- From an idle caller, the punctual schedule is in time and finishes every remaining call. -/
theorem SdpAgrees.punctual {config : Interleaving.Config SdpThread SdpPeer SdpCaller}
    (agrees : SdpAgrees reply calls (config.locals .caller) config.shared)
    (idle : (config.locals .caller).phase = .idle) :
    let after := (sdpSystem reply).run config (punctualSchedule (config.locals .caller).calls)
    waitsInTime reply config (punctualSchedule (config.locals .caller).calls) = true ∧
      (after.locals .caller).finished.length =
        (config.locals .caller).finished.length + (config.locals .caller).calls.length := by
  dsimp only
  generalize asking : (config.locals .caller).calls = remaining
  induction remaining generalizing config with
  | nil => simp [punctualSchedule, waitsInTime]
  | cons kind rest ih =>
      obtain ⟨inTime, idleAfter, restAfter, finishedAfter⟩ := agrees.round idle asking
      have agreesAfter := agrees.run [.caller, .signalling, .caller, .caller] inTime
      obtain ⟨restInTime, restFinished⟩ := ih agreesAfter idleAfter restAfter
      have split : punctualSchedule (kind :: rest) =
          [.caller, .signalling, .caller, .caller] ++ punctualSchedule rest := rfl
      rw [split, waitsInTime_append, Interleaving.System.run_append, inTime, restInTime, restFinished,
        finishedAfter, List.length_cons]
      exact ⟨rfl, by omega⟩

end InTime

/-- While every reply comes in time, each finished SDP call returns its own reply; the punctual
schedule finishes every call. -/
theorem sdpCalls_returnOwnReply (reply : Nat → SdpRequest → Option (List Char)) (calls : List SdpRequest) :
    (∀ schedule, waitsInTime reply (sdpStart calls) schedule = true →
      let final := (sdpSystem reply).run (sdpStart calls) schedule
      (final.locals .caller).finished = answeredCalls reply calls (final.locals .caller).finished.length ∧
        final.shared.thrown = false) ∧
      waitsInTime reply (sdpStart calls) (punctualSchedule calls) = true ∧
      (((sdpSystem reply).run (sdpStart calls) (punctualSchedule calls)).locals .caller).finished =
        answeredCalls reply calls calls.length := by
  refine ⟨fun schedule inTime => ?_, ?_⟩
  · have agrees := sdpAgrees_start.run schedule inTime
    exact ⟨agrees.finished, agrees.notThrown⟩
  · have started : SdpAgrees reply calls ((sdpStart calls).locals .caller) (sdpStart calls).shared :=
      sdpAgrees_start
    obtain ⟨inTime, finishedLength⟩ := started.punctual rfl
    have agrees := started.run (punctualSchedule calls) inTime
    refine ⟨inTime, ?_⟩
    rw [agrees.finished]
    simp only [sdpStart] at finishedLength ⊢
    rw [finishedLength]
    simp

end GoWebrtc
