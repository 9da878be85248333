import GoWebrtc.Construction.DataChannel

/-!
Sending and the buffered-amount callback, for every payload and every run.
-/

namespace GoWebrtc

open GoRuntime

/-- `sendInternal` guards only against a nil slice, so `&data[0]` panics on an empty one. -/
theorem send_emptySlice_panics : send (.view []) = .error (.indexOutOfRange 0 0) := by
  decide

/-- Every payload shorter than `2 ^ 31` bytes goes out whole in binary mode, and the loop-back
channel hands the same bytes to `OnMessage` of the registered channel. -/
theorem send_loopback {dcMap : CGOMap DataChannel} {goChannel : Int32} {dc : DataChannel}
    (registered : dcMap.get (goInt goChannel) = .ok dc) (listening : dc.onMessage = true)
    {data : List UInt8} (nonempty : 0 < data.length) (small : data.length < 2 ^ 31) :
    send (.view data) = .ok (.sent ⟨data, true⟩) ∧
      fakeLoopback dcMap goChannel (.sent ⟨data, true⟩) = some (.ok [.message data]) := by
  refine ⟨sendInternal_view nonempty small true, ?_⟩
  have delivered := cgoChannelOnMessage_length registered small
  rw [listening, if_pos rfl] at delivered
  simp only [fakeLoopback, observerOnMessage, goIntOfUnsigned_ofNat, delivered]

/-- A channel at index 1 of `DCMap` that listens for a low buffered amount. -/
def listeningChannels : CGOMap DataChannel :=
  (newCGOMap.set (some ⟨100, false, false, true, true⟩)).1

theorem listeningChannels_get : listeningChannels.get (goInt 1) = .ok ⟨100, false, false, true, true⟩ := by
  decide

/-- The messages of a text are its UTF-8 bytes, sent in text mode. -/
theorem sendText_bytes {text : List Char} (nonempty : 0 < (utf8Bytes text).length)
    (small : (utf8Bytes text).length < 2 ^ 31) :
    sendText text = .ok (.sent ⟨utf8Bytes text, false⟩) := by
  simp only [sendText, if_pos nonempty]
  exact sendInternal_view nonempty small false

theorem send_loopback_one :
    send (.view [7]) = .ok (.sent ⟨[7], true⟩) ∧
      fakeLoopback listeningChannels 1 (.sent ⟨[7], true⟩) = some (.ok [.message [7]]) :=
  send_loopback listeningChannels_get rfl (by decide) (by decide)

theorem sendText_bytes_hello :
    sendText "hi".toList = .ok (.sent ⟨utf8Bytes "hi".toList, false⟩) :=
  sendText_bytes (by decide) (by decide)

/-- The crossing law of the W3C `bufferedamountlow` event for a run: at step `k` the handler runs
exactly when the amount falls from above the threshold to at or below it. -/
def FiresAtCrossings (threshold : Int64) (amounts : List UInt64)
    (handlers : List (Except Panic (List HandlerEvent))) : Prop :=
  ∀ step previous current, amounts[step]? = some previous → amounts[step + 1]? = some current →
    (handlers[step]? = some (.ok [.bufferedAmountLow]) ↔
      threshold.toInt < previous.toNat ∧ (current.toNat : Int) ≤ threshold.toInt)

/-- At the threshold 100, a fall from 150 to 50 runs nothing and a rise from 10 to 20 runs the
handler: the observer hands over the amount before each change. -/
theorem bufferedAmountLow_ignoresCrossings :
    bufferedAmountRun listeningChannels 1 [150, 50] = [.ok []] ∧
      bufferedAmountRun listeningChannels 1 [10, 20] = [.ok [.bufferedAmountLow]] ∧
      ¬ FiresAtCrossings 100 [150, 50] (bufferedAmountRun listeningChannels 1 [150, 50]) ∧
      ¬ FiresAtCrossings 100 [10, 20] (bufferedAmountRun listeningChannels 1 [10, 20]) := by
  have fall : bufferedAmountRun listeningChannels 1 [150, 50] = [.ok []] := by
    decide
  have rise : bufferedAmountRun listeningChannels 1 [10, 20] = [.ok [.bufferedAmountLow]] := by
    decide
  refine ⟨fall, rise, fun law => ?_, fun law => ?_⟩
  · have crossing : (100 : Int64).toInt < ((150 : UInt64).toNat : Int) ∧
        ((50 : UInt64).toNat : Int) ≤ (100 : Int64).toInt := by
      decide
    have fired := (law 0 150 50 rfl rfl).mpr crossing
    rw [fall] at fired
    cases fired
  · have fired := (law 0 10 20 rfl rfl).mp (by rw [rise]; rfl)
    have below : ¬ ((100 : Int64).toInt < ((10 : UInt64).toNat : Int)) := by
      decide
    exact below fired.1

end GoWebrtc
