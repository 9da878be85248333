import GoWebrtc.Construction.ChannelProperties
import GoWebrtc.Proof.DataChannelInit

/-!
What the getters of a new `DataChannel` read back.
-/

namespace GoWebrtc

open GoRuntime CMemory

/-- A string C returned from `strdup` reaches Go as the bytes before their first zero, and the
deferred free gives back the live blocks of a fresh heap, which stays fresh. -/
theorem goStringFreeing_strdup {heap : Heap} (fresh : heap.Fresh) (bytes : List UInt8) :
    ∃ freed, goStringFreeing (heap.strdup bytes) = .ok (freed, decodeUtf8 (bytes.takeWhile (· != 0))) ∧
      freed.sizes = heap.sizes ∧ freed.Fresh := by
  obtain ⟨freed, ok, restored⟩ := Heap.free_cString_restores fresh (bytes.takeWhile (· != 0)) rfl
  refine ⟨freed, ?_, restored, (fresh.cString _).free ok⟩
  have read : (heap.strdup bytes).1.readCString (heap.strdup bytes).2 = .ok (bytes.takeWhile (· != 0)) :=
    Heap.readCString_strdup bytes
  unfold Heap.strdup at read ⊢
  simp only [goStringFreeing, goString, read, cCall, Except.mapError, ok, pure_eq_ok, ok_bind]

/-- Left at their default `-1`, `MaxPacketLifeTime()` and `MaxRetransmits()` read back as `65535`. -/
example : DataChannel.maxPacketLifeTime ⟨[], nativeDefaultDataChannelInit, 1, 0⟩ = 65535 ∧
    DataChannel.maxRetransmits ⟨[], nativeDefaultDataChannelInit, 1, 0⟩ = 65535 := by decide

end GoWebrtc
