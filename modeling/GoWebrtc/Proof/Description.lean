import GoWebrtc.Construction.Description
import GoWebrtc.Proof.ChannelProperties

/-!
The description calls of a `PeerConnection` as a state machine.
-/

namespace GoWebrtc

open GoRuntime CMemory

/-- The native description libwebrtc receives for a Go one: both strings cut at their first zero
byte. -/
def SessionDescription.native (desc : SessionDescription) : NativeDescription :=
  ⟨(utf8Bytes desc.type).takeWhile (· != 0), (utf8Bytes desc.sdp).takeWhile (· != 0)⟩

/-- `GoStringToCgoSdp` on a fresh heap: the native description of the Go one, with both C strings
freed, so the heap has its live blocks back and stays fresh. -/
theorem goStringToCgoSdp_spec {heap : Heap} (fresh : heap.Fresh) (desc : SessionDescription) :
    ∃ freed, desc.goStringToCgoSdp heap = .ok (freed, desc.native) ∧ freed.sizes = heap.sizes ∧ freed.Fresh := by
  have typeRead : ((heap.cString (utf8Bytes desc.type)).1.cString (utf8Bytes desc.sdp)).1.readCString
      (heap.cString (utf8Bytes desc.type)).2 = .ok ((utf8Bytes desc.type).takeWhile (· != 0)) :=
    ((readsWithin_cString_takeWhile heap (utf8Bytes desc.type)).extend Set.Ico_subset_Iio_self
      (Extends.cString _ (utf8Bytes desc.sdp))).ok
  have sdpRead : ((heap.cString (utf8Bytes desc.type)).1.cString (utf8Bytes desc.sdp)).1.readCString
      ((heap.cString (utf8Bytes desc.type)).1.cString (utf8Bytes desc.sdp)).2 =
      .ok ((utf8Bytes desc.sdp).takeWhile (· != 0)) :=
    Heap.readCString_cString_takeWhile (utf8Bytes desc.sdp)
  have typeFresh := fresh.cString (utf8Bytes desc.type)
  obtain ⟨sdpFreed, sdpFreeOk, sdpSizes⟩ := Heap.free_cString_restores typeFresh (utf8Bytes desc.sdp) rfl
  obtain ⟨final, typeFreeOk, finalSizes⟩ := Heap.free_cString_restores fresh (utf8Bytes desc.type) sdpSizes
  refine ⟨final, ?_, finalSizes, ((typeFresh.cString _).free sdpFreeOk).free typeFreeOk⟩
  simp only [SessionDescription.goStringToCgoSdp, cgoDeserializeSDP, typeRead, sdpRead, cCall,
    Except.mapError, ok_bind, pure_eq_ok, sdpFreeOk, typeFreeOk]
  rfl

/-- An SDP with a zero character reaches libwebrtc cut before it. -/
example : (⟨"offer".toList, "v=0\x00a=x".toList⟩ : SessionDescription).native =
    ⟨utf8Bytes "offer".toList, utf8Bytes "v=0".toList⟩ := by decide

/-- Setting a description: the slot takes the pointer and its native description exactly when
libwebrtc accepts. -/
theorem setDescription_some (failed : String) (accepted : Bool) (objects : Nat → SessionDescription)
    {heap : Heap} (fresh : heap.Fresh) (slot : DescriptionSlot) (p : Nat) :
    ∃ freed, setDescription cgoSetDescription failed accepted objects heap slot (some p) =
        .ok (freed, (if accepted then ⟨some p, some (objects p).native⟩ else slot),
          if accepted then none else some failed) ∧
      freed.sizes = heap.sizes ∧ freed.Fresh := by
  obtain ⟨freed, crossed, restored, stillFresh⟩ := goStringToCgoSdp_spec fresh (objects p)
  refine ⟨freed, ?_, restored, stillFresh⟩
  simp only [setDescription, crossed, ok_bind]
  cases accepted <;> rfl

/-- `LocalDescription` and `RemoteDescription` with a pointer and a native description: the object
the pointer names gets libwebrtc's text as its `Sdp`, and the C copy of that text is freed. -/
theorem description_some (toString : NativeDescription → List UInt8) (objects : Nat → SessionDescription)
    {heap : Heap} (fresh : heap.Fresh) (p : Nat) (native : NativeDescription) :
    ∃ freed, description toString objects heap (some p) (some native) =
        .ok (Function.update objects p { objects p with sdp := decodeUtf8 ((toString native).takeWhile (· != 0)) },
          freed, some p) ∧
      freed.sizes = heap.sizes ∧ freed.Fresh := by
  obtain ⟨freed, read, restored, stillFresh⟩ := goStringFreeing_strdup fresh (toString native)
  refine ⟨freed, ?_, restored, stillFresh⟩
  simp only [description, cgoSdpToGoString, cgoSerializeSDP, pure_eq_ok, cCall, Except.mapError, ok_bind, read]

/-- A slot is backed when the description Go keeps is one libwebrtc holds too. -/
def DescriptionSlot.Backed (slot : DescriptionSlot) : Prop := slot.description.isSome → slot.native.isSome

/-- What every run of description calls keeps: both slots backed, and a fresh C heap. -/
structure DescriptionState.Sound (state : DescriptionState) : Prop where
  localBacked : state.localSlot.Backed
  remoteBacked : state.remoteSlot.Backed
  fresh : state.heap.Fresh

/-- A set keeps its slot backed: the pointer is taken only with the description libwebrtc took. -/
theorem setDescription_backed (failed : String) (accepted : Bool) (objects : Nat → SessionDescription)
    {heap : Heap} (fresh : heap.Fresh) {slot : DescriptionSlot} (backed : slot.Backed) (sdp : Option Nat) :
    ∃ freed next err, setDescription cgoSetDescription failed accepted objects heap slot sdp = .ok (freed, next, err) ∧
      next.Backed ∧ freed.sizes = heap.sizes ∧ freed.Fresh := by
  cases sdp with
  | none => exact ⟨heap, slot, _, rfl, backed, rfl, fresh⟩
  | some p =>
      obtain ⟨freed, set, restored, stillFresh⟩ := setDescription_some failed accepted objects fresh slot p
      refine ⟨freed, _, _, set, ?_, restored, stillFresh⟩
      cases accepted
      · exact backed
      · intro _
        rfl

/-- A get on a backed slot never meets `NULL`: it returns the slot's pointer, and the heap has its
live blocks back. -/
theorem description_backed (toString : NativeDescription → List UInt8) (objects : Nat → SessionDescription)
    {heap : Heap} (fresh : heap.Fresh) {slot : DescriptionSlot} (backed : slot.Backed) :
    ∃ updated freed, description toString objects heap slot.description slot.native =
        .ok (updated, freed, slot.description) ∧
      freed.sizes = heap.sizes ∧ freed.Fresh := by
  cases pointer : slot.description with
  | none => exact ⟨objects, heap, rfl, rfl, fresh⟩
  | some p =>
      obtain ⟨native, held⟩ := Option.isSome_iff_exists.mp (backed (by simp [pointer]))
      obtain ⟨freed, got, restored, stillFresh⟩ := description_some toString objects fresh p native
      exact ⟨_, freed, by rw [held]; exact got, restored, stillFresh⟩

/-- Both native sets are the shared body. -/
theorem cgoSetLocalDescription_eq : cgoSetLocalDescription = cgoSetDescription := rfl

theorem cgoSetRemoteDescription_eq : cgoSetRemoteDescription = cgoSetDescription := rfl

/-- One call from a sound state: it returns, the state stays sound, and the live blocks of the C
heap are those before the call. -/
theorem perform_sound (toString : NativeDescription → List UInt8) {state : DescriptionState}
    (sound : state.Sound) (call : DescriptionCall) :
    ∃ next reply, call.perform toString state = .ok (next, reply) ∧ next.Sound ∧
      next.heap.sizes = state.heap.sizes := by
  cases call with
  | setLocalDescription sdp accepted =>
      obtain ⟨freed, slot, err, set, backed, restored, stillFresh⟩ :=
        setDescription_backed "SetLocalDescription failed." accepted state.objects sound.fresh sound.localBacked sdp
      refine ⟨{ state with heap := freed, localSlot := slot }, .err err, ?_,
        ⟨backed, sound.remoteBacked, stillFresh⟩, restored⟩
      simp only [DescriptionCall.perform, setLocalDescription, cgoSetLocalDescription_eq, set, ok_bind, pure_eq_ok]
  | setRemoteDescription sdp accepted =>
      obtain ⟨freed, slot, err, set, backed, restored, stillFresh⟩ :=
        setDescription_backed "SetRemoteDescription failed." accepted state.objects sound.fresh sound.remoteBacked sdp
      refine ⟨{ state with heap := freed, remoteSlot := slot }, .err err, ?_,
        ⟨sound.localBacked, backed, stillFresh⟩, restored⟩
      simp only [DescriptionCall.perform, setRemoteDescription, cgoSetRemoteDescription_eq, set, ok_bind, pure_eq_ok]
  | localDescription =>
      obtain ⟨updated, freed, got, restored, stillFresh⟩ :=
        description_backed toString state.objects sound.fresh sound.localBacked
      refine ⟨{ state with objects := updated, heap := freed }, .description state.localSlot.description, ?_,
        ⟨sound.localBacked, sound.remoteBacked, stillFresh⟩, restored⟩
      simp only [DescriptionCall.perform, localDescription, cgoGetLocalDescription, got, ok_bind, pure_eq_ok]
  | remoteDescription =>
      obtain ⟨updated, freed, got, restored, stillFresh⟩ :=
        description_backed toString state.objects sound.fresh sound.remoteBacked
      refine ⟨{ state with objects := updated, heap := freed }, .description state.remoteSlot.description, ?_,
        ⟨sound.localBacked, sound.remoteBacked, stillFresh⟩, restored⟩
      simp only [DescriptionCall.perform, remoteDescription, cgoGetRemoteDescription, got, ok_bind, pure_eq_ok]

/-- Every run from a sound state returns, ends sound, and leaves the live blocks of the C heap as
they were; by induction on the calls, from `perform_sound`. -/
theorem runDescriptionCalls_sound (toString : NativeDescription → List UInt8) (calls : List DescriptionCall) :
    ∀ {state : DescriptionState}, state.Sound →
      ∃ final replies, runDescriptionCalls toString state calls = .ok (final, replies) ∧ final.Sound ∧
        final.heap.sizes = state.heap.sizes := by
  induction calls with
  | nil =>
      intro state sound
      exact ⟨state, [], rfl, sound, rfl⟩
  | cons call calls inductionHypothesis =>
      intro state sound
      obtain ⟨next, reply, performed, nextSound, nextSizes⟩ := perform_sound toString sound call
      obtain ⟨final, replies, ran, finalSound, finalSizes⟩ := inductionHypothesis nextSound
      refine ⟨final, reply :: replies, ?_, finalSound, finalSizes.trans nextSizes⟩
      simp only [runDescriptionCalls, performed, ran, ok_bind, pure_eq_ok]

/-- A `PeerConnection` with no description set, on a fresh heap, is sound. -/
theorem unset_sound (objects : Nat → SessionDescription) {heap : Heap} (fresh : heap.Fresh) :
    DescriptionState.Sound ⟨objects, ⟨none, none⟩, ⟨none, none⟩, heap⟩ :=
  ⟨fun unset => absurd unset Bool.false_ne_true, fun unset => absurd unset Bool.false_ne_true, fresh⟩

/-- Every sequence of description calls from an unset `PeerConnection` runs without a crash and
gives the C heap its live blocks back. -/
theorem descriptionCalls_neverCrash (toString : NativeDescription → List UInt8) (objects : Nat → SessionDescription)
    {heap : Heap} (fresh : heap.Fresh) (calls : List DescriptionCall) :
    ∃ final replies, runDescriptionCalls toString ⟨objects, ⟨none, none⟩, ⟨none, none⟩, heap⟩ calls =
        .ok (final, replies) ∧
      final.heap.sizes = heap.sizes := by
  obtain ⟨final, replies, ran, -, restored⟩ := runDescriptionCalls_sound toString calls (unset_sound objects fresh)
  exact ⟨final, replies, ran, restored⟩

theorem descriptionCalls_neverCrash_offer :
    Heap.empty.Fresh ∧
      ∃ final replies, runDescriptionCalls NativeDescription.msg
          ⟨fun _ => ⟨"offer".toList, "v=0".toList⟩, ⟨none, none⟩, ⟨none, none⟩, Heap.empty⟩
          [.localDescription, .setLocalDescription (some 0) false, .setLocalDescription (some 0) true,
            .localDescription, .setRemoteDescription none true, .remoteDescription] =
          .ok (final, replies) ∧
        final.heap.sizes = Heap.empty.sizes :=
  ⟨Heap.fresh_empty, descriptionCalls_neverCrash _ _ Heap.fresh_empty _⟩

/-- After an accepted `SetLocalDescription(p)`, `LocalDescription()` returns `p` with its `Sdp`
overwritten by libwebrtc's serialization. -/
theorem localDescription_rewritesCallerSdp (toString : NativeDescription → List UInt8) {state : DescriptionState}
    (fresh : state.heap.Fresh) (p : Nat) :
    ∃ afterSet afterGet, setLocalDescription true state (some p) = .ok (afterSet, none) ∧
      localDescription toString afterSet = .ok (afterGet, some p) ∧
      afterGet.objects = Function.update state.objects p
        { state.objects p with sdp := decodeUtf8 ((toString (state.objects p).native).takeWhile (· != 0)) } ∧
      afterGet.heap.sizes = state.heap.sizes := by
  obtain ⟨setHeap, set, setSizes, setFresh⟩ :=
    setDescription_some "SetLocalDescription failed." true state.objects fresh state.localSlot p
  obtain ⟨getHeap, got, getSizes, -⟩ :=
    description_some toString state.objects setFresh p (state.objects p).native
  refine ⟨{ state with heap := setHeap, localSlot := ⟨some p, some (state.objects p).native⟩ },
    { state with heap := getHeap, localSlot := ⟨some p, some (state.objects p).native⟩, objects := _ },
    ?_, ?_, rfl, getSizes.trans setSizes⟩
  · simp only [setLocalDescription, cgoSetLocalDescription_eq, set, ok_bind, pure_eq_ok]
    rfl
  · simp only [localDescription, cgoGetLocalDescription, got, ok_bind, pure_eq_ok]
    rfl

theorem localDescription_rewritesCallerSdp_offer :
    Heap.empty.Fresh ∧
      ∃ afterSet afterGet,
        setLocalDescription true ⟨fun _ => ⟨"offer".toList, "v=0".toList⟩, ⟨none, none⟩, ⟨none, none⟩, Heap.empty⟩
            (some 0) = .ok (afterSet, none) ∧
        localDescription NativeDescription.msg afterSet = .ok (afterGet, some 0) ∧
        afterGet.objects = Function.update (fun _ => ⟨"offer".toList, "v=0".toList⟩) 0
          { (⟨"offer".toList, "v=0".toList⟩ : SessionDescription) with
            sdp := decodeUtf8 ((NativeDescription.msg (⟨"offer".toList, "v=0".toList⟩ : SessionDescription).native).takeWhile
              (· != 0)) } ∧
        afterGet.heap.sizes = Heap.empty.sizes :=
  ⟨Heap.fresh_empty, localDescription_rewritesCallerSdp NativeDescription.msg Heap.fresh_empty 0⟩

end GoWebrtc
