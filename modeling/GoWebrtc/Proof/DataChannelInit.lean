import GoWebrtc.Construction.DataChannelInit
import GoWebrtc.Proof.NativeConfiguration

namespace GoWebrtc

open GoRuntime CMemory

/-- The C struct holds the booleans as `1` and `0`, the `int`s narrowed by `C.int`, and a `NULL`
protocol. -/
theorem DataChannelInit.cgo_eq (init : DataChannelInit) :
    init.cgo = ⟨if init.ordered then 1 else 0, cInt init.maxPacketLifeTime, cInt init.maxRetransmits, 0,
      if init.negotiated then 1 else 0, cInt init.id⟩ := by
  cases ordered : init.ordered <;> cases negotiated : init.negotiated <;>
    simp [DataChannelInit.cgo, ordered, negotiated]

/-- Copied into libwebrtc's struct, the booleans come back and the protocol is the default
empty string. -/
theorem castDataChannelInit_cgo (init : DataChannelInit) :
    castDataChannelInit init.cgo =
      ⟨init.ordered, cInt init.maxPacketLifeTime, cInt init.maxRetransmits, [], init.negotiated, cInt init.id⟩ := by
  rw [DataChannelInit.cgo_eq]
  cases init.ordered <;> cases init.negotiated <;> rfl

theorem createDataChannel_eq {label : List Char} (noNul : '\x00' ∉ label) (channelCreated : Bool) (heap : Heap)
    (dcMap : CGOMap DataChannel) (options : List (DataChannelInit → DataChannelInit)) :
    ∃ freed, createDataChannel channelCreated heap dcMap label options =
      .ok (freed,
        (if channelCreated then (dcMap.set (some zeroDataChannel)).1 else dcMap),
        ⟨utf8Bytes label, castDataChannelInit (applyOptions options defaultDataChannelInit).cgo⟩,
        (if channelCreated then some (dcMap.set (some zeroDataChannel)).2 else none),
        (if channelCreated then none else some "Failed to CreateDataChannel")) := by
  obtain ⟨freed, freeOk⟩ := @Heap.free_cString heap (utf8Bytes label)
  have read := @Heap.readCString_cString heap (utf8Bytes label) (noZero_utf8Bytes noNul)
  have native : cgoCreateDataChannel channelCreated (heap.cString (utf8Bytes label)).1
      (heap.cString (utf8Bytes label)).2 (applyOptions options defaultDataChannelInit).cgo =
      .ok (⟨utf8Bytes label, castDataChannelInit (applyOptions options defaultDataChannelInit).cgo⟩,
        channelCreated) := by
    rw [cgoCreateDataChannel, read]
    rfl
  refine ⟨freed, ?_⟩
  simp only [createDataChannel, native, cCall, freeOk]
  cases channelCreated <;> rfl

/-- `CreateDataChannel` hands libwebrtc the label, the options' booleans, their `int`s through
`C.int`, and an empty protocol. -/
theorem createDataChannel_passesInit {label : List Char} (noNul : '\x00' ∉ label) (channelCreated : Bool)
    (heap : Heap) (dcMap : CGOMap DataChannel) (options : List (DataChannelInit → DataChannelInit)) :
    let init := applyOptions options defaultDataChannelInit
    (createDataChannel channelCreated heap dcMap label options).map (fun returned => returned.2.2.1) =
      .ok ⟨utf8Bytes label,
        ⟨init.ordered, cInt init.maxPacketLifeTime, cInt init.maxRetransmits, [], init.negotiated, cInt init.id⟩⟩ := by
  intro init
  obtain ⟨freed, created⟩ := createDataChannel_eq noNul channelCreated heap dcMap options
  rw [created, ← castDataChannelInit_cgo]
  rfl

theorem createDataChannel_passesInit_unordered :
    '\x00' ∉ "chat".toList ∧
      (createDataChannel true Heap.empty newCGOMap "chat".toList [ordered false, maxRetransmits 3]).map
          (fun returned => returned.2.2.1) =
        .ok ⟨utf8Bytes "chat".toList, ⟨false, -1, 3, [], false, -1⟩⟩ :=
  ⟨by decide, createDataChannel_passesInit (by decide) true Heap.empty newCGOMap [ordered false, maxRetransmits 3]⟩

/-- An option that sets `Protocol`, as any `func(*DataChannelInit)` may. -/
def chatProtocol (init : DataChannelInit) : DataChannelInit := { init with protocol := "chat".toList }

/-- The protocol is dropped, `MaxPacketLifeTime(2 ^ 31)` arrives as `-2 ^ 31`, and a label is cut
at its first zero character. -/
theorem createDataChannel_dropsProtocol :
    applyOptions [chatProtocol, maxPacketLifeTime (2 ^ 31)] defaultDataChannelInit =
        ⟨true, 2 ^ 31, -1, "chat".toList, false, -1⟩ ∧
      (createDataChannel true Heap.empty newCGOMap "chat".toList [chatProtocol, maxPacketLifeTime (2 ^ 31)]).map
          (fun returned => returned.2.2.1) =
        .ok ⟨utf8Bytes "chat".toList, ⟨true, -2 ^ 31, -1, [], false, -1⟩⟩ ∧
      (createDataChannel true Heap.empty newCGOMap "a\x00b".toList []).map
          (fun returned => returned.2.2.1.label) = .ok (utf8Bytes "a".toList) := by
  refine ⟨?_, ?_, ?_⟩ <;> decide

end GoWebrtc
