import GoWebrtc.Construction.Utils

/-!
Sending on a data channel and the observer callbacks; a Go handler is modelled by whether it is set.
-/

namespace GoWebrtc

open GoRuntime

/-- The fields of a Go `DataChannel` that its callbacks read. -/
structure DataChannel where
  bufferedAmountLowThreshold : Int64
  onOpen : Bool
  onClose : Bool
  onMessage : Bool
  onBufferedAmountLow : Bool
  deriving DecidableEq, Repr

/-- A Go handler that ran, with what it was given. -/
inductive HandlerEvent where
  | opened
  | closed
  | message (bytes : List UInt8)
  | bufferedAmountLow
  deriving DecidableEq, Repr

/-- The native `DataBuffer`: the copied bytes and the `binary` flag. -/
structure DataBuffer where
  data : List UInt8
  binary : Bool
  deriving DecidableEq, Repr

/-- `rtc::CopyOnWriteBuffer(p, n)` copies the `n` bytes at `p`; `none` when those run past the
object `p` points into. -/
def copyOnWriteBuffer (object : List UInt8) (size : UInt64) : Option (List UInt8) :=
  if size.toNat ≤ object.length then some (object.take size.toNat) else none

/-- `CGO_Channel_Send`: the buffer `dc->Send` receives, from the bytes at `data` and a C `int` size. -/
def cgoChannelSend (data : List UInt8) (size : Int32) (binary : Bool) : Option DataBuffer :=
  (copyOnWriteBuffer data (sizeT size)).map fun bytes => ⟨bytes, binary⟩

/-- A non-negative size within the object copies that many of its bytes. -/
theorem copyOnWriteBuffer_of_le {object : List UInt8} {size : UInt64}
    (within : size.toNat ≤ object.length) :
    copyOnWriteBuffer object size = some (object.take size.toNat) := by
  simp [copyOnWriteBuffer, within]

/-- A slice shorter than `2 ^ 31` reaches the native channel whole. -/
theorem cgoChannelSend_length {data : List UInt8} (small : data.length < 2 ^ 31) (binary : Bool) :
    cgoChannelSend data (cInt (Int64.ofNat data.length)) binary = some ⟨data, binary⟩ := by
  have size : (sizeT (cInt (Int64.ofNat data.length))).toNat = data.length := by
    rw [sizeT_toNat] <;> rw [cInt_ofNat small]
    · simp
    · omega
  simp [cgoChannelSend, copyOnWriteBuffer_of_le (Nat.le_of_eq size), size]

/-- What a send did: no native call, a call with a buffer, or a call whose copy runs past the slice. -/
inductive SendOutcome where
  | skipped
  | sent (buffer : DataBuffer)
  | outOfBounds
  deriving DecidableEq, Repr

/-- `sendInternal`: a nil slice sends nothing; otherwise `&data[0]` is taken and the length
crosses as `C.int(len(data))`. -/
def sendInternal (data : Slice UInt8) (binary : Bool) : Except Panic SendOutcome :=
  match data with
  | .nil => .ok .skipped
  | .view bytes => do
      let _ ← data.index 0
      match cgoChannelSend bytes (cInt (Int64.ofNat bytes.length)) binary with
      | some buffer => .ok (.sent buffer)
      | none => .ok .outOfBounds

/-- A non-empty slice shorter than `2 ^ 31` is sent whole. -/
theorem sendInternal_view {data : List UInt8} (nonempty : 0 < data.length)
    (small : data.length < 2 ^ 31) (binary : Bool) :
    sendInternal (.view data) binary = .ok (.sent ⟨data, binary⟩) := by
  have first : (Slice.view data).index 0 = .ok data[0] := Slice.index_eq_ok nonempty
  simp only [sendInternal, first, cgoChannelSend_length small]
  rfl

/-- `Send` sends in binary mode. -/
def send (data : Slice UInt8) : Except Panic SendOutcome := sendInternal data true

/-- `SendText` sends the bytes of a non-empty string in text mode. -/
def sendText (text : List Char) : Except Panic SendOutcome :=
  if 0 < (utf8Bytes text).length then sendInternal (.view (utf8Bytes text)) false
  else .ok .skipped

/-- `cgoChannelOnMessage`: `C.GoBytes(cBytes, C.int(size))`, then the channel's `OnMessage`. -/
def cgoChannelOnMessage (dcMap : CGOMap DataChannel) (goChannel : Int64) (bytes : List UInt8)
    (size : Int64) : Except Panic (List HandlerEvent) := do
  let copied ← goBytes bytes (cInt size)
  let dc ← dcMap.get goChannel
  pure (if dc.onMessage then [.message copied] else [])

/-- A registered channel's `OnMessage` gets the bytes of a buffer shorter than `2 ^ 31`. -/
theorem cgoChannelOnMessage_length {dcMap : CGOMap DataChannel} {goChannel : Int64}
    {dc : DataChannel} (registered : dcMap.get goChannel = .ok dc) {bytes : List UInt8}
    (small : bytes.length < 2 ^ 31) :
    cgoChannelOnMessage dcMap goChannel bytes (Int64.ofNat bytes.length) =
      .ok (if dc.onMessage then [.message bytes] else []) := by
  have copied : goBytes bytes (cInt (Int64.ofNat bytes.length)) = .ok bytes := by
    rw [goBytes_of_nonneg bytes (by rw [cInt_ofNat small]; omega), cInt_ofNat small]
    simp
  simp only [cgoChannelOnMessage, copied, registered]
  rfl

/-- `cgoChannelOnStateChange`: the handler for the native `ReadyState()`. -/
def cgoChannelOnStateChange (dcMap : CGOMap DataChannel) (goChannel : Int64) (readyState : Int32) :
    Except Panic (List HandlerEvent) := do
  let dc ← dcMap.get goChannel
  match readyState.toInt with
  | 0 => pure []
  | 2 => pure []
  | 1 => pure (if dc.onOpen then [.opened] else [])
  | 3 => pure (if dc.onClose then [.closed] else [])
  | _ => throw (.message "fired an un-implemented data.Channel StateChange.")

/-- `cgoChannelOnBufferedAmountChange`: `OnBufferedAmountLow` runs when the amount it is given
is at or below the threshold. -/
def cgoChannelOnBufferedAmountChange (dcMap : CGOMap DataChannel) (goChannel : Int64)
    (amount : Int64) : Except Panic (List HandlerEvent) := do
  let dc ← dcMap.get goChannel
  pure (if dc.onBufferedAmountLow && decide (amount ≤ dc.bufferedAmountLowThreshold) then
    [.bufferedAmountLow] else [])

/-- `CGoDataChannelObserver::OnMessage` passes the buffer's bytes and `buffer.size()`. -/
def observerOnMessage (dcMap : CGOMap DataChannel) (goChannel : Int32) (buffer : DataBuffer) :
    Except Panic (List HandlerEvent) :=
  cgoChannelOnMessage dcMap (goInt goChannel) buffer.data
    (goIntOfUnsigned (UInt64.ofNat buffer.data.length))

/-- `CGoDataChannelObserver::OnBufferedAmountChange(previous_amount)` passes the amount before
the change, as the observer interface documents its argument. -/
def observerOnBufferedAmountChange (dcMap : CGOMap DataChannel) (goChannel : Int32)
    (previousAmount : UInt64) : Except Panic (List HandlerEvent) :=
  cgoChannelOnBufferedAmountChange dcMap (goInt goChannel) (goIntOfUnsigned previousAmount)

/-- The test `FakeDataChannel` delivers every buffer it is sent to its own observer. -/
def fakeLoopback (dcMap : CGOMap DataChannel) (goChannel : Int32) (outcome : SendOutcome) :
    Option (Except Panic (List HandlerEvent)) :=
  match outcome with
  | .sent buffer => some (observerOnMessage dcMap goChannel buffer)
  | _ => none

/-- A native channel whose buffered amount runs through `amounts` reports each change to its
observer with the amount before it; the handlers run at each step. -/
def bufferedAmountRun (dcMap : CGOMap DataChannel) (goChannel : Int32) :
    List UInt64 → List (Except Panic (List HandlerEvent))
  | previous :: current :: rest =>
      observerOnBufferedAmountChange dcMap goChannel previous ::
        bufferedAmountRun dcMap goChannel (current :: rest)
  | _ => []

end GoWebrtc
