import GoWebrtc.Construction.DataChannelInit

/-!
The properties a Go `DataChannel` reads from its native channel.
-/

namespace GoWebrtc

open GoRuntime CMemory

/-- A native `DataChannelInterface` as the getters see it: the label and init it was created
with, its `DataState` and its buffered amount. -/
structure NativeDataChannel where
  label : List UInt8
  config : NativeDataChannelInit
  readyState : Int32
  bufferedAmount : UInt64
  deriving DecidableEq, Repr

/-- The channel libwebrtc returns for `pc_->CreateDataChannel(l, &config)`, in a given state. -/
def NativeDataChannel.created (call : CreateDataChannelCall) (readyState : Int32) (bufferedAmount : UInt64) :
    NativeDataChannel :=
  ⟨call.label, call.config, readyState, bufferedAmount⟩

/-- `CGO_Channel_Label`: `strdup(dc->label().c_str())`. -/
def cgoChannelLabel (heap : Heap) (channel : NativeDataChannel) : Heap × Nat := heap.strdup channel.label

def cgoChannelOrdered (channel : NativeDataChannel) : Bool := channel.config.ordered

/-- `CGO_Channel_MaxRetransmitTime`: the `uint16_t` that `dc->maxRetransmitTime()` makes of the
init's `int`, returned as an `int`. -/
def cgoChannelMaxRetransmitTime (channel : NativeDataChannel) : Int32 :=
  cIntOfUint16 (uint16T channel.config.maxRetransmitTime)

def cgoChannelMaxRetransmits (channel : NativeDataChannel) : Int32 :=
  cIntOfUint16 (uint16T channel.config.maxRetransmits)

/-- `CGO_Channel_Protocol`: `strdup(dc->protocol().c_str())`. -/
def cgoChannelProtocol (heap : Heap) (channel : NativeDataChannel) : Heap × Nat :=
  heap.strdup channel.config.protocol

def cgoChannelNegotiated (channel : NativeDataChannel) : Bool := channel.config.negotiated

def cgoChannelID (channel : NativeDataChannel) : Int32 := channel.config.id

def cgoChannelReadyState (channel : NativeDataChannel) : Int32 := channel.readyState

/-- `CGO_Channel_BufferedAmount`: the `uint64_t` of `dc->buffered_amount()` returned as an `int`,
which keeps its low 32 bits. -/
def cgoChannelBufferedAmount (channel : NativeDataChannel) : Int32 := channel.bufferedAmount.toUInt32.toInt32

/-- `C.GoString(p)`: the bytes before the first zero, as a Go string. -/
def goString (heap : Heap) (p : Nat) : Except Fault (List Char) := do
  let bytes ← heap.readCString p
  pure (decodeUtf8 bytes)

/-- The end of `Label`, `Protocol` and `CgoSdpToGoString`: the string `s` that C returned is read
with `C.GoString(s)` and released by the deferred `C.free(unsafe.Pointer(s))`. -/
def goStringFreeing (returned : Heap × Nat) : Except Crash (Heap × List Char) := do
  let (heap, s) := returned
  let text ← cCall (goString heap s)
  let heap ← cCall (heap.free s)
  pure (heap, text)

/-- `(c *DataChannel) Label()`, on the native channel `c.cgoChannel` points to. -/
def DataChannel.label (heap : Heap) (cgoChannel : NativeDataChannel) : Except Crash (Heap × List Char) :=
  goStringFreeing (cgoChannelLabel heap cgoChannel)

def DataChannel.ordered (cgoChannel : NativeDataChannel) : Bool := cgoChannelOrdered cgoChannel

def DataChannel.protocol (heap : Heap) (cgoChannel : NativeDataChannel) : Except Crash (Heap × List Char) :=
  goStringFreeing (cgoChannelProtocol heap cgoChannel)

def DataChannel.maxPacketLifeTime (cgoChannel : NativeDataChannel) : UInt64 :=
  goUint (cgoChannelMaxRetransmitTime cgoChannel)

def DataChannel.maxRetransmits (cgoChannel : NativeDataChannel) : UInt64 :=
  goUint (cgoChannelMaxRetransmits cgoChannel)

def DataChannel.negotiated (cgoChannel : NativeDataChannel) : Bool := cgoChannelNegotiated cgoChannel

def DataChannel.id (cgoChannel : NativeDataChannel) : Int64 := goInt (cgoChannelID cgoChannel)

def DataChannel.readyState (cgoChannel : NativeDataChannel) : Int64 := goInt (cgoChannelReadyState cgoChannel)

def DataChannel.bufferedAmount (cgoChannel : NativeDataChannel) : Int64 :=
  goInt (cgoChannelBufferedAmount cgoChannel)

end GoWebrtc
