import GoWebrtc.Construction.NativeConfiguration
import GoWebrtc.Construction.DataChannel

/-!
`PeerConnection.CreateDataChannel`, its options and `CGO_CreateDataChannel`.
-/

namespace GoWebrtc

open GoRuntime CMemory

/-- `DataChannelInit` (`datachannel.go`): the settings of a new channel as Go holds them. -/
structure DataChannelInit where
  ordered : Bool
  maxPacketLifeTime : Int64
  maxRetransmits : Int64
  protocol : List Char
  negotiated : Bool
  id : Int64
  deriving DecidableEq, Repr

/-- `Ordered(ordered)`: the option that sets `Ordered`. -/
def ordered (value : Bool) (init : DataChannelInit) : DataChannelInit := { init with ordered := value }

/-- `MaxPacketLifeTime(maxPacketLifeTime)`. -/
def maxPacketLifeTime (value : Int64) (init : DataChannelInit) : DataChannelInit :=
  { init with maxPacketLifeTime := value }

/-- `MaxRetransmits(maxRetransmits)`. -/
def maxRetransmits (value : Int64) (init : DataChannelInit) : DataChannelInit :=
  { init with maxRetransmits := value }

/-- `Negotiated(negotiated)`. -/
def negotiated (value : Bool) (init : DataChannelInit) : DataChannelInit := { init with negotiated := value }

/-- The defaults `CreateDataChannel` starts from; `Protocol` keeps Go's zero value. -/
def defaultDataChannelInit : DataChannelInit := ⟨true, -1, -1, [], false, -1⟩

/-- `for _, option := range options { option(&init) }`: each option, a `func(*DataChannelInit)`,
in order. -/
def applyOptions (options : List (DataChannelInit → DataChannelInit)) (init : DataChannelInit) :
    DataChannelInit :=
  options.foldl (fun init option => option init) init

/-- `CGO_DataChannelInit`, passed by value: C `int`s and `char *protocol`, `0` for `NULL`. -/
structure CGODataChannelInit where
  ordered : Int32
  maxPacketLifeTime : Int32
  maxRetransmits : Int32
  protocol : Nat
  negotiated : Int32
  id : Int32
  deriving DecidableEq, Repr

/-- The block of `CreateDataChannel` that fills `cfg := C.CGO_DataChannelInit{}`: the booleans as
`1` and `0`, the `int`s through `C.int`; `protocol` keeps the zero value `NULL`. -/
def DataChannelInit.cgo (init : DataChannelInit) : CGODataChannelInit :=
  let cfg : CGODataChannelInit := ⟨0, 0, 0, 0, 0, 0⟩
  let cfg := { cfg with ordered := 1 }
  let cfg := if init.ordered = false then { cfg with ordered := 0 } else cfg
  let cfg := { cfg with negotiated := 0 }
  let cfg := if init.negotiated = true then { cfg with negotiated := 1 } else cfg
  { cfg with
    id := cInt init.id
    maxRetransmits := cInt init.maxRetransmits
    maxPacketLifeTime := cInt init.maxPacketLifeTime }

/-- libwebrtc's `DataChannelInit` (`datachannelinterface.h`) with the fields that
`CGO_CreateDataChannel` writes and `protocol`, a `std::string`. -/
structure NativeDataChannelInit where
  ordered : Bool
  maxRetransmitTime : Int32
  maxRetransmits : Int32
  protocol : List UInt8
  negotiated : Bool
  id : Int32
  deriving DecidableEq, Repr

/-- A default-constructed `DataChannelInit`. -/
def nativeDefaultDataChannelInit : NativeDataChannelInit := ⟨true, -1, -1, [], false, -1⟩

/-- The copy at the start of `CGO_CreateDataChannel`: the `int`s as they are, `ordered` and
`negotiated` converted to `bool`; `protocol` is not copied. -/
def castDataChannelInit (dict : CGODataChannelInit) : NativeDataChannelInit :=
  let config := nativeDefaultDataChannelInit
  { config with
    ordered := dict.ordered ≠ 0
    maxRetransmits := dict.maxRetransmits
    maxRetransmitTime := dict.maxPacketLifeTime
    negotiated := dict.negotiated ≠ 0
    id := dict.id }

/-- The call `pc_->CreateDataChannel(l, &config)`: the label's bytes and the init. -/
structure CreateDataChannelCall where
  label : List UInt8
  config : NativeDataChannelInit
  deriving DecidableEq, Repr

/-- `CGO_CreateDataChannel`: the copied init and label, and whether an observer (`true`) or
`NULL` (`false`) comes back. -/
def cgoCreateDataChannel (channelCreated : Bool) (heap : Heap) (label : Nat) (dict : CGODataChannelInit) :
    Except Fault (CreateDataChannelCall × Bool) := do
  let config := castDataChannelInit dict
  let l ← heap.readCString label
  pure (⟨l, config⟩, channelCreated)

/-- `new(DataChannel)`: no threshold and no handlers. -/
def zeroDataChannel : DataChannel := ⟨0, false, false, false, false⟩

/-- `NewDataChannel(o)` on the Go side: nil for a `NULL` observer, otherwise a new wrapper stored
in `DCMap` under the index it keeps. -/
def newDataChannel (dcMap : CGOMap DataChannel) (observer : Bool) : CGOMap DataChannel × Option Int64 :=
  if observer then
    let (dcMap, index) := dcMap.set (some zeroDataChannel)
    (dcMap, some index)
  else (dcMap, none)

/-- `PeerConnection.CreateDataChannel(label, options...)`: the native call, the `DCMap` index of
the channel and the error text (`none` is nil). -/
def createDataChannel (channelCreated : Bool) (heap : Heap) (dcMap : CGOMap DataChannel) (label : List Char)
    (options : List (DataChannelInit → DataChannelInit)) :
    Except Crash (Heap × CGOMap DataChannel × CreateDataChannelCall × Option Int64 × Option String) := do
  let init := applyOptions options defaultDataChannelInit
  let cfg := init.cgo
  let (heap, l) := heap.cString (utf8Bytes label)
  let (call, cDataChannel) ← cCall (cgoCreateDataChannel channelCreated heap l cfg)
  let (dcMap, dc, err) :=
    if !cDataChannel then (dcMap, none, some "Failed to CreateDataChannel")
    else
      let (dcMap, dc) := newDataChannel dcMap cDataChannel
      (dcMap, dc, none)
  let heap ← cCall (heap.free l)
  pure (heap, dcMap, call, dc, err)

end GoWebrtc
