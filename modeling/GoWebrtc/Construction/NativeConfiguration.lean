import GoWebrtc.C.Frame
import GoWebrtc.Construction.Configuration

/-!
How a Go `Configuration` crosses to libwebrtc: `_CGO`, `castConfig_` and `freeConfig`.
-/

namespace GoWebrtc

open GoRuntime CMemory

/-- `unsafe.Sizeof(uintptr(0))`, the stride of the URL arrays; `sizeof(char *)` on the C side. -/
def pointerSize : Nat := 8

/-- `sizeof(CGO_IceServer)`: `urls` at 0, `numUrls` at 8, `username` at 16, `credential` at 24. -/
def iceServerSize : Nat := 32

/-- `sizeof(CGO_Configuration)`: `iceServers` at 0, `numIceServers` at 8, `iceTransportPolicy` at
12, `bundlePolicy` at 16, `peerIdentity` at 24. -/
def configurationSize : Nat := 32

/-- A Go panic, or undefined behaviour in C. -/
inductive Crash where
  | panic (reason : Panic)
  | fault (reason : Fault)
  deriving DecidableEq, Repr

/-- A `C.CGO_IceServer` value: the URL array, its C `int` length, and the two strings. -/
structure CGOIceServer where
  urls : Nat
  numUrls : Int32
  username : Nat
  credential : Nat
  deriving DecidableEq, Repr

/-- Storing a `CGO_IceServer` value writes its four fields at their offsets. -/
def storeIceServer (heap : Heap) (address : Nat) (server : CGOIceServer) : Heap :=
  (((heap.store address (.pointer server.urls)).store (address + 8) (.int server.numUrls)).store
    (address + 16) (.pointer server.username)).store (address + 24) (.pointer server.credential)

/-- Loading a `CGO_IceServer` value reads its four fields at their offsets. -/
def loadIceServer (heap : Heap) (address : Nat) : Except Fault CGOIceServer := do
  let urls ← heap.loadPointer address
  let numUrls ← heap.loadInt (address + 8)
  let username ← heap.loadPointer (address + 16)
  let credential ← heap.loadPointer (address + 24)
  pure ⟨urls, numUrls, username, credential⟩

/-- The URL array of `IceServer._CGO`: allocated only for a server with URLs, slot `i` taking
`C.CString(url)`; otherwise `urls` keeps the nil of `new(C.CGO_IceServer)`. -/
def IceServer.cgoUrls (server : IceServer) (heap : Heap) : Heap × Nat :=
  if 0 < server.urls.length then
    let cUrls := heap.malloc (pointerSize * server.urls.length)
    (fillSlots (fun url heap => heap.cString (utf8Bytes url))
      (fun heap slot cUrl => heap.store slot (.pointer cUrl)) cUrls.2 pointerSize cUrls.1 0 server.urls,
      cUrls.2)
  else (heap, 0)

/-- `IceServer._CGO`: the URL array, its length as a C `int`, then the two strings. -/
def IceServer.cgo (server : IceServer) (heap : Heap) : Heap × CGOIceServer :=
  let urls := server.cgoUrls heap
  let numUrls := cInt (Int64.ofNat server.urls.length)
  let username := urls.1.cString (utf8Bytes server.username)
  let credential := username.1.cString (utf8Bytes server.credential)
  (credential.1, ⟨urls.2, numUrls, username.2, credential.2⟩)

/-- The servers array of `Configuration._CGO`, stored into `c.iceServers`: allocated only when
there are servers, slot `i` taking `server._CGO()`; otherwise neither is written. -/
def Configuration.cgoServers (config : Configuration) (heap : Heap) (c : Nat) : Heap :=
  if 0 < config.iceServers.length then
    let cServers := heap.malloc (iceServerSize * config.iceServers.length)
    (fillSlots IceServer.cgo storeIceServer cServers.2 iceServerSize cServers.1 0
      config.iceServers).store c (.pointer cServers.2)
  else heap

/-- The fields of `Configuration._CGO` after the servers: the count and the two policies as C
`int`s, then the peer identity. -/
def Configuration.cgoFields (config : Configuration) (heap : Heap) (c : Nat) : Heap :=
  let heap := heap.store (c + 8) (.int (cInt (Int64.ofNat config.iceServers.length)))
  let heap := heap.store (c + 12) (.int (cInt config.iceTransportPolicy))
  let heap := heap.store (c + 16) (.int (cInt config.bundlePolicy))
  let peerIdentity := heap.cString (utf8Bytes config.peerIdentity)
  peerIdentity.1.store (c + 24) (.pointer peerIdentity.2)

/-- `Configuration._CGO`: the block `c`, the servers, then the other fields. -/
def Configuration.cgo (config : Configuration) (heap : Heap) : Heap × Nat :=
  let c := heap.malloc configurationSize
  (config.cgoFields (config.cgoServers c.1 c.2) c.2, c.2)

/-- The fields of `PeerConnectionInterface::IceServer` that `castConfig_` sets; strings are bytes. -/
structure NativeIceServer where
  uri : List UInt8
  urls : List (List UInt8)
  username : List UInt8
  password : List UInt8
  deriving DecidableEq, Repr

/-- The fields of `PeerConnectionInterface::RTCConfiguration` that `castConfig_` sets; the two
enumerations hold the C `int` they were cast from. -/
structure RTCConfiguration where
  servers : List NativeIceServer
  type : Int32
  bundlePolicy : Int32
  deriving DecidableEq, Repr

/-- One server of the loop in `castConfig_`: `vector<string>(s.urls, s.urls + s.numUrls)`, then
the user name and the credential. -/
def castIceServer (heap : Heap) (server : CGOIceServer) : Except Fault NativeIceServer := do
  let urls ← loadRange (fun slot => heap.loadPointer slot >>= heap.readCString) server.urls
    pointerSize server.numUrls
  let username ← heap.readCString server.username
  let password ← heap.readCString server.credential
  pure ⟨[], urls, username, password⟩

/-- `castConfig_`: the servers from `iceServers` to `iceServers + numIceServers`, then the two
policies; an empty range reads nothing. -/
def castConfig (heap : Heap) (cgoConfig : Nat) : Except Fault RTCConfiguration := do
  let numIceServers ← heap.loadInt (cgoConfig + 8)
  let first ← if numIceServers = 0 then pure 0 else heap.loadPointer cgoConfig
  let servers ← loadRange (loadIceServer heap) first iceServerSize numIceServers
  let servers ← servers.mapM (castIceServer heap)
  let type ← heap.loadInt (cgoConfig + 12)
  let bundlePolicy ← heap.loadInt (cgoConfig + 16)
  pure ⟨servers, type, bundlePolicy⟩

/-- `maxUrls`, the bound `freeIceServer` checks the URL count against. -/
def maxUrls : Int64 := 16777216

/-- `maxIceServers`, the bound `freeConfig` checks the server count against. -/
def maxIceServers : Int64 := 16777216

/-- A C call that faults crashes the Go program. -/
def cCall {α : Type} (result : Except Fault α) : Except Crash α := result.mapError .fault

/-- The loop of `freeIceServer`: `C.free(cUrls[i])` for the `remaining` slots from `index` on. -/
def freeUrls (cUrls : Nat) (heap : Heap) : Nat → Nat → Except Crash Heap
  | _, 0 => .ok heap
  | index, remaining + 1 => do
      let cUrl ← cCall (heap.loadPointer (cUrls + pointerSize * index))
      let heap ← cCall (heap.free cUrl)
      freeUrls cUrls heap (index + 1) remaining

/-- `freeIceServer`: the URL strings, the two strings, then the URL array. -/
def freeIceServer (heap : Heap) (cServer : CGOIceServer) : Except Crash Heap := do
  let total := goInt cServer.numUrls
  if total > maxUrls then throw (.panic (.message "Too many urls. Something went wrong."))
  let heap ← freeUrls cServer.urls heap 0 total.toInt.toNat
  let heap ← cCall (heap.free cServer.username)
  let heap ← cCall (heap.free cServer.credential)
  cCall (heap.free cServer.urls)

/-- The loop of `freeConfig`: `freeIceServer(cServers[i])` for the `remaining` slots from `index`. -/
def freeServers (cServers : Nat) (heap : Heap) : Nat → Nat → Except Crash Heap
  | _, 0 => .ok heap
  | index, remaining + 1 => do
      let cServer ← cCall (loadIceServer heap (cServers + iceServerSize * index))
      let heap ← freeIceServer heap cServer
      freeServers cServers heap (index + 1) remaining

/-- `freeConfig`: the servers and their array when there are some, then the peer identity and
the configuration block. -/
def freeConfig (heap : Heap) (cConfig : Nat) : Except Crash Heap := do
  let total := goInt (← cCall (heap.loadInt (cConfig + 8)))
  let heap ←
    if total > maxIceServers then throw (.panic (.message "Too many ice servers. Something went wrong."))
    else if total > 0 then do
      let cServers ← cCall (heap.loadPointer cConfig)
      let heap ← freeServers cServers heap 0 total.toInt.toNat
      cCall (heap.free cServers)
    else pure heap
  let peerIdentity ← cCall (heap.loadPointer (cConfig + 24))
  let heap ← cCall (heap.free peerIdentity)
  cCall (heap.free cConfig)

end GoWebrtc
