import GoWebrtc.Construction.NativeConfiguration

/-!
`castConfig_` rebuilds the configuration `_CGO` laid out.
-/

namespace GoWebrtc

open GoRuntime CMemory Heap

/-- The native server a Go server describes: its strings as UTF-8 bytes, `uri` empty. -/
def nativeIceServer (server : IceServer) : NativeIceServer :=
  ⟨[], server.urls.map utf8Bytes, utf8Bytes server.username, utf8Bytes server.credential⟩

/-- The native configuration a Go configuration describes. -/
def nativeConfiguration (config : Configuration) : RTCConfiguration :=
  ⟨config.iceServers.map nativeIceServer, cInt config.iceTransportPolicy, cInt config.bundlePolicy⟩

/-- A server `_CGO` hands over whole: its URL count fits in a C `int` and no string holds NUL. -/
def IceServer.Crossable (server : IceServer) : Prop :=
  server.urls.length < 2 ^ 31 ∧ (∀ url ∈ server.urls, '\x00' ∉ url) ∧ '\x00' ∉ server.username ∧
    '\x00' ∉ server.credential

instance : DecidablePred IceServer.Crossable := fun _ =>
  inferInstanceAs (Decidable (_ ∧ _ ∧ _ ∧ _))

/-- A configuration `_CGO` hands over whole: its server count fits in a C `int` and every server
can be handed over. -/
def Configuration.Crossable (config : Configuration) : Prop :=
  config.iceServers.length < 2 ^ 31 ∧ ∀ server ∈ config.iceServers, server.Crossable

instance : DecidablePred Configuration.Crossable := fun _ =>
  inferInstanceAs (Decidable (_ ∧ _))

theorem noZero_utf8Bytes {text : List Char} (free : '\x00' ∉ text) : (0 : UInt8) ∉ utf8Bytes text :=
  fun zero => free ((zero_mem_utf8Bytes text).mp zero)

@[simp] theorem storeIceServer_next (heap : Heap) (address : Nat) (server : CGOIceServer) :
    (storeIceServer heap address server).next = heap.next := rfl

/-- Storing a `CGO_IceServer` changes only its 32 bytes. -/
theorem agree_storeIceServer (heap : Heap) (address : Nat) (server : CGOIceServer) :
    Agree heap (storeIceServer heap address server) (Set.Ico address (address + iceServerSize))ᶜ := by
  have outside : ∀ offset, offset + 8 ≤ iceServerSize → ∀ other ∈ (Set.Ico address (address + iceServerSize))ᶜ,
      other < address + offset ∨ address + offset + 8 ≤ other := by
    intro offset fits other member
    simp only [Set.mem_compl_iff, Set.mem_Ico, not_and, not_lt] at member
    omega
  unfold storeIceServer
  refine (((agree_store ?_).trans (agree_store ?_)).trans (agree_store ?_)).trans (agree_store ?_)
  all_goals
    intro other member
    simp only [Cell.width]
  · simpa using outside 0 (by decide) other member
  · have wide := outside 8 (by decide) other member
    omega
  · exact outside 16 (by decide) other member
  · exact outside 24 (by decide) other member

/-- A `CGO_IceServer` is read from the 32 bytes it was stored in. -/
theorem loadIceServer_congr {before after : Heap} {address : Nat}
    (agree : Agree before after (Set.Ico address (address + iceServerSize))) :
    loadIceServer after address = loadIceServer before address := by
  have field : ∀ offset width, offset + width ≤ iceServerSize →
      Agree before after (Set.Ico (address + offset) (address + offset + width)) := fun offset width fits =>
    agree.mono (Set.Ico_subset_Ico (by omega) (by omega))
  have urls := loadPointer_congr (by simpa using field 0 8 (by decide))
  have numUrls := loadInt_congr (field 8 4 (by decide))
  have username := loadPointer_congr (field 16 8 (by decide))
  have credential := loadPointer_congr (field 24 8 (by decide))
  simp only [loadIceServer, urls, numUrls, username, credential]

/-- A stored `CGO_IceServer` loads back field by field. -/
theorem loadIceServer_storeIceServer (heap : Heap) {address : Nat} (nonnull : address ≠ 0)
    (server : CGOIceServer) : loadIceServer (storeIceServer heap address server) address = .ok server := by
  have urls : (storeIceServer heap address server).loadPointer address = .ok server.urls := by
    unfold storeIceServer
    rw [loadPointer_store_of_apart (by simp only [Cell.width]; omega),
      loadPointer_store_of_apart (by simp only [Cell.width]; omega),
      loadPointer_store_of_apart (by simp only [Cell.width]; omega), loadPointer_store_self nonnull]
  have numUrls : (storeIceServer heap address server).loadInt (address + 8) = .ok server.numUrls := by
    unfold storeIceServer
    rw [loadInt_store_of_apart (by simp only [Cell.width]; omega),
      loadInt_store_of_apart (by simp only [Cell.width]; omega), loadInt_store_self (by omega)]
  have username : (storeIceServer heap address server).loadPointer (address + 16) =
      .ok server.username := by
    unfold storeIceServer
    rw [loadPointer_store_of_apart (by simp only [Cell.width]; omega), loadPointer_store_self (by omega)]
  have credential : (storeIceServer heap address server).loadPointer (address + 24) =
      .ok server.credential := by
    unfold storeIceServer
    rw [loadPointer_store_self (by omega)]
  simp only [loadIceServer, urls, numUrls, username, credential]
  rfl

/-- A stored `CGO_IceServer` loads back while its 32 bytes are kept. -/
theorem readsWithin_loadIceServer_store (heap : Heap) {slot : Nat} (nonnull : slot ≠ 0) (server : CGOIceServer) :
    ReadsWithin (fun later => loadIceServer later slot) server (storeIceServer heap slot server)
      (Set.Ico slot (slot + iceServerSize)) := fun later agree _ => by
  show loadIceServer later slot = .ok server
  rw [loadIceServer_congr agree]
  exact loadIceServer_storeIceServer heap nonnull server

/-- The URL loop of `IceServer._CGO` converts in fresh memory and stores one pointer per slot. -/
theorem urlSlotFrame :
    SlotFrame (fun url heap => heap.cString (utf8Bytes url))
      (fun heap slot cUrl => heap.store slot (.pointer cUrl)) pointerSize where
  fresh url heap := Extends.cString heap (utf8Bytes url)
  put_next _ _ _ := rfl
  put_agree _ _ _ := agree_store fun other member => by
    simp only [Set.mem_compl_iff, Set.mem_Ico, not_and, not_lt] at member
    simp only [Cell.width, pointerSize] at member ⊢
    omega

/-- A URL slot reads as the URL's bytes when the URL holds no NUL. -/
theorem urlSlotRules {urls : List (List Char)} (urlsFree : ∀ url ∈ urls, '\x00' ∉ url) :
    SlotRules (fun url heap => heap.cString (utf8Bytes url))
      (fun heap slot cUrl => heap.store slot (.pointer cUrl)) pointerSize
      (fun heap slot => heap.loadPointer slot >>= heap.readCString) utf8Bytes urls where
  toSlotFrame := urlSlotFrame
  reads url member heap slot nonnull below := by
    have pointer := readsWithin_loadPointer_store (heap.cString (utf8Bytes url)).1 nonnull heap.next
    have string : ReadsWithin (fun later => later.readCString heap.next) (utf8Bytes url)
        ((heap.cString (utf8Bytes url)).1.store slot (.pointer heap.next))
        (Set.Ico heap.next (heap.cString (utf8Bytes url)).1.next) :=
      (readsWithin_cString heap (noZero_utf8Bytes (urlsFree url member))).store fun other member => by
        simp only [Set.mem_Ico] at member
        simp only [Cell.width, pointerSize] at below ⊢
        omega
    intro later agree grows
    have loaded : later.loadPointer slot = .ok heap.next :=
      pointer later (agree.mono Set.subset_union_left) grows
    show later.loadPointer slot >>= later.readCString = .ok (utf8Bytes url)
    rw [loaded]
    exact string later (agree.mono Set.subset_union_right) grows

/-- The bound the URL loop needs: the slots fit in the array `malloc` just made. -/
theorem urlSlots_below (server : IceServer) (heap : Heap) :
    (heap.malloc (pointerSize * server.urls.length)).2 + pointerSize * (0 + server.urls.length) ≤
      (heap.malloc (pointerSize * server.urls.length)).1.next := by
  simp only [malloc_next, malloc_block, Nat.zero_add]
  omega

/-- The URL phase of `IceServer._CGO` works in fresh memory. -/
theorem cgoUrls_extends (server : IceServer) (heap : Heap) : Extends heap (server.cgoUrls heap).1 := by
  unfold IceServer.cgoUrls
  split
  · dsimp only
    have below := urlSlots_below server heap
    have framed := fillSlots_framed urlSlotFrame below
    have allocated := Extends.malloc heap (pointerSize * server.urls.length)
    refine ⟨allocated.grows.trans framed.grows, allocated.keeps.trans ?_⟩
    exact framed.keeps_below.mono (by simp)
  · exact Extends.refl heap

/-- The URL array reads back as the URLs' bytes while the memory of the URL phase is kept. -/
theorem cgoUrls_reads {server : IceServer} (few : server.urls.length < 2 ^ 31)
    (urlsFree : ∀ url ∈ server.urls, '\x00' ∉ url) (heap : Heap) :
    ReadsWithin
      (fun later => loadRange (fun slot => later.loadPointer slot >>= later.readCString)
        (server.cgoUrls heap).2 pointerSize (cInt (Int64.ofNat server.urls.length)))
      (server.urls.map utf8Bytes) (server.cgoUrls heap).1
      (Set.Ico heap.next (server.cgoUrls heap).1.next) := by
  have count := cInt_ofNat few
  apply readsWithin_loadRange (by simp [count]) (by omega)
  intro index inside
  rw [List.length_map] at inside
  rw [List.getElem_map]
  unfold IceServer.cgoUrls
  split
  case isFalse empty => omega
  case isTrue nonempty =>
    dsimp only
    have below := urlSlots_below server heap
    have filled := fillSlots_filled (Nat.pos_iff_ne_zero.mp heap.next_pos) (urlSlotRules urlsFree) below
    have slot := filled.slots index inside
    simp only [Nat.zero_add] at slot
    refine slot.widen (Set.union_subset (Set.Ico_subset_Ico le_rfl ?_) (Set.Ico_subset_Ico ?_ le_rfl))
    · have reach := below.trans filled.grows
      simp only [malloc_block, Nat.zero_add] at reach ⊢
      exact reach
    · simp only [malloc_next]
      omega

theorem iceServer_cgo_extends (server : IceServer) (heap : Heap) : Extends heap (server.cgo heap).1 :=
  ((cgoUrls_extends server heap).trans (Extends.cString _ _)).trans (Extends.cString _ _)

/-- A server that can cross reads back as its native form while `_CGO`'s memory is kept. -/
theorem iceServer_cgo_reads {server : IceServer} (crossable : server.Crossable) (heap : Heap) :
    ReadsWithin (fun later => castIceServer later (server.cgo heap).2) (nativeIceServer server)
      (server.cgo heap).1 (Set.Ico heap.next (server.cgo heap).1.next) := by
  obtain ⟨few, urlsFree, usernameFree, credentialFree⟩ := crossable
  have urls := cgoUrls_reads few urlsFree heap
  have username := readsWithin_cString (server.cgoUrls heap).1 (noZero_utf8Bytes usernameFree)
  have credential := readsWithin_cString ((server.cgoUrls heap).1.cString (utf8Bytes server.username)).1
    (noZero_utf8Bytes credentialFree)
  have beforeUrls := cgoUrls_extends server heap
  have afterUrls : Extends (server.cgoUrls heap).1 (server.cgo heap).1 :=
    (Extends.cString _ _).trans (Extends.cString _ _)
  have afterUsername :
      Extends ((server.cgoUrls heap).1.cString (utf8Bytes server.username)).1 (server.cgo heap).1 :=
    Extends.cString _ _
  have usernameGrown := (Extends.cString (server.cgoUrls heap).1 (utf8Bytes server.username)).grows
  intro later agree grows
  have urlsRead := (urls.extend Set.Ico_subset_Iio_self afterUrls) later
    (agree.mono (Set.Ico_subset_Ico le_rfl afterUrls.grows)) grows
  have usernameRead := (username.extend Set.Ico_subset_Iio_self afterUsername) later
    (agree.mono (Set.Ico_subset_Ico beforeUrls.grows afterUsername.grows)) grows
  have credentialRead := credential later
    (agree.mono (Set.Ico_subset_Ico (beforeUrls.grows.trans usernameGrown) le_rfl)) grows
  simp only at urlsRead usernameRead credentialRead
  simp only [castIceServer, IceServer.cgo, cString_block, urlsRead, usernameRead, credentialRead, ok_bind]
  rfl

/-- The server loop of `Configuration._CGO` converts in fresh memory and stores one
`CGO_IceServer` per slot. -/
theorem serverSlotFrame : SlotFrame IceServer.cgo storeIceServer iceServerSize where
  fresh server heap := iceServer_cgo_extends server heap
  put_next _ _ _ := rfl
  put_agree heap slot server := agree_storeIceServer heap slot server

/-- A server slot reads as the server's native form when every server can cross. -/
theorem serverSlotRules {servers : List IceServer} (crossable : ∀ server ∈ servers, server.Crossable) :
    SlotRules IceServer.cgo storeIceServer iceServerSize
      (fun heap slot => loadIceServer heap slot >>= castIceServer heap) nativeIceServer servers where
  toSlotFrame := serverSlotFrame
  reads server member heap slot nonnull below := by
    have stored := readsWithin_loadIceServer_store (server.cgo heap).1 nonnull (server.cgo heap).2
    have converted := (iceServer_cgo_reads (crossable server member) heap).transfer
      ((agree_storeIceServer (server.cgo heap).1 slot (server.cgo heap).2).mono fun other member => by
        simp only [Set.mem_Ico, Set.mem_compl_iff] at member ⊢
        omega) le_rfl
    intro later agree grows
    have loaded : loadIceServer later slot = .ok (server.cgo heap).2 :=
      stored later (agree.mono Set.subset_union_left) grows
    show loadIceServer later slot >>= castIceServer later = .ok (nativeIceServer server)
    rw [loaded]
    exact converted later (agree.mono Set.subset_union_right) grows

/-- The bound the server loop needs: the slots fit in the array `malloc` just made. -/
theorem serverSlots_below (config : Configuration) (heap : Heap) :
    (heap.malloc (iceServerSize * config.iceServers.length)).2 +
        iceServerSize * (0 + config.iceServers.length) ≤
      (heap.malloc (iceServerSize * config.iceServers.length)).1.next := by
  simp only [malloc_next, malloc_block, Nat.zero_add]
  omega

/-- The servers phase of `Configuration._CGO` only allocates above the old free address. -/
theorem cgoServers_grows (config : Configuration) (heap : Heap) (c : Nat) :
    heap.next ≤ (config.cgoServers heap c).next := by
  unfold Configuration.cgoServers
  split
  · dsimp only
    rw [store_next]
    have framed := fillSlots_framed serverSlotFrame (serverSlots_below config heap)
    exact (Extends.malloc heap _).grows.trans framed.grows
  · exact le_rfl

/-- With servers, the field `c.iceServers` points at the servers array, and the array reads back
as the servers' native forms while the memory of the servers phase is kept. -/
theorem cgoServers_reads {config : Configuration} (nonempty : 0 < config.iceServers.length)
    (crossable : config.Crossable) {heap : Heap} {c : Nat} (nonnull : c ≠ 0)
    (field : c + 8 ≤ heap.next) :
    ReadsWithin (fun later => later.loadPointer c) heap.next (config.cgoServers heap c)
        (Set.Ico c (c + 8)) ∧
      ReadsWithin
        (fun later => loadRange (fun slot => loadIceServer later slot >>= castIceServer later)
          heap.next iceServerSize (cInt (Int64.ofNat config.iceServers.length)))
        (config.iceServers.map nativeIceServer) (config.cgoServers heap c)
        (Set.Ico heap.next (config.cgoServers heap c).next) := by
  have count := cInt_ofNat crossable.1
  unfold Configuration.cgoServers
  rw [if_pos nonempty]
  dsimp only
  refine ⟨readsWithin_loadPointer_store _ nonnull _, ?_⟩
  have filled := fillSlots_filled (Nat.pos_iff_ne_zero.mp heap.next_pos)
    (serverSlotRules crossable.2) (serverSlots_below config heap)
  apply readsWithin_loadRange (by simp [count]) (by omega)
  intro index inside
  rw [List.length_map] at inside
  rw [List.getElem_map]
  have slot := filled.slots index inside
  simp only [Nat.zero_add] at slot
  refine (slot.widen ?_).store fun other member => by
    simp only [Set.mem_Ico] at member
    simp only [Cell.width]
    omega
  have reach := (serverSlots_below config heap).trans filled.grows
  simp only [malloc_block, malloc_next, Nat.zero_add] at reach ⊢
  refine Set.union_subset (Set.Ico_subset_Ico le_rfl reach) (Set.Ico_subset_Ico ?_ le_rfl)
  omega

/-- The fields phase writes the fields after `iceServers` and fresh memory only. -/
theorem cgoFields_agree (config : Configuration) {heap : Heap} {c : Nat} (block : c + 32 ≤ heap.next) :
    heap.next ≤ (config.cgoFields heap c).next ∧
      Agree heap (config.cgoFields heap c) (Set.Ico c (c + 8) ∪ Set.Ico (c + 32) heap.next) := by
  have apart : ∀ address width, c + 8 ≤ address → address + width ≤ c + 32 →
      ∀ other ∈ Set.Ico c (c + 8) ∪ Set.Ico (c + 32) heap.next, other < address ∨ address + width ≤ other := by
    rintro address width above fits other (member | member) <;> simp only [Set.mem_Ico] at member <;> omega
  have below : Set.Ico c (c + 8) ∪ Set.Ico (c + 32) heap.next ⊆ Set.Iio heap.next :=
    Set.union_subset (Set.Ico_subset_Iio_self.trans (Set.Iio_subset_Iio (by omega))) Set.Ico_subset_Iio_self
  unfold Configuration.cgoFields
  dsimp only
  constructor
  · simp
  · exact ((((agree_store (apart (c + 8) 4 le_rfl (by omega))).trans
      (agree_store (apart (c + 12) 4 (by omega) (by omega)))).trans
      (agree_store (apart (c + 16) 4 (by omega) (by omega)))).trans
      ((Extends.cString _ _).keeps.mono below)).trans (agree_store (apart (c + 24) 8 (by omega) le_rfl))

/-- The fields phase stores the count and the two policies as C `int`s. -/
theorem cgoFields_loadInt (config : Configuration) {heap : Heap} {c : Nat} (block : c + 32 ≤ heap.next) :
    (config.cgoFields heap c).loadInt (c + 8) = .ok (cInt (Int64.ofNat config.iceServers.length)) ∧
      (config.cgoFields heap c).loadInt (c + 12) = .ok (cInt config.iceTransportPolicy) ∧
      (config.cgoFields heap c).loadInt (c + 16) = .ok (cInt config.bundlePolicy) := by
  unfold Configuration.cgoFields
  dsimp only
  refine ⟨?count, ?type, ?bundle⟩
  case count =>
    rw [loadInt_store_of_apart (.inl (by omega)), (Extends.cString _ _).loadInt_eq (by simp; omega),
      loadInt_store_of_apart (.inl (by omega)), loadInt_store_of_apart (.inl (by omega)),
      loadInt_store_self (by omega)]
  case type =>
    rw [loadInt_store_of_apart (.inl (by omega)), (Extends.cString _ _).loadInt_eq (by simp; omega),
      loadInt_store_of_apart (.inl (by omega)), loadInt_store_self (by omega)]
  case bundle =>
    rw [loadInt_store_of_apart (.inl (by omega)), (Extends.cString _ _).loadInt_eq (by simp; omega),
      loadInt_store_self (by omega)]

/-- `castConfig_` rebuilds the configuration `_CGO` laid out whenever it can cross: the servers in
order with their strings as bytes, and the policies as C `int`s. -/
theorem castConfig_cgo {config : Configuration} (crossable : config.Crossable) (heap : Heap) :
    castConfig (config.cgo heap).1 (config.cgo heap).2 = .ok (nativeConfiguration config) := by
  have block : heap.next + 32 ≤ (heap.malloc configurationSize).1.next := by
    simp [configurationSize]
  have nonnull : heap.next ≠ 0 := Nat.pos_iff_ne_zero.mp heap.next_pos
  have serversGrown := cgoServers_grows config (heap.malloc configurationSize).1 heap.next
  obtain ⟨countRead, typeRead, bundleRead⟩ := cgoFields_loadInt config (block.trans serversGrown)
  have kept := cgoFields_agree config (block.trans serversGrown)
  have count := cInt_ofNat crossable.1
  simp only [Configuration.cgo, malloc_block]
  unfold castConfig
  rw [countRead]
  simp only [ok_bind]
  by_cases empty : config.iceServers.length = 0
  · -- no servers: the range is empty and `iceServers` is not read
    have zero : cInt (Int64.ofNat config.iceServers.length) = 0 := by
      rw [empty]
      rfl
    have none : config.iceServers = [] := List.length_eq_zero_iff.mp empty
    rw [if_pos zero, zero]
    simp only [pure_eq_ok, ok_bind, loadRange_zero, List.mapM_nil, typeRead, bundleRead]
    simp [nativeConfiguration, none]
  · have nonzero : cInt (Int64.ofNat config.iceServers.length) ≠ 0 := by
      intro zero
      have same := congrArg Int32.toInt zero
      rw [count] at same
      simp only [Int32.toInt_zero, Nat.cast_eq_zero] at same
      exact empty same
    rw [if_neg nonzero]
    have field : heap.next + 8 ≤ (heap.malloc configurationSize).1.next := by
      simp [configurationSize]
    obtain ⟨pointerReads, arrayReads⟩ := cgoServers_reads (Nat.pos_of_ne_zero empty) crossable nonnull field
    have pointer := (pointerReads.transfer (kept.2.mono Set.subset_union_left) kept.1).ok
    have array := (arrayReads.transfer (kept.2.mono ((Set.Ico_subset_Ico
      (by simp [configurationSize]) le_rfl).trans Set.subset_union_right)) kept.1).ok
    rw [pointer, ok_bind, loadRange_mapM_bind array, typeRead, bundleRead]
    rfl

/-- A configuration whose one server has a user name with a NUL character inside. -/
def nulConfiguration : Configuration :=
  ⟨[⟨["stun:a".toList], "a\x00b".toList, "c".toList⟩], iceTransportPolicyAll, bundlePolicyBalanced, []⟩

/-- `C.CString` copies the NUL into C memory and `castConfig_` reads the user name only up to it:
the native server's `username` is the one byte of `"a"`, not the three bytes of the Go string. -/
theorem castConfig_truncatesAtNul :
    castConfig (nulConfiguration.cgo Heap.empty).1 (nulConfiguration.cgo Heap.empty).2 =
        .ok ⟨[⟨[], [utf8Bytes "stun:a".toList], [97], [99]⟩], 3, 0⟩ ∧
      utf8Bytes "a\x00b".toList = [97, 0, 98] := by
  decide

/-- `castConfig_` reads back every configuration that can cross whole, field for field, when its
policies fit a C `int`. -/
theorem castConfig_matchesConfiguration {config : Configuration} (crossable : config.Crossable)
    (typeLow : -2 ^ 31 ≤ config.iceTransportPolicy.toInt) (typeHigh : config.iceTransportPolicy.toInt < 2 ^ 31)
    (bundleLow : -2 ^ 31 ≤ config.bundlePolicy.toInt) (bundleHigh : config.bundlePolicy.toInt < 2 ^ 31)
    (heap : Heap) :
    ∃ native, castConfig (config.cgo heap).1 (config.cgo heap).2 = .ok native ∧
      native.servers = config.iceServers.map nativeIceServer ∧
      goInt native.type = config.iceTransportPolicy ∧ goInt native.bundlePolicy = config.bundlePolicy :=
  ⟨nativeConfiguration config, castConfig_cgo crossable heap, rfl, goInt_cInt typeLow typeHigh,
    goInt_cInt bundleLow bundleHigh⟩

/-- A configuration with one STUN server and the default policies. -/
def stunConfiguration : Configuration :=
  ⟨[⟨["stun:a".toList], "u".toList, "p".toList⟩], iceTransportPolicyAll, bundlePolicyBalanced, []⟩

theorem castConfig_matchesConfiguration_stun :
    stunConfiguration.Crossable ∧
      ∃ native, castConfig (stunConfiguration.cgo Heap.empty).1 (stunConfiguration.cgo Heap.empty).2 =
          .ok native ∧
        native.servers = stunConfiguration.iceServers.map nativeIceServer ∧
        goInt native.type = stunConfiguration.iceTransportPolicy ∧
        goInt native.bundlePolicy = stunConfiguration.bundlePolicy :=
  ⟨by decide, castConfig_matchesConfiguration (by decide) (by decide) (by decide) (by decide) (by decide)
    Heap.empty⟩

end GoWebrtc
