import GoWebrtc.Proof.NativeConfiguration
import GoWebrtc.C.Release

/-!
`freeConfig` releases every block `_CGO` allocated, each once.
-/

namespace GoWebrtc

open GoRuntime CMemory Heap

/-- A configuration within the bounds `freeConfig` checks: at most `maxIceServers` servers, each
with at most `maxUrls` URLs. -/
def Configuration.Freeable (config : Configuration) : Prop :=
  (config.iceServers.length : Int) ≤ maxIceServers.toInt ∧
    ∀ server ∈ config.iceServers, (server.urls.length : Int) ≤ maxUrls.toInt

instance : DecidablePred Configuration.Freeable := fun _ =>
  inferInstanceAs (Decidable (_ ∧ _))

theorem freeUrls_eq (cUrls remaining : Nat) : ∀ (heap : Heap) (index : Nat),
    freeUrls cUrls heap index remaining =
      releaseSlots (fun heap slot => heap.loadPointer slot) Crash.fault (fun heap cUrl => cCall (heap.free cUrl))
        cUrls pointerSize heap index remaining := by
  induction remaining with
  | zero => intro heap index; rfl
  | succ remaining ih =>
      intro heap index
      simp only [freeUrls, releaseSlots, cCall, ih]

theorem freeServers_eq (cServers remaining : Nat) : ∀ (heap : Heap) (index : Nat),
    freeServers cServers heap index remaining =
      releaseSlots loadIceServer Crash.fault freeIceServer cServers iceServerSize heap index remaining := by
  induction remaining with
  | zero => intro heap index; rfl
  | succ remaining ih =>
      intro heap index
      simp only [freeServers, releaseSlots, cCall, ih]

/-- A count within one of the bounds crosses to C and back as itself and passes the check. -/
theorem count_within {count : Nat} {bound : Int64} (within : (count : Int) ≤ bound.toInt)
    (small : bound.toInt < 2 ^ 31) :
    ¬ goInt (cInt (Int64.ofNat count)) > bound ∧ (goInt (cInt (Int64.ofNat count))).toInt = count := by
  have back := goInt_cInt_ofNat (show count < 2 ^ 31 by omega)
  refine ⟨?_, back⟩
  rw [gt_iff_lt, Int64.lt_iff_toInt_lt, back, not_lt]
  exact within

/-- `freeIceServer` of a server whose URL count is within `maxUrls`: the URL strings, the two
strings, then the URL array. -/
theorem freeIceServer_of_count {count : Nat} (within : (count : Int) ≤ maxUrls.toInt) (heap : Heap)
    {cServer : CGOIceServer} (numUrls : cServer.numUrls = cInt (Int64.ofNat count)) :
    freeIceServer heap cServer = (do
      let heap ← freeUrls cServer.urls heap 0 count
      let heap ← cCall (heap.free cServer.username)
      let heap ← cCall (heap.free cServer.credential)
      cCall (heap.free cServer.urls)) := by
  obtain ⟨notAbove, back⟩ := count_within within (by decide)
  simp only [freeIceServer, numUrls, if_neg notAbove, back, Int.toNat_natCast]

/-- `freeConfig` of a configuration whose server count is within `maxIceServers`: the servers and
their array when there are some, then the peer identity and the block. -/
theorem freeConfig_of_count {heap : Heap} {c count : Nat}
    (counted : heap.loadInt (c + 8) = .ok (cInt (Int64.ofNat count)))
    (within : (count : Int) ≤ maxIceServers.toInt) :
    freeConfig heap c =
      (if 0 < count then
          cCall (heap.loadPointer c) >>= fun cServers =>
            freeServers cServers heap 0 count >>= fun heap => cCall (heap.free cServers)
        else pure heap) >>= fun heap =>
        cCall (heap.loadPointer (c + 24)) >>= fun peerIdentity =>
          cCall (heap.free peerIdentity) >>= fun heap => cCall (heap.free c) := by
  obtain ⟨notAbove, back⟩ := count_within within (by decide)
  have positive : goInt (cInt (Int64.ofNat count)) > 0 ↔ 0 < count := by
    rw [gt_iff_lt, Int64.lt_iff_toInt_lt, back]
    simp
  simp only [freeConfig, cCall, counted, Except.mapError, ok_bind, if_neg notAbove, back, Int.toNat_natCast]
  -- the model's `do` runs the rest inside each branch; the statement runs it after the `if`
  by_cases nonempty : 0 < count
  · rw [if_pos (positive.mpr nonempty), if_pos nonempty]
    simp only [bind_assoc]
  · rw [if_neg (mt positive.mp nonempty), if_neg nonempty]

theorem storeIceServer_keepsLive (heap : Heap) (address : Nat) (server : CGOIceServer) :
    KeepsLive heap (storeIceServer heap address server) :=
  KeepsLive.of_eq rfl rfl

theorem cgoUrls_keepsLive (server : IceServer) (heap : Heap) : KeepsLive heap (server.cgoUrls heap).1 := by
  unfold IceServer.cgoUrls
  split
  · dsimp only
    exact (KeepsLive.malloc heap _).trans (fillSlots_keepsLive (fun url heap => KeepsLive.cString heap (utf8Bytes url))
      fun heap slot cUrl => KeepsLive.store heap slot (.pointer cUrl))
  · exact KeepsLive.refl heap

theorem iceServer_cgo_keepsLive (server : IceServer) (heap : Heap) : KeepsLive heap (server.cgo heap).1 :=
  ((cgoUrls_keepsLive server heap).trans (KeepsLive.cString _ _)).trans (KeepsLive.cString _ _)

theorem cgoServers_keepsLive (config : Configuration) (heap : Heap) (c : Nat) :
    KeepsLive heap (config.cgoServers heap c) := by
  unfold Configuration.cgoServers
  split
  · dsimp only
    exact ((KeepsLive.malloc heap _).trans (fillSlots_keepsLive iceServer_cgo_keepsLive storeIceServer_keepsLive)).trans
      (KeepsLive.store _ _ _)
  · exact KeepsLive.refl heap

theorem cgoFields_keepsLive (config : Configuration) (heap : Heap) (c : Nat) :
    KeepsLive heap (config.cgoFields heap c) :=
  ((((KeepsLive.store _ _ _).trans (KeepsLive.store _ _ _)).trans (KeepsLive.store _ _ _)).trans
    (KeepsLive.cString _ _)).trans (KeepsLive.store _ _ _)

/-- The URL loop's slots, released by `freeIceServer`: each holds the pointer to its URL's
`C.CString`, which `free` releases. -/
theorem urlReleaseRules (urls : List (List Char)) :
    ReleaseRules (fun url heap => heap.cString (utf8Bytes url))
      (fun heap slot cUrl => heap.store slot (.pointer cUrl)) pointerSize
      (fun heap slot => heap.loadPointer slot) (fun heap cUrl => cCall (heap.free cUrl)) urls where
  toSlotFrame := urlSlotFrame
  convert_keepsLive url heap := KeepsLive.cString heap (utf8Bytes url)
  put_sizes _ _ _ := rfl
  loads _ _ heap _ nonnull := readsWithin_loadPointer_store _ nonnull heap.next
  releases url _ _ fresh := (releases_cString fresh (utf8Bytes url) Crash.fault).widen (Set.empty_subset _)

/-- `freeIceServer` releases the URL phase of `IceServer._CGO`: the strings, then the array. -/
theorem cgoUrls_releases (server : IceServer) {heap : Heap} (fresh : heap.Fresh) :
    ∃ middle, heap.next ≤ middle ∧ middle ≤ (server.cgoUrls heap).1.next ∧
      Releases (fun later => freeUrls (server.cgoUrls heap).2 later 0 server.urls.length)
        (server.cgoUrls heap).1 (Set.Ico heap.next (server.cgoUrls heap).1.next)
        (Set.Ico middle (server.cgoUrls heap).1.next) ∧
      Releases (fun later => cCall (later.free (server.cgoUrls heap).2)) (server.cgoUrls heap).1 ∅
        (Set.Ico heap.next middle) := by
  unfold IceServer.cgoUrls
  split
  case isTrue nonempty =>
    dsimp only
    have arrayLive := KeepsLive.malloc heap (pointerSize * server.urls.length)
    have loopLive : KeepsLive (heap.malloc (pointerSize * server.urls.length)).1
        (fillSlots (fun url heap => heap.cString (utf8Bytes url)) (fun heap slot cUrl => heap.store slot (.pointer cUrl))
          (heap.malloc (pointerSize * server.urls.length)).2 pointerSize (heap.malloc (pointerSize * server.urls.length)).1
          0 server.urls) :=
      fillSlots_keepsLive (fun url heap => KeepsLive.cString heap (utf8Bytes url))
        fun heap slot cUrl => KeepsLive.store heap slot (.pointer cUrl)
    have arrayNonnull : (heap.malloc (pointerSize * server.urls.length)).2 ≠ 0 := Nat.pos_iff_ne_zero.mp heap.next_pos
    have loop := fillSlots_releases Crash.fault arrayNonnull (urlReleaseRules server.urls) (urlSlots_below server heap)
      (fresh.keepsLive arrayLive)
    refine ⟨(heap.malloc (pointerSize * server.urls.length)).1.next, arrayLive.grows, loopLive.grows, ?_, ?_⟩
    · refine (loop.congr fun later _ _ => freeUrls_eq _ _ later 0).widen fun address member => ?_
      have grows := loopLive.grows
      simp only [Set.mem_union, Set.mem_Ico, malloc_next, malloc_block, pointerSize] at member grows ⊢
      omega
    · exact (releases_malloc fresh _ Crash.fault).transfer (agree_empty _ _)
        (fun address member => loopLive.keeps address (.inl member.2)) loopLive.grows
  case isFalse empty =>
    have none : server.urls.length = 0 := by omega
    refine ⟨heap.next, le_rfl, le_rfl, ?_, ?_⟩
    · rw [none, Set.Ico_self]
      exact Releases.pure _ _
    · rw [Set.Ico_self]
      exact Releases.free_null Crash.fault _ _

/-- `freeIceServer` releases what `IceServer._CGO` allocates, when the URL count is within
`maxUrls`. -/
theorem iceServer_cgo_releases {server : IceServer} (few : (server.urls.length : Int) ≤ maxUrls.toInt)
    {heap : Heap} (fresh : heap.Fresh) :
    Releases (fun later => freeIceServer later (server.cgo heap).2) (server.cgo heap).1
      (Set.Ico heap.next (server.cgo heap).1.next) (Set.Ico heap.next (server.cgo heap).1.next) := by
  obtain ⟨middle, above, below, strings, array⟩ := cgoUrls_releases server fresh
  have urlsFresh := fresh.keepsLive (cgoUrls_keepsLive server heap)
  unfold IceServer.cgo
  dsimp only
  set urls := server.cgoUrls heap
  set user := urls.1.cString (utf8Bytes server.username)
  set credential := user.1.cString (utf8Bytes server.credential)
  have userLive : KeepsLive urls.1 user.1 := KeepsLive.cString _ _
  have credentialLive : KeepsLive user.1 credential.1 := KeepsLive.cString _ _
  have afterUrls : Extends urls.1 credential.1 := (Extends.cString _ _).trans (Extends.cString _ _)
  have userGrows := userLive.grows
  have credentialGrows := credentialLive.grows
  have stringsAt := strings.transfer (afterUrls.keeps.mono Set.Ico_subset_Iio_self)
    (fun address member => (userLive.trans credentialLive).keeps address (.inl member.2)) afterUrls.grows
  have arrayAt := array.transfer (agree_empty _ _)
    (fun address member => (userLive.trans credentialLive).keeps address (.inl (lt_of_lt_of_le member.2 below)))
    afterUrls.grows
  have userAt : Releases (fun later => cCall (later.free urls.1.next)) credential.1 ∅
      (Set.Ico urls.1.next user.1.next) :=
    (releases_cString urlsFresh (utf8Bytes server.username) Crash.fault).transfer (agree_empty _ _)
      (fun address member => credentialLive.keeps address (.inl member.2)) credentialGrows
  have credentialAt : Releases (fun later => cCall (later.free user.1.next)) credential.1 ∅
      (Set.Ico user.1.next credential.1.next) :=
    releases_cString (urlsFresh.keepsLive userLive) (utf8Bytes server.credential) Crash.fault
  have whole := stringsAt.bind (userAt.bind (credentialAt.bind arrayAt
    (disjoint_Ico_left fun address low high member => by
      simp only [Set.mem_union, Set.mem_Ico, Set.mem_empty_iff_false, false_or] at member
      omega))
    (disjoint_Ico_left fun address low high member => by
      simp only [Set.mem_union, Set.mem_Ico, Set.mem_empty_iff_false, false_or] at member
      omega))
    (disjoint_Ico_left fun address low high member => by
      simp only [Set.mem_union, Set.mem_Ico, Set.mem_empty_iff_false, false_or] at member
      omega)
  have region : Set.Ico middle urls.1.next ∪ (Set.Ico urls.1.next user.1.next ∪
      (Set.Ico user.1.next credential.1.next ∪ Set.Ico heap.next middle)) = Set.Ico heap.next credential.1.next := by
    ext address
    simp only [Set.mem_union, Set.mem_Ico]
    omega
  rw [region] at whole
  refine (whole.widen fun address member => ?_).congr fun later _ _ => freeIceServer_of_count few later rfl
  simp only [Set.mem_union, Set.mem_Ico, Set.mem_empty_iff_false, or_false] at member ⊢
  omega

/-- The server loop's slots, released by `freeServers`: each holds a `CGO_IceServer`, which
`freeIceServer` releases when its URL count is within `maxUrls`. -/
theorem serverReleaseRules {servers : List IceServer}
    (few : ∀ server ∈ servers, (server.urls.length : Int) ≤ maxUrls.toInt) :
    ReleaseRules IceServer.cgo storeIceServer iceServerSize loadIceServer freeIceServer servers where
  toSlotFrame := serverSlotFrame
  convert_keepsLive := iceServer_cgo_keepsLive
  put_sizes _ _ _ := rfl
  loads server _ heap _ nonnull := readsWithin_loadIceServer_store (server.cgo heap).1 nonnull (server.cgo heap).2
  releases server member _ fresh := iceServer_cgo_releases (few server member) fresh

/-- The servers phase of `Configuration._CGO` from a fresh heap is released by the servers branch
of `freeConfig`: the pointer in `c.iceServers` is read, each server released, then the array. -/
theorem cgoServers_releases {config : Configuration} (freeable : config.Freeable) {heap : Heap}
    (fresh : heap.Fresh) {c : Nat} (nonnull : c ≠ 0) (field : c + 8 ≤ heap.next) :
    Releases (fun later => if 0 < config.iceServers.length then (do
          let cServers ← cCall (later.loadPointer c)
          let later ← freeServers cServers later 0 config.iceServers.length
          cCall (later.free cServers))
        else pure later)
      (config.cgoServers heap c) (Set.Ico c (c + 8) ∪ Set.Ico heap.next (config.cgoServers heap c).next)
      (Set.Ico heap.next (config.cgoServers heap c).next) := by
  unfold Configuration.cgoServers
  split
  case isTrue nonempty =>
    dsimp only
    set array := heap.malloc (iceServerSize * config.iceServers.length)
    set filled := fillSlots IceServer.cgo storeIceServer array.2 iceServerSize array.1 0 config.iceServers
    have arrayBlock : array.2 = heap.next := rfl
    have arrayNonnull : array.2 ≠ 0 := Nat.pos_iff_ne_zero.mp heap.next_pos
    have arrayGrows : heap.next + iceServerSize * config.iceServers.length ≤ array.1.next := by simp [array]
    have loopLive : KeepsLive array.1 filled := fillSlots_keepsLive iceServer_cgo_keepsLive storeIceServer_keepsLive
    have loopGrows := loopLive.grows
    have loop := fillSlots_releases Crash.fault arrayNonnull (serverReleaseRules freeable.2)
      (serverSlots_below config heap) (fresh.keepsLive (KeepsLive.malloc heap _))
    have keptLoop : Agree filled (filled.store c (.pointer array.2))
        (Set.Ico array.2 (array.2 + iceServerSize * (0 + config.iceServers.length)) ∪ Set.Ico array.1.next filled.next) :=
      agree_store fun address member => .inr (by
        simp only [Set.mem_union, Set.mem_Ico, Cell.width] at member ⊢
        omega)
    have loopAt : Releases (fun later => freeServers array.2 later 0 config.iceServers.length)
        (filled.store c (.pointer array.2))
        (Set.Ico array.2 (array.2 + iceServerSize * (0 + config.iceServers.length)) ∪ Set.Ico array.1.next filled.next)
        (Set.Ico array.1.next filled.next) :=
      (loop.congr fun later _ _ => freeServers_eq _ _ later 0).transfer keptLoop (fun _ _ => rfl) le_rfl
    have arrayAt : Releases (fun later => cCall (later.free array.2)) (filled.store c (.pointer array.2)) ∅
        (Set.Ico heap.next array.1.next) :=
      (releases_malloc fresh _ Crash.fault).transfer (agree_empty _ _)
        (fun address member => loopLive.keeps address (.inl member.2)) loopGrows
    have tail := loopAt.bind arrayAt (disjoint_Ico_left fun address low high member => by
      simp only [Set.mem_union, Set.mem_Ico, Set.mem_empty_iff_false, false_or] at member
      omega)
    have region : Set.Ico array.1.next filled.next ∪ Set.Ico heap.next array.1.next =
        Set.Ico heap.next (filled.store c (.pointer array.2)).next := by
      rw [store_next, Set.union_comm]
      exact Set.Ico_union_Ico_eq_Ico (by omega) loopGrows
    rw [region] at tail
    refine (Releases.read Crash.fault (readsWithin_loadPointer_store filled nonnull array.2) tail).widen
      fun address member => ?_
    simp only [Set.mem_union, Set.mem_Ico, Set.mem_empty_iff_false, or_false, store_next, Nat.zero_add] at member ⊢
    omega
  case isFalse empty =>
    simp only [Set.Ico_self]
    exact Releases.pure _ _

/-- The fields phase of `Configuration._CGO` from a fresh heap: `c + 24` holds the pointer to the
peer identity, whose block is released by freeing it. -/
theorem cgoFields_releases (config : Configuration) {heap : Heap} (fresh : heap.Fresh) (c : Nat) :
    ReadsWithin (fun later => later.loadPointer (c + 24)) heap.next (config.cgoFields heap c)
        (Set.Ico (c + 24) (c + 32)) ∧
      Releases (fun later => cCall (later.free heap.next)) (config.cgoFields heap c) ∅
        (Set.Ico heap.next (config.cgoFields heap c).next) := by
  unfold Configuration.cgoFields
  dsimp only
  set fields := ((heap.store (c + 8) (.int (cInt (Int64.ofNat config.iceServers.length)))).store (c + 12)
    (.int (cInt config.iceTransportPolicy))).store (c + 16) (.int (cInt config.bundlePolicy))
  set peerIdentity := fields.cString (utf8Bytes config.peerIdentity)
  have fieldsFresh : fields.Fresh :=
    fresh.keepsLive (((KeepsLive.store _ _ _).trans (KeepsLive.store _ _ _)).trans (KeepsLive.store _ _ _))
  constructor
  · have pointer := readsWithin_loadPointer_store peerIdentity.1 (show c + 24 ≠ 0 by omega) peerIdentity.2
    rw [show c + 24 + 8 = c + 32 by omega] at pointer
    exact pointer
  · exact (releases_cString fieldsFresh (utf8Bytes config.peerIdentity) Crash.fault).transfer (agree_empty _ _)
      (fun _ _ => rfl) le_rfl

/-- From a fresh heap, `freeConfig` after `_CGO` of a configuration within its bounds returns, and
the live blocks are those from before `_CGO`: every block `_CGO` allocated is freed, once. -/
theorem freeConfig_cgo_restores {config : Configuration} (freeable : config.Freeable) {heap : Heap}
    (fresh : heap.Fresh) :
    ∃ final, freeConfig (config.cgo heap).1 (config.cgo heap).2 = .ok final ∧ final.sizes = heap.sizes := by
  have cgoEq : config.cgo heap =
      (config.cgoFields (config.cgoServers (heap.malloc configurationSize).1 heap.next) heap.next, heap.next) := rfl
  rw [cgoEq]
  set block := (heap.malloc configurationSize).1
  set servers := config.cgoServers block heap.next
  set fields := config.cgoFields servers heap.next
  have blockNext : block.next = heap.next + 32 := by simp [block, configurationSize]
  have blockLive : KeepsLive heap block := KeepsLive.malloc heap configurationSize
  have serversLive : KeepsLive block servers := cgoServers_keepsLive config block heap.next
  have fieldsLive : KeepsLive servers fields := cgoFields_keepsLive config servers heap.next
  have serversGrows := serversLive.grows
  have fieldsGrows := fieldsLive.grows
  have blockFresh := fresh.keepsLive blockLive
  have kept := cgoFields_agree config (show heap.next + 32 ≤ servers.next by omega)
  have serversAt : Releases (fun later => if 0 < config.iceServers.length then (do
          let cServers ← cCall (later.loadPointer heap.next)
          let later ← freeServers cServers later 0 config.iceServers.length
          cCall (later.free cServers))
        else pure later) fields
      (Set.Ico heap.next (heap.next + 8) ∪ Set.Ico block.next servers.next) (Set.Ico block.next servers.next) :=
    (cgoServers_releases freeable blockFresh (Nat.pos_iff_ne_zero.mp heap.next_pos)
    (show heap.next + 8 ≤ block.next by omega)).transfer
      (kept.2.mono (Set.union_subset_union_right _ (Set.Ico_subset_Ico (by omega) le_rfl)))
      (fun address member => fieldsLive.keeps address (.inl member.2)) kept.1
  obtain ⟨peerRead, peerRelease⟩ : ReadsWithin (fun later => later.loadPointer (heap.next + 24)) servers.next fields
        (Set.Ico (heap.next + 24) (heap.next + 32)) ∧
      Releases (fun later => cCall (later.free servers.next)) fields ∅ (Set.Ico servers.next fields.next) :=
    cgoFields_releases config (blockFresh.keepsLive serversLive) heap.next
  have blockAt : Releases (fun later => cCall (later.free heap.next)) fields ∅ (Set.Ico heap.next block.next) :=
    (releases_malloc fresh configurationSize Crash.fault).transfer (agree_empty _ _)
      (fun address member => (serversLive.trans fieldsLive).keeps address (.inl member.2))
      (serversGrows.trans fieldsGrows)
  have tail := peerRelease.bind blockAt (disjoint_Ico_left fun address low high member => by
    simp only [Set.mem_union, Set.mem_Ico, Set.mem_empty_iff_false, false_or] at member
    omega)
  have whole : Releases (fun later => (if 0 < config.iceServers.length then (do
          let cServers ← cCall (later.loadPointer heap.next)
          let later ← freeServers cServers later 0 config.iceServers.length
          cCall (later.free cServers))
        else pure later) >>= fun later =>
          cCall (later.loadPointer (heap.next + 24)) >>= fun peerIdentity =>
            cCall (later.free peerIdentity) >>= fun later => cCall (later.free heap.next)) fields _ _ :=
    serversAt.bind (Releases.read Crash.fault peerRead tail) (disjoint_Ico_left fun address low high member => by
      simp only [Set.mem_union, Set.mem_Ico, Set.mem_empty_iff_false, or_false] at member
      omega)
  have region : Set.Ico block.next servers.next ∪ (Set.Ico servers.next fields.next ∪ Set.Ico heap.next block.next) =
      Set.Ico heap.next fields.next := by
    ext address
    simp only [Set.mem_union, Set.mem_Ico]
    omega
  rw [region] at whole
  have counted := (cgoFields_loadInt config (show heap.next + 32 ≤ servers.next by omega)).1
  have countedLater : ∀ later : Heap, Agree fields later (Set.Ico (heap.next + 8) (heap.next + 8 + 4)) →
      later.loadInt (heap.next + 8) = .ok (cInt (Int64.ofNat config.iceServers.length)) := fun later agree => by
    rw [loadInt_congr agree]
    exact counted
  have withCount := whole.widen (Set.subset_union_left : _ ⊆ _ ∪ Set.Ico (heap.next + 8) (heap.next + 8 + 4))
  obtain ⟨final, ok, freed⟩ := (withCount.congr fun later agree _ =>
    freeConfig_of_count (countedLater later (agree.mono Set.subset_union_right)) freeable.1).ok
  exact ⟨final, ok, freed.restores fresh (blockLive.trans (serversLive.trans fieldsLive))⟩

end GoWebrtc
