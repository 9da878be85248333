import GoWebrtc.Construction.Registration

/-!
The registries when every call runs to its end before the next one starts.
-/

namespace GoWebrtc

open GoRuntime

theorem getElem?_append_singleton_eq_some {α : Type} {l : List α} {x y : α} {position : Nat}
    (found : (l ++ [x])[position]? = some y) : l[position]? = some y ∨ position = l.length ∧ y = x := by
  rcases Nat.lt_trichotomy position l.length with below | equal | above
  · left
    rwa [List.getElem?_append_left below] at found
  · right
    subst equal
    simp only [List.getElem?_concat_length, Option.some.injEq] at found
    exact ⟨rfl, found.symm⟩
  · have missing : (l ++ [x])[position]? = none := List.getElem?_eq_none (by simp; omega)
    simp [missing] at found

/-- The index after `count` increments of `m.index`, while it stays below the top of `int64`. -/
theorem toInt_add_one_of_count {value : Int64} {count : Nat} (counted : value.toInt = count)
    (room : count + 1 < 2 ^ 63) : (value + 1).toInt = count + 1 := by
  rw [Int64.toInt_add, Int64.toInt_one, counted]
  exact Int.bmod_eq_of_le (by omega) (by omega)

section Registry

variable {Wrapper Native : Type} (index : Wrapper → Int64) (target : Wrapper → Option Nat)
  (goIndex : Native → Int32) (live : Native → Bool)

/-- An index table as serial calls leave it: wrapper `n` has index `n + 1`, and every key names
its wrapper. -/
structure RegistryIndexed (map : CGOMap Nat) (wrappers : List Wrapper) (natives : List Native) :
    Prop where
  count : map.index.toInt = wrappers.length
  paired : natives.length = wrappers.length
  indexed : ∀ (position : Nat) wrapper, wrappers[position]? = some wrapper →
    (index wrapper).toInt = position + 1
  keyed : ∀ key position, map.get key = .ok position →
    ∃ wrapper, wrappers[position]? = some wrapper ∧ index wrapper = key

/-- Moreover, every native object that callbacks reach passes an index that the table maps to a
wrapper pointing back at that object. -/
structure RegistrySound (map : CGOMap Nat) (wrappers : List Wrapper) (natives : List Native) : Prop
    extends RegistryIndexed index map wrappers natives where
  reaches : ∀ (position : Nat) native, natives[position]? = some native → live native = true →
    ∃ wrapper, wrappers[wrapper]?.bind target = some position ∧
      map.get (goInt (goIndex native)) = .ok wrapper

variable {index target goIndex live} {map : CGOMap Nat} {wrappers : List Wrapper}
  {natives : List Native}

theorem registryIndexed_empty : RegistryIndexed index newCGOMap ([] : List Wrapper) ([] : List Native) where
  count := rfl
  paired := rfl
  indexed := by simp
  keyed := by simp [CGOMap.get, newCGOMap, GoMap.lookup_empty]

theorem registrySound_empty :
    RegistrySound index target goIndex live newCGOMap ([] : List Wrapper) ([] : List Native) where
  toRegistryIndexed := registryIndexed_empty
  reaches := by simp

/-- A key at or below zero names no wrapper: `Get` panics there. -/
theorem RegistryIndexed.get_of_nonpos (registry : RegistryIndexed index map wrappers natives)
    {key : Int64} (nonpositive : key.toInt ≤ 0) :
    map.get key = .error (.message "couldn't retrieve the pointer") := by
  apply CGOMap.get_eq_error_of_ne_ok
  intro position got
  obtain ⟨wrapper, found, keyOf⟩ := registry.keyed key position got
  have positive := registry.indexed position wrapper found
  rw [keyOf] at positive
  omega

/-- `DCMap.Set` or `PCMap.Set` of a new wrapper whose index is the incremented counter. -/
theorem RegistryIndexed.register (registry : RegistryIndexed index map wrappers natives)
    (room : wrappers.length + 1 < 2 ^ 63) {wrapper : Wrapper} {native : Native}
    (indexOf : index wrapper = map.index + 1) :
    RegistryIndexed index (map.setLocked (some wrappers.length)) (wrappers ++ [wrapper])
      (natives ++ [native]) where
  count := by
    rw [CGOMap.setLocked_index, toInt_add_one_of_count registry.count room]
    simp
  paired := by simp [registry.paired]
  indexed := by
    intro position entry found
    rcases getElem?_append_singleton_eq_some found with old | ⟨rfl, rfl⟩
    · exact registry.indexed position entry old
    · rw [indexOf, toInt_add_one_of_count registry.count room]
  keyed := by
    intro key position got
    rw [CGOMap.get_setLocked] at got
    split at got
    · rename_i fresh
      cases got
      exact ⟨wrapper, by simp, by rw [indexOf, fresh]⟩
    · obtain ⟨entry, found, keyOf⟩ := registry.keyed key position got
      have inside : position < wrappers.length := (List.getElem?_eq_some_iff.mp found).1
      exact ⟨entry, by rwa [List.getElem?_append_left inside], keyOf⟩

/-- Deleting any key keeps the table's keys naming their wrappers. -/
theorem RegistryIndexed.delete (registry : RegistryIndexed index map wrappers natives) (key : Int64)
    {released : List Native} (lengthKept : released.length = natives.length) :
    RegistryIndexed index (map.delete key) wrappers released where
  count := registry.count
  paired := lengthKept.trans registry.paired
  indexed := registry.indexed
  keyed := by
    intro other position got
    rw [CGOMap.get_delete] at got
    split at got
    · cases got
    · exact registry.keyed other position got

/-- A registration run to its end: the wrapper gets the incremented counter as its index, and its
native object gets that index through `C.int` and is reached by callbacks. -/
theorem RegistrySound.register (registry : RegistrySound index target goIndex live map wrappers natives)
    (room : wrappers.length + 1 < 2 ^ 31) {wrapper : Wrapper} {native : Native}
    (indexOf : index wrapper = map.index + 1) (targetOf : target wrapper = some natives.length)
    (goIndexOf : goIndex native = cInt (map.index + 1)) (liveOf : live native = true) :
    RegistrySound index target goIndex live (map.setLocked (some wrappers.length)) (wrappers ++ [wrapper])
      (natives ++ [native]) where
  toRegistryIndexed := registry.toRegistryIndexed.register (by omega) indexOf
  reaches := by
    have next := toInt_add_one_of_count registry.count (by omega)
    intro position entry found alive
    rcases getElem?_append_singleton_eq_some found with old | ⟨rfl, rfl⟩
    · obtain ⟨owner, points, got⟩ := registry.reaches position entry old alive
      obtain ⟨ownerWrapper, ownerFound, ownerKey⟩ := registry.keyed _ owner got
      have inside : owner < wrappers.length := (List.getElem?_eq_some_iff.mp ownerFound).1
      refine ⟨owner, by rwa [List.getElem?_append_left inside], ?_⟩
      rw [CGOMap.get_setLocked, if_neg, got]
      intro fresh
      have ownerIndex := registry.indexed owner ownerWrapper ownerFound
      rw [ownerKey, fresh, next] at ownerIndex
      omega
    · refine ⟨wrappers.length, by simp [targetOf], ?_⟩
      rw [goIndexOf, goInt_cInt (by omega) (by omega), CGOMap.get_setLocked, if_pos rfl]

/-- A deletion run to its end: the wrapper's key leaves the table after its native object has
stopped reaching Go, and no other native object changes. -/
theorem RegistrySound.release (registry : RegistrySound index target goIndex live map wrappers natives)
    {position : Nat} {wrapper : Wrapper} (found : wrappers[position]? = some wrapper) {released : List Native}
    (lengthKept : released.length = natives.length)
    (kept : ∀ other native, released[other]? = some native → live native = true →
      natives[other]? = some native ∧ target wrapper ≠ some other) :
    RegistrySound index target goIndex live (map.delete (index wrapper)) wrappers released where
  toRegistryIndexed := registry.toRegistryIndexed.delete _ lengthKept
  reaches := by
    intro other native entry alive
    obtain ⟨before, untouched⟩ := kept other native entry alive
    obtain ⟨owner, points, got⟩ := registry.reaches other native before alive
    refine ⟨owner, points, ?_⟩
    rw [CGOMap.get_delete, if_neg, got]
    intro deleted
    obtain ⟨ownerWrapper, ownerFound, ownerKey⟩ := registry.keyed _ owner got
    have ownerIndex := registry.indexed owner ownerWrapper ownerFound
    have wrapperIndex := registry.indexed position wrapper found
    rw [ownerKey, deleted] at ownerIndex
    obtain rfl : owner = position := by omega
    rw [found] at ownerFound
    cases ownerFound
    rw [found, Option.bind_some] at points
    exact untouched points

/-- Deleting a wrapper that holds no native object changes nothing else. -/
theorem RegistrySound.release_of_target_none (registry : RegistrySound index target goIndex live map wrappers natives)
    {position : Nat} {wrapper : Wrapper} (found : wrappers[position]? = some wrapper)
    (untargeted : target wrapper = none) :
    RegistrySound index target goIndex live (map.delete (index wrapper)) wrappers natives :=
  registry.release found rfl fun _ _ entry _ => ⟨entry, by simp [untargeted]⟩

/-- Deleting a wrapper whose native object is silenced first: that object stops reaching Go, and
no other native object changes. -/
theorem RegistrySound.release_of_target_some (registry : RegistrySound index target goIndex live map wrappers natives)
    {position : Nat} {wrapper : Wrapper} (found : wrappers[position]? = some wrapper) {native : Nat}
    (targetOf : target wrapper = some native) {silence : Native → Native}
    (silenced : ∀ object, live (silence object) = false) :
    RegistrySound index target goIndex live (map.delete (index wrapper)) wrappers (natives.modify native silence) := by
  refine registry.release found (List.length_modify _ _ _) ?_
  intro other object entry alive
  by_cases same : native = other
  · subst same
    obtain ⟨old, -, rfl⟩ : ∃ old, natives[native]? = some old ∧ silence old = object := by
      simpa using entry
    rw [silenced] at alive
    cases alive
  · rw [List.getElem?_modify_ne _ _ same] at entry
    exact ⟨entry, by simpa [targetOf] using same⟩

end Registry

namespace Registries

/-- What a call leaves behind when its atomic steps run back to back. -/
def afterCall (state : Registries) : RegistrationCall → Registries
  | .registerChannel =>
      let index := state.dcMap.index + 1
      { state with
        observers := state.observers ++ [⟨cInt index, true⟩]
        channels := state.channels ++ [⟨index, some state.observers.length⟩]
        dcMap := state.dcMap.setLocked (some state.channels.length) }
  | .registerPeerConnection =>
      let index := state.pcMap.index + 1
      { state with
        peers := state.peers ++ [⟨cInt index, true⟩]
        peerConnections := state.peerConnections ++ [⟨index, some state.peers.length⟩]
        pcMap := state.pcMap.setLocked (some state.peerConnections.length) }
  | .deleteDataChannel channel => (state.releaseObserver channel).deleteChannel channel
  | .destroy peerConnection => (state.deletePeerConnection peerConnection).destroyPeer peerConnection
  | .channelCallback observer =>
      { state with callbacks := state.callbacks ++ (state.resolveChannel observer).toList }
  | .peerCallback peer => { state with callbacks := state.callbacks ++ (state.resolvePeer peer).toList }

end Registries

/-- A goroutine that runs a call's atomic steps back to back leaves what `afterCall` says. -/
theorem run_call (uninitialised : Int32) (shared : Registries) (registrar : Registrar)
    (call : RegistrationCall) (rest : List RegistrationAction)
    (pending : registrar.actions = call.actions ++ rest) :
    ∃ next : Registrar, next.actions = rest ∧
      (registrationSystem Unit uninitialised).run ⟨shared, fun _ => registrar⟩
        (List.replicate call.actions.length ()) = ⟨shared.afterCall call, fun _ => next⟩ := by
  obtain ⟨actions, observer, channel, peerConnection⟩ := registrar
  simp only at pending
  subst pending
  cases call <;>
    simp [RegistrationCall.actions, Interleaving.System.advance, registrationSystem, registrationStep,
      Registries.afterCall, modify_append_length, Function.update_eq_const_of_subsingleton] <;>
    exact ⟨_, rfl, rfl⟩

/-- One goroutine making its calls one after another: the run is the calls' effects in order. -/
theorem run_calls (uninitialised : Int32) (calls : List RegistrationCall) (shared : Registries)
    (registrar : Registrar) (rest : List RegistrationAction)
    (pending : registrar.actions = calls.flatMap RegistrationCall.actions ++ rest) :
    ∃ next : Registrar, next.actions = rest ∧
      (registrationSystem Unit uninitialised).run ⟨shared, fun _ => registrar⟩
        (List.replicate (calls.flatMap RegistrationCall.actions).length ()) =
        ⟨calls.foldl Registries.afterCall shared, fun _ => next⟩ := by
  induction calls generalizing shared registrar with
  | nil => exact ⟨registrar, by simpa using pending, rfl⟩
  | cons call later ih =>
      rw [List.flatMap_cons, List.append_assoc] at pending
      obtain ⟨middle, middleActions, first⟩ := run_call uninitialised shared registrar call _ pending
      obtain ⟨next, nextActions, second⟩ := ih (shared.afterCall call) middle middleActions
      refine ⟨next, nextActions, ?_⟩
      rw [List.flatMap_cons, List.length_append, List.replicate_add, Interleaving.System.run_append, first,
        second, List.foldl_cons]

theorem isPrefix_getElem?_eq_some {α : Type} {l₁ l₂ : List α} {position : Nat} {x : α} (extended : l₁ <+: l₂)
    (found : l₁[position]? = some x) : l₂[position]? = some x := by
  obtain ⟨inside, rfl⟩ := List.getElem?_eq_some_iff.mp found
  exact List.prefix_iff_getElem?.mp extended position inside

/-- A resolution stays correct while wrappers are only added. -/
theorem Resolution.Correct.grow {state later : Registries} {resolution : Resolution}
    (correct : resolution.Correct state) (channelsGrow : state.channels <+: later.channels)
    (peersGrow : state.peerConnections <+: later.peerConnections) : resolution.Correct later := by
  cases resolution with
  | channel observer result =>
      obtain ⟨channel, reached, points⟩ := correct
      obtain ⟨goChannel, found, attached⟩ := Option.bind_eq_some_iff.mp points
      exact ⟨channel, reached, by rw [isPrefix_getElem?_eq_some channelsGrow found, Option.bind_some, attached]⟩
  | peer native result =>
      obtain ⟨peerConnection, reached, points⟩ := correct
      obtain ⟨goPeerConnection, found, attached⟩ := Option.bind_eq_some_iff.mp points
      exact ⟨peerConnection, reached,
        by rw [isPrefix_getElem?_eq_some peersGrow found, Option.bind_some, attached]⟩

/-- The calls that register a data channel, and those that register a peer connection. -/
def RegistrationCall.registersChannel : RegistrationCall → Bool
  | .registerChannel => true
  | _ => false

def RegistrationCall.registersPeerConnection : RegistrationCall → Bool
  | .registerPeerConnection => true
  | _ => false

namespace Registries

/-- `DeleteDataChannel` run to its end touches `DCMap` and the observers only. -/
theorem afterCall_deleteDataChannel_frame (state : Registries) (channel : Nat) :
    ∃ dcMap observers, state.afterCall (.deleteDataChannel channel) = { state with dcMap, observers } := by
  simp only [afterCall, releaseObserver, deleteChannel]
  split <;> split <;> exact ⟨_, _, rfl⟩

/-- `Destroy` run to its end touches `PCMap` and the Peers only. -/
theorem afterCall_destroy_frame (state : Registries) (peerConnection : Nat) :
    ∃ pcMap peers, state.afterCall (.destroy peerConnection) = { state with pcMap, peers } := by
  simp only [afterCall, deletePeerConnection, destroyPeer]
  split <;> split <;> exact ⟨_, _, rfl⟩

theorem channels_length_afterCall (state : Registries) (call : RegistrationCall) :
    (state.afterCall call).channels.length =
      state.channels.length + if call.registersChannel then 1 else 0 := by
  cases call with
  | deleteDataChannel channel =>
      obtain ⟨dcMap, observers, deleted⟩ := state.afterCall_deleteDataChannel_frame channel
      simp [deleted, RegistrationCall.registersChannel]
  | destroy peerConnection =>
      obtain ⟨pcMap, peers, destroyed⟩ := state.afterCall_destroy_frame peerConnection
      simp [destroyed, RegistrationCall.registersChannel]
  | _ => simp [afterCall, RegistrationCall.registersChannel]

theorem peerConnections_length_afterCall (state : Registries) (call : RegistrationCall) :
    (state.afterCall call).peerConnections.length =
      state.peerConnections.length + if call.registersPeerConnection then 1 else 0 := by
  cases call with
  | deleteDataChannel channel =>
      obtain ⟨dcMap, observers, deleted⟩ := state.afterCall_deleteDataChannel_frame channel
      simp [deleted, RegistrationCall.registersPeerConnection]
  | destroy peerConnection =>
      obtain ⟨pcMap, peers, destroyed⟩ := state.afterCall_destroy_frame peerConnection
      simp [destroyed, RegistrationCall.registersPeerConnection]
  | _ => simp [afterCall, RegistrationCall.registersPeerConnection]

/-- Both tables are sound, and every callback that reached Go found the wrapper of its object. -/
structure Consistent (state : Registries) : Prop where
  channels : RegistrySound GoChannel.index GoChannel.cgoChannelObserver ChannelObserver.goChannel
    ChannelObserver.registered state.dcMap state.channels state.observers
  peers : RegistrySound GoPeerConnection.index GoPeerConnection.cgoPeer NativePeer.goPeerConnection
    NativePeer.hasConnection state.pcMap state.peerConnections state.peers
  callbacks : ∀ resolution ∈ state.callbacks, resolution.Correct state

theorem consistent_start : (⟨newCGOMap, newCGOMap, [], [], [], [], []⟩ : Registries).Consistent where
  channels := registrySound_empty
  peers := registrySound_empty
  callbacks := by simp

variable {state : Registries}

theorem Consistent.resolveChannel_correct (consistent : state.Consistent) {observer : Nat}
    {resolution : Resolution} (resolved : state.resolveChannel observer = some resolution) :
    resolution.Correct state := by
  unfold resolveChannel at resolved
  split at resolved
  · rename_i native found
    split at resolved
    · rename_i alive
      cases resolved
      obtain ⟨channel, points, got⟩ := consistent.channels.reaches observer native found alive
      exact ⟨channel, got, points⟩
    · cases resolved
  · cases resolved

theorem Consistent.resolvePeer_correct (consistent : state.Consistent) {peer : Nat}
    {resolution : Resolution} (resolved : state.resolvePeer peer = some resolution) :
    resolution.Correct state := by
  unfold resolvePeer at resolved
  split at resolved
  · rename_i native found
    split at resolved
    · rename_i alive
      cases resolved
      obtain ⟨peerConnection, points, got⟩ := consistent.peers.reaches peer native found alive
      exact ⟨peerConnection, got, points⟩
    · cases resolved
  · cases resolved

theorem Consistent.deleteDataChannel (consistent : state.Consistent) (channel : Nat) :
    (state.afterCall (.deleteDataChannel channel)).Consistent := by
  have kept : ∀ resolution ∈ state.callbacks, resolution.Correct { state with dcMap := _, observers := _ } :=
    fun resolution member =>
      (consistent.callbacks resolution member).grow (List.prefix_refl _) (List.prefix_refl _)
  rcases found : state.channels[channel]? with _ | ⟨index, _ | observer⟩
  · have unchanged : state.afterCall (.deleteDataChannel channel) = state := by
      simp [afterCall, releaseObserver, deleteChannel, found]
    rwa [unchanged]
  · have deleted : state.afterCall (.deleteDataChannel channel) =
        { state with dcMap := state.dcMap.delete index } := by
      simp [afterCall, releaseObserver, deleteChannel, found]
    rw [deleted]
    exact ⟨consistent.channels.release_of_target_none found rfl, consistent.peers, kept⟩
  · have released : state.afterCall (.deleteDataChannel channel) =
        { state with
          dcMap := state.dcMap.delete index
          observers := state.observers.modify observer fun native => { native with registered := false } } := by
      simp [afterCall, releaseObserver, deleteChannel, found]
    rw [released]
    exact ⟨consistent.channels.release_of_target_some found rfl fun _ => rfl, consistent.peers, kept⟩

theorem Consistent.destroy (consistent : state.Consistent) (peerConnection : Nat) :
    (state.afterCall (.destroy peerConnection)).Consistent := by
  have kept : ∀ resolution ∈ state.callbacks, resolution.Correct { state with pcMap := _, peers := _ } :=
    fun resolution member =>
      (consistent.callbacks resolution member).grow (List.prefix_refl _) (List.prefix_refl _)
  rcases found : state.peerConnections[peerConnection]? with _ | ⟨index, _ | peer⟩
  · have unchanged : state.afterCall (.destroy peerConnection) = state := by
      simp [afterCall, deletePeerConnection, destroyPeer, found]
    rwa [unchanged]
  · have deleted : state.afterCall (.destroy peerConnection) =
        { state with pcMap := state.pcMap.delete index } := by
      simp [afterCall, deletePeerConnection, destroyPeer, found]
    rw [deleted]
    exact ⟨consistent.channels, consistent.peers.release_of_target_none found rfl, kept⟩
  · have destroyed : state.afterCall (.destroy peerConnection) =
        { state with
          pcMap := state.pcMap.delete index
          peers := state.peers.modify peer fun native => { native with hasConnection := false } } := by
      simp [afterCall, deletePeerConnection, destroyPeer, found]
    rw [destroyed]
    exact ⟨consistent.channels, consistent.peers.release_of_target_some found rfl fun _ => rfl, kept⟩

/-- Every call run to its end keeps the registries consistent, while the indices fit a C `int`. -/
theorem Consistent.afterCall (consistent : state.Consistent) (call : RegistrationCall)
    (channelRoom : call.registersChannel = true → state.channels.length + 1 < 2 ^ 31)
    (peerRoom : call.registersPeerConnection = true → state.peerConnections.length + 1 < 2 ^ 31) :
    (state.afterCall call).Consistent := by
  cases call with
  | registerChannel =>
      refine ⟨consistent.channels.register (channelRoom rfl) rfl rfl rfl rfl, consistent.peers, ?_⟩
      intro resolution member
      exact (consistent.callbacks resolution member).grow (List.prefix_append _ _) (List.prefix_refl _)
  | registerPeerConnection =>
      refine ⟨consistent.channels, consistent.peers.register (peerRoom rfl) rfl rfl rfl rfl, ?_⟩
      intro resolution member
      exact (consistent.callbacks resolution member).grow (List.prefix_refl _) (List.prefix_append _ _)
  | deleteDataChannel channel => exact consistent.deleteDataChannel channel
  | destroy peerConnection => exact consistent.destroy peerConnection
  | channelCallback observer =>
      refine ⟨consistent.channels, consistent.peers, ?_⟩
      intro resolution member
      rcases List.mem_append.mp member with old | new
      · exact (consistent.callbacks resolution old).grow (List.prefix_refl _) (List.prefix_refl _)
      · exact (consistent.resolveChannel_correct (by simpa using new)).grow (List.prefix_refl _)
          (List.prefix_refl _)
  | peerCallback peer =>
      refine ⟨consistent.channels, consistent.peers, ?_⟩
      intro resolution member
      rcases List.mem_append.mp member with old | new
      · exact (consistent.callbacks resolution old).grow (List.prefix_refl _) (List.prefix_refl _)
      · exact (consistent.resolvePeer_correct (by simpa using new)).grow (List.prefix_refl _)
          (List.prefix_refl _)

/-- A serial program keeps the registries consistent when it registers fewer than `2 ^ 31`
objects of each kind in all. -/
theorem Consistent.foldl (consistent : state.Consistent) (calls : List RegistrationCall)
    (channelRoom : state.channels.length + calls.countP RegistrationCall.registersChannel < 2 ^ 31)
    (peerRoom : state.peerConnections.length + calls.countP RegistrationCall.registersPeerConnection < 2 ^ 31) :
    (calls.foldl Registries.afterCall state).Consistent := by
  induction calls generalizing state with
  | nil => exact consistent
  | cons call later ih =>
      rw [List.countP_cons] at channelRoom peerRoom
      have next := consistent.afterCall call (fun registers => by simp [registers] at channelRoom; omega)
        (fun registers => by simp [registers] at peerRoom; omega)
      apply ih next
      · rw [channels_length_afterCall]
        omega
      · rw [peerConnections_length_afterCall]
        omega

end Registries

/-- Serial calls: every callback resolves to its own wrapper, below `2 ^ 31` registrations of
each kind. -/
theorem serialCalls_resolveOwnWrapper (uninitialised : Int32) (calls : List RegistrationCall)
    (channelsFit : calls.countP RegistrationCall.registersChannel < 2 ^ 31)
    (peersFit : calls.countP RegistrationCall.registersPeerConnection < 2 ^ 31) :
    let final := ((registrationSystem Unit uninitialised).run (registrationStart fun _ => calls)
      (List.replicate (calls.flatMap RegistrationCall.actions).length ())).shared
    (∀ resolution ∈ final.callbacks, resolution.Correct final) ∧
      (∀ observer resolution, final.resolveChannel observer = some resolution → resolution.Correct final) ∧
      ∀ peer resolution, final.resolvePeer peer = some resolution → resolution.Correct final := by
  intro final
  obtain ⟨next, -, ran⟩ :=
    run_calls uninitialised calls _ ⟨calls.flatMap RegistrationCall.actions, 0, 0, 0⟩ [] (by simp)
  have folded : final = calls.foldl Registries.afterCall ⟨newCGOMap, newCGOMap, [], [], [], [], []⟩ :=
    congrArg Interleaving.Config.shared ran
  have consistent := Registries.consistent_start.foldl calls (by simpa using channelsFit)
    (by simpa using peersFit)
  rw [← folded] at consistent
  exact ⟨consistent.callbacks, fun _ _ resolved => consistent.resolveChannel_correct resolved,
    fun _ _ resolved => consistent.resolvePeer_correct resolved⟩

/-- A data channel and a peer connection are registered, fire, are deleted, and fire again. -/
def lifecycleCalls : List RegistrationCall :=
  [.registerChannel, .registerPeerConnection, .channelCallback 0, .peerCallback 0, .deleteDataChannel 0,
    .channelCallback 0, .destroy 0, .peerCallback 0]

theorem serialCalls_resolveOwnWrapper_lifecycle :
    lifecycleCalls.countP RegistrationCall.registersChannel < 2 ^ 31 ∧
      lifecycleCalls.countP RegistrationCall.registersPeerConnection < 2 ^ 31 ∧
      let final := ((registrationSystem Unit 0).run (registrationStart fun _ => lifecycleCalls)
        (List.replicate (lifecycleCalls.flatMap RegistrationCall.actions).length ())).shared
      (∀ resolution ∈ final.callbacks, resolution.Correct final) ∧
        (∀ observer resolution, final.resolveChannel observer = some resolution → resolution.Correct final) ∧
        ∀ peer resolution, final.resolvePeer peer = some resolution → resolution.Correct final :=
  ⟨by decide, by decide, serialCalls_resolveOwnWrapper 0 lifecycleCalls (by decide) (by decide)⟩

/-- The callbacks fired after the deletions reach nothing. -/
example :
    ((registrationSystem Unit 0).run (registrationStart fun _ => lifecycleCalls)
      (List.replicate (lifecycleCalls.flatMap RegistrationCall.actions).length ())).shared.callbacks =
      [.channel 0 (.ok 0), .peer 0 (.ok 0)] := by
  decide

/-- Serial channel registrations keep the channel table indexed, adding one channel and one
observer each, and fire no callback. -/
theorem registerChannels_indexed (state : Registries) (count : Nat)
    (registry : RegistryIndexed GoChannel.index state.dcMap state.channels state.observers)
    (room : state.channels.length + count < 2 ^ 63) :
    let after := (List.replicate count RegistrationCall.registerChannel).foldl Registries.afterCall state
    RegistryIndexed GoChannel.index after.dcMap after.channels after.observers ∧
      after.channels.length = state.channels.length + count ∧ after.callbacks = state.callbacks := by
  induction count generalizing state with
  | zero => exact ⟨registry, rfl, rfl⟩
  | succ count ih =>
      have registered : RegistryIndexed GoChannel.index (state.afterCall .registerChannel).dcMap
          (state.afterCall .registerChannel).channels (state.afterCall .registerChannel).observers :=
        registry.register (by omega) rfl
      obtain ⟨indexed, length, quiet⟩ :=
        ih (state.afterCall .registerChannel) registered (by simp [Registries.afterCall]; omega)
      simp only [List.replicate_succ, List.foldl_cons]
      refine ⟨indexed, ?_, quiet⟩
      rw [length]
      simp [Registries.afterCall]
      omega

/-- From the `2 ^ 31`-th data channel on, `C.int(c.index)` no longer carries the channel's index:
a callback on the new observer looks up a negative key and panics. -/
theorem channelIndex_truncated (uninitialised : Int32) (count : Nat) (low : 2 ^ 31 ≤ count)
    (high : count < 2 ^ 32) :
    ((registrationSystem Unit uninitialised).run
        (registrationStart fun _ => List.replicate count .registerChannel ++ [.channelCallback (count - 1)])
        (List.replicate (5 * count + 1) ())).shared.callbacks =
      [.channel (count - 1) (.error (.message "couldn't retrieve the pointer"))] := by
  set calls := List.replicate count RegistrationCall.registerChannel ++ [.channelCallback (count - 1)]
  obtain ⟨next, -, ran⟩ :=
    run_calls uninitialised calls _ ⟨calls.flatMap RegistrationCall.actions, 0, 0, 0⟩ [] (by simp)
  have steps : (calls.flatMap RegistrationCall.actions).length = 5 * count + 1 := by
    simp [calls, RegistrationCall.actions]
    omega
  have folded : ((registrationSystem Unit uninitialised).run (registrationStart fun _ => calls)
      (List.replicate (5 * count + 1) ())).shared =
      calls.foldl Registries.afterCall ⟨newCGOMap, newCGOMap, [], [], [], [], []⟩ := by
    rw [← steps]
    exact congrArg Interleaving.Config.shared ran
  have split : List.replicate count RegistrationCall.registerChannel =
      List.replicate (count - 1) RegistrationCall.registerChannel ++ [.registerChannel] := by
    rw [← List.replicate_succ']
    congr
    omega
  rw [folded]
  simp only [calls]
  rw [split, List.foldl_append, List.foldl_append]
  obtain ⟨indexed, length, quiet⟩ := registerChannels_indexed ⟨newCGOMap, newCGOMap, [], [], [], [], []⟩
    (count - 1) registryIndexed_empty (by show 0 + (count - 1) < 2 ^ 63; omega)
  set earlier := (List.replicate (count - 1) RegistrationCall.registerChannel).foldl Registries.afterCall
    ⟨newCGOMap, newCGOMap, [], [], [], [], []⟩
  have earlierLength : earlier.channels.length = count - 1 := by simpa using length
  have earlierQuiet : earlier.callbacks = [] := quiet
  -- the `count`-th registration stores `count` in `DCMap` and `count - 2 ^ 32` in `goChannel`
  have counted : (earlier.dcMap.index + 1).toInt = count := by
    rw [toInt_add_one_of_count indexed.count (by omega), earlierLength]
    omega
  have truncated : (goInt (cInt (earlier.dcMap.index + 1))).toInt = count - 2 ^ 32 := by
    rw [goInt, Int32.toInt_toInt64, cInt_toInt, counted, Int.bmod_def]
    split <;> omega
  have missing : (earlier.dcMap.setLocked (some earlier.channels.length)).get
      (goInt (cInt (earlier.dcMap.index + 1))) = .error (.message "couldn't retrieve the pointer") := by
    rw [CGOMap.get_setLocked, if_neg, indexed.get_of_nonpos (by omega)]
    intro same
    have := congrArg Int64.toInt same
    omega
  have observerAt : (earlier.observers ++ [⟨cInt (earlier.dcMap.index + 1), true⟩])[count - 1]? =
      some ⟨cInt (earlier.dcMap.index + 1), true⟩ := by
    rw [← earlierLength, ← indexed.paired, List.getElem?_concat_length]
  simp [Registries.afterCall, Registries.resolveChannel, earlierQuiet, observerAt, missing]

theorem channelIndex_truncated_first :
    2 ^ 31 ≤ 2 ^ 31 ∧ 2 ^ 31 < 2 ^ 32 ∧
      ((registrationSystem Unit 0).run
          (registrationStart fun _ => List.replicate (2 ^ 31) .registerChannel ++ [.channelCallback (2 ^ 31 - 1)])
          (List.replicate (5 * 2 ^ 31 + 1) ())).shared.callbacks =
        [.channel (2 ^ 31 - 1) (.error (.message "couldn't retrieve the pointer"))] :=
  ⟨le_refl _, by norm_num, channelIndex_truncated 0 (2 ^ 31) (le_refl _) (by norm_num)⟩

end GoWebrtc
