import GoWebrtc.C.Frame

/-!
Releasing what was allocated: `Releases`, `KeepsLive`, and the loop rule of `releaseSlots`.
-/

namespace CMemory

open Heap

/-- `after` came from `before` by allocating in fresh memory: the live blocks below `before.next`
and from `after.next` on are those of `before`. -/
structure KeepsLive (before after : Heap) : Prop where
  grows : before.next ≤ after.next
  keeps : ∀ address, address < before.next ∨ after.next ≤ address →
    after.sizes address = before.sizes address

namespace KeepsLive

variable {first second third : Heap}

theorem refl (heap : Heap) : KeepsLive heap heap := ⟨le_rfl, fun _ _ => rfl⟩

theorem trans (earlier : KeepsLive first second) (later : KeepsLive second third) :
    KeepsLive first third := by
  have firstGrows := earlier.grows
  have secondGrows := later.grows
  refine ⟨firstGrows.trans secondGrows, fun address outside => ?_⟩
  rw [later.keeps address (by omega), earlier.keeps address (by omega)]

/-- Work that leaves the live blocks and the free address alone, such as a store. -/
theorem of_eq (next : second.next = first.next) (sizes : second.sizes = first.sizes) :
    KeepsLive first second :=
  ⟨next.ge, fun _ _ => by rw [sizes]⟩

theorem store (heap : Heap) (address : Nat) (cell : Cell) : KeepsLive heap (heap.store address cell) :=
  of_eq rfl rfl

theorem malloc (heap : Heap) (size : Nat) : KeepsLive heap (heap.malloc size).1 := by
  refine ⟨by simp, fun address outside => ?_⟩
  simp only [malloc_next] at outside
  rw [malloc_sizes, Function.update_of_ne (by omega)]

theorem cString (heap : Heap) (bytes : List UInt8) : KeepsLive heap (heap.cString bytes).1 := by
  refine ⟨by simp, fun address outside => ?_⟩
  simp only [cString_next] at outside
  rw [cString_sizes, Function.update_of_ne (by omega)]

end KeepsLive

/-- A heap grown from a fresh one by allocation is fresh. -/
theorem Heap.Fresh.keepsLive {heap after : Heap} (fresh : heap.Fresh) (grown : KeepsLive heap after) :
    after.Fresh := fun address past => by
  rw [grown.keeps address (.inr past)]
  exact fresh address (grown.grows.trans past)

section Fill

variable {β γ : Type} {convert : β → Heap → Heap × γ} {put : Heap → Nat → γ → Heap} {base stride : Nat}

/-- `fillSlots` allocates in fresh memory when its conversions do and its stores keep the live
blocks. -/
theorem fillSlots_keepsLive (converts : ∀ item heap, KeepsLive heap (convert item heap).1)
    (puts : ∀ heap slot value, KeepsLive heap (put heap slot value)) :
    ∀ {items : List β} {heap : Heap} {index : Nat},
      KeepsLive heap (fillSlots convert put base stride heap index items)
  | [], heap, _ => KeepsLive.refl heap
  | item :: rest, heap, index => by
      simp only [fillSlots]
      exact ((converts item heap).trans (puts _ _ _)).trans (fillSlots_keepsLive converts puts)

end Fill

theorem agree_empty (before after : Heap) : Agree before after ∅ := fun _ member =>
  absurd member (Set.notMem_empty _)

/-- Disjointness from a range, as arithmetic on its addresses. -/
theorem disjoint_Ico_left {lo hi : Nat} {other : Set Nat}
    (apart : ∀ address, lo ≤ address → address < hi → address ∉ other) : Disjoint (Set.Ico lo hi) other :=
  Set.disjoint_left.mpr fun address member => apart address member.1 member.2

/-- `freed` is `later` with every block live in `region` released and nothing outside `region`
touched. -/
structure Freed (later freed : Heap) (region : Set Nat) : Prop where
  next_eq : freed.next = later.next
  released : ∀ address ∈ region, freed.sizes address = none
  keeps_sizes : ∀ address ∉ region, freed.sizes address = later.sizes address
  keeps_cells : Agree later freed regionᶜ

namespace Freed

variable {first second third : Heap} {region other : Set Nat}

theorem refl (heap : Heap) : Freed heap heap ∅ :=
  ⟨rfl, fun _ member => absurd member (Set.notMem_empty _), fun _ _ => rfl, Agree.refl heap _⟩

theorem trans (earlier : Freed first second region) (later : Freed second third other) :
    Freed first third (region ∪ other) := by
  refine ⟨later.next_eq.trans earlier.next_eq, fun address member => ?_, fun address outside => ?_, ?_⟩
  · by_cases inOther : address ∈ other
    · exact later.released address inOther
    · rw [later.keeps_sizes address inOther]
      exact earlier.released address (member.resolve_right inOther)
  · rw [Set.mem_union, not_or] at outside
    rw [later.keeps_sizes address outside.2, earlier.keeps_sizes address outside.1]
  · rw [Set.compl_union]
    exact (earlier.keeps_cells.mono Set.inter_subset_left).trans (later.keeps_cells.mono Set.inter_subset_right)

/-- Freeing a live block releases a region that holds its bytes and no other live block. -/
theorem free {block size : Nat} (nonnull : block ≠ 0) (live : first.sizes block = some size)
    (ok : first.free block = .ok second) (owns : block ∈ region)
    (covers : Set.Ico block (block + size) ⊆ region)
    (alone : ∀ address ∈ region, address ≠ block → first.sizes address = none) : Freed first second region := by
  have sizes := free_sizes nonnull ok
  refine ⟨free_next ok, fun address member => ?_, fun address outside => ?_, ?_⟩
  · by_cases same : address = block
    · rw [sizes, same, Function.update_self]
    · rw [sizes, Function.update_of_ne same]
      exact alone address member same
  · rw [sizes, Function.update_of_ne (show address ≠ block from fun same => outside (same ▸ owns))]
  · refine agree_free ok live fun address outside => ?_
    by_contra inside
    exact outside (covers (Set.mem_Ico.mpr ⟨by omega, by omega⟩))

/-- Releasing all the fresh memory of a run that started from a fresh heap gives back the live
blocks from before the run. -/
theorem restores {heap after final : Heap} (fresh : heap.Fresh) (grown : KeepsLive heap after)
    (freed : Freed after final (Set.Ico heap.next after.next)) : final.sizes = heap.sizes := by
  funext address
  by_cases inside : address ∈ Set.Ico heap.next after.next
  · rw [freed.released address inside, fresh address inside.1]
  · rw [freed.keeps_sizes address inside]
    apply grown.keeps address
    simp only [Set.mem_Ico, not_and, not_lt] at inside
    omega

end Freed

/-- `release` frees every block live in `region`, and touches nothing outside it, on every heap
grown from `heap` that kept its bytes on `reads` and its live blocks on `region`. -/
def Releases {ε : Type} (release : Heap → Except ε Heap) (heap : Heap) (reads region : Set Nat) : Prop :=
  ∀ later : Heap, Agree heap later reads → (∀ address ∈ region, later.sizes address = heap.sizes address) →
    heap.next ≤ later.next → ∃ freed, release later = .ok freed ∧ Freed later freed region

namespace Releases

variable {ε α : Type} {release : Heap → Except ε Heap} {heap : Heap} {reads region : Set Nat}

theorem ok (releases : Releases release heap reads region) :
    ∃ freed, release heap = .ok freed ∧ Freed heap freed region :=
  releases heap (Agree.refl heap reads) (fun _ _ => rfl) le_rfl

theorem widen (releases : Releases release heap reads region) {larger : Set Nat} (sub : reads ⊆ larger) :
    Releases release heap larger region := fun later agree live grows =>
  releases later (agree.mono sub) live grows

theorem transfer (releases : Releases release heap reads region) {heap' : Heap}
    (agree : Agree heap heap' reads) (live : ∀ address ∈ region, heap'.sizes address = heap.sizes address)
    (grows : heap.next ≤ heap'.next) : Releases release heap' reads region :=
  fun later agree' live' grows' =>
    releases later (agree.trans agree') (fun address member => (live' address member).trans (live address member))
      (grows.trans grows')

/-- A release can be replaced by one that does the same on every heap it may run on. -/
theorem congr (releases : Releases release heap reads region) {other : Heap → Except ε Heap}
    (same : ∀ later, Agree heap later reads → heap.next ≤ later.next → other later = release later) :
    Releases other heap reads region := fun later agree live grows => by
  rw [same later agree grows]
  exact releases later agree live grows

theorem pure (heap : Heap) (reads : Set Nat) :
    Releases (fun later => (.ok later : Except ε Heap)) heap reads ∅ :=
  fun later _ _ _ => ⟨later, rfl, Freed.refl later⟩

/-- `free(NULL)` releases nothing. -/
theorem free_null (fault : Fault → ε) (heap : Heap) (reads : Set Nat) :
    Releases (fun later => (later.free 0).mapError fault) heap reads ∅ :=
  fun later _ _ _ => ⟨later, by
    show (later.free 0).mapError fault = .ok later
    rw [Heap.free, if_pos rfl]
    rfl, Freed.refl later⟩

/-- Freeing a live block releases a region that holds its bytes and no other live block. -/
theorem free {block size : Nat} (nonnull : block ≠ 0) (live : heap.sizes block = some size)
    (owns : block ∈ region) (covers : Set.Ico block (block + size) ⊆ region)
    (alone : ∀ address ∈ region, address ≠ block → heap.sizes address = none) (fault : Fault → ε) :
    Releases (fun later => (later.free block).mapError fault) heap reads region := by
  intro later _ sameLive _
  have liveLater : later.sizes block = some size := (sameLive block owns).trans live
  obtain ⟨freed, ok⟩ := free_of_live nonnull liveLater
  have released : (later.free block).mapError fault = .ok freed := by
    rw [ok]
    rfl
  refine ⟨freed, released, Freed.free nonnull liveLater ok owns covers fun address member other => ?_⟩
  rw [sameLive address member]
  exact alone address member other

/-- Two releases in sequence: the second must not read or free what the first freed. -/
theorem bind {first second : Heap → Except ε Heap} {reads' region' : Set Nat}
    (releasesFirst : Releases first heap reads region) (releasesSecond : Releases second heap reads' region')
    (apart : Disjoint region (reads' ∪ region')) :
    Releases (fun later => first later >>= second) heap (reads ∪ reads') (region ∪ region') := by
  intro later agree live grows
  have outside : ∀ address ∈ reads' ∪ region', address ∉ region := fun address member inside =>
    Set.disjoint_left.mp apart inside member
  obtain ⟨middle, firstOk, firstFreed⟩ := releasesFirst later (agree.mono Set.subset_union_left)
    (fun address member => live address (.inl member)) grows
  have keptReads : Agree heap middle reads' :=
    (agree.mono Set.subset_union_right).trans
      (firstFreed.keeps_cells.mono fun address member => outside address (.inl member))
  have keptLive : ∀ address ∈ region', middle.sizes address = heap.sizes address := fun address member => by
    rw [firstFreed.keeps_sizes address (outside address (.inr member))]
    exact live address (.inr member)
  obtain ⟨final, secondOk, secondFreed⟩ :=
    releasesSecond middle keptReads keptLive (firstFreed.next_eq ▸ grows)
  refine ⟨final, ?_, firstFreed.trans secondFreed⟩
  show first later >>= second = .ok final
  rw [firstOk]
  exact secondOk

/-- A read before a release: its value is the one read on `heap` while its bytes are kept. -/
theorem read {read : Heap → Except Fault α} {value : α} {next : α → Heap → Except ε Heap}
    {readRegion : Set Nat} (fault : Fault → ε) (reading : ReadsWithin read value heap readRegion)
    (rest : Releases (next value) heap reads region) :
    Releases (fun later => (read later).mapError fault >>= fun loaded => next loaded later) heap
      (readRegion ∪ reads) region := by
  intro later agree live grows
  obtain ⟨freed, ok, released⟩ := rest later (agree.mono Set.subset_union_right) live grows
  refine ⟨freed, ?_, released⟩
  show (read later).mapError fault >>= (fun loaded => next loaded later) = .ok freed
  rw [reading later (agree.mono Set.subset_union_left) grows]
  exact ok

end Releases

section Blocks

variable {ε : Type} {heap : Heap}

/-- The block `malloc` just made in a fresh heap is released by freeing it. -/
theorem releases_malloc (fresh : heap.Fresh) (size : Nat) (fault : Fault → ε) :
    Releases (fun later => (later.free heap.next).mapError fault) (heap.malloc size).1 ∅
      (Set.Ico heap.next (heap.malloc size).1.next) := by
  have nonnull : heap.next ≠ 0 := Nat.pos_iff_ne_zero.mp heap.next_pos
  apply Releases.free nonnull (show (heap.malloc size).1.sizes heap.next = some size by simp) (by simp)
    (Set.Ico_subset_Ico le_rfl (by simp))
  intro address member other
  rw [malloc_sizes, Function.update_of_ne other]
  exact fresh address member.1

/-- The block of a `C.CString` made in a fresh heap is released by freeing it. -/
theorem releases_cString (fresh : heap.Fresh) (bytes : List UInt8) (fault : Fault → ε) :
    Releases (fun later => (later.free heap.next).mapError fault) (heap.cString bytes).1 ∅
      (Set.Ico heap.next (heap.cString bytes).1.next) := by
  have next : (heap.cString bytes).1.next = (heap.malloc (bytes.length + 1)).1.next := by simp
  rw [next]
  exact (releases_malloc fresh (bytes.length + 1) fault).transfer (agree_empty _ _) (fun address _ => by simp) next.ge

end Blocks

/-- `for i := 0; i < count; i++ { release(load(base + stride * i)) }`: the value in each of the
`remaining` slots from slot `index` on is loaded, then released. -/
def releaseSlots {ε γ : Type} (load : Heap → Nat → Except Fault γ) (fault : Fault → ε)
    (release : Heap → γ → Except ε Heap) (base stride : Nat) : Heap → Nat → Nat → Except ε Heap
  | heap, _, 0 => .ok heap
  | heap, index, remaining + 1 => do
      let value ← (load heap (base + stride * index)).mapError fault
      let heap ← release heap value
      releaseSlots load fault release base stride heap (index + 1) remaining

section ReleaseSlots

variable {ε β γ : Type} {convert : β → Heap → Heap × γ} {put : Heap → Nat → γ → Heap} {base stride : Nat}
  {load : Heap → Nat → Except Fault γ} {release : Heap → γ → Except ε Heap}

/-- What `releaseSlots` asks of a `fillSlots` loop: fresh conversions, stores that keep the live
blocks, and slots whose values release what their conversion allocated. -/
structure ReleaseRules (convert : β → Heap → Heap × γ) (put : Heap → Nat → γ → Heap) (stride : Nat)
    (load : Heap → Nat → Except Fault γ) (release : Heap → γ → Except ε Heap) (items : List β) : Prop
    extends SlotFrame convert put stride where
  convert_keepsLive : ∀ item heap, KeepsLive heap (convert item heap).1
  put_sizes : ∀ heap slot value, (put heap slot value).sizes = heap.sizes
  loads : ∀ item ∈ items, ∀ heap slot, slot ≠ 0 →
    ReadsWithin (fun later => load later slot) (convert item heap).2
      (put (convert item heap).1 slot (convert item heap).2) (Set.Ico slot (slot + stride))
  releases : ∀ item ∈ items, ∀ heap : Heap, heap.Fresh →
    Releases (fun later => release later (convert item heap).2) (convert item heap).1
      (Set.Ico heap.next (convert item heap).1.next) (Set.Ico heap.next (convert item heap).1.next)

theorem ReleaseRules.tail {item : β} {rest : List β}
    (rules : ReleaseRules convert put stride load release (item :: rest)) :
    ReleaseRules convert put stride load release rest :=
  ⟨rules.toSlotFrame, rules.convert_keepsLive, rules.put_sizes,
    fun other member => rules.loads other (List.mem_cons_of_mem item member),
    fun other member => rules.releases other (List.mem_cons_of_mem item member)⟩

theorem ReleaseRules.put_keepsLive (rules : ReleaseRules convert put stride load release items)
    (heap : Heap) (slot : Nat) (value : γ) : KeepsLive heap (put heap slot value) :=
  KeepsLive.of_eq (rules.put_next heap slot value) (rules.put_sizes heap slot value)

/-- The loop rule of `releaseSlots`: it releases exactly the memory `fillSlots` allocated. -/
theorem fillSlots_releases (fault : Fault → ε) (nonnull : base ≠ 0) :
    ∀ {items : List β} {heap : Heap} {index : Nat},
      ReleaseRules convert put stride load release items →
      base + stride * (index + items.length) ≤ heap.next → heap.Fresh →
      Releases (fun later => releaseSlots load fault release base stride later index items.length)
        (fillSlots convert put base stride heap index items)
        (Set.Ico (base + stride * index) (base + stride * (index + items.length)) ∪
          Set.Ico heap.next (fillSlots convert put base stride heap index items).next)
        (Set.Ico heap.next (fillSlots convert put base stride heap index items).next)
  | [], heap, _, _, _, _ => by
      simp only [fillSlots, List.length_nil, Set.Ico_self]
      exact Releases.pure _ _
  | item :: rest, heap, index, rules, below, fresh => by
      obtain ⟨expand_all, expand_rest, expand_next⟩ := slot_expand stride index rest.length
      simp only [List.length_cons] at below ⊢
      simp only [fillSlots]
      have grown := rules.fresh item heap
      have convertGrows := grown.grows
      have converted := rules.convert_keepsLive item heap
      have stored := rules.put_keepsLive (convert item heap).1 (base + stride * index) (convert item heap).2
      have stored_next :=
        rules.put_next (convert item heap).1 (base + stride * index) (convert item heap).2
      have below_rest : base + stride * (index + 1 + rest.length) ≤
          (put (convert item heap).1 (base + stride * index) (convert item heap).2).next := by
        omega
      have later := fillSlots_releases fault nonnull rules.tail below_rest ((fresh.keepsLive converted).keepsLive stored)
      have framed := fillSlots_framed rules.toSlotFrame below_rest
      have restGrows := framed.grows
      have laterLive : KeepsLive (put (convert item heap).1 (base + stride * index) (convert item heap).2)
          (fillSlots convert put base stride (put (convert item heap).1 (base + stride * index) (convert item heap).2)
            (index + 1) rest) :=
        fillSlots_keepsLive rules.convert_keepsLive rules.put_keepsLive
      have loaded := (rules.loads item List.mem_cons_self heap (base + stride * index) (by omega)).transfer
        (framed.keeps_below.mono fun address member => by
          simp only [Set.mem_Ico] at member
          exact Set.mem_Iio.mpr (by omega))
        framed.grows
      have keptConversion : Agree (convert item heap).1
          (fillSlots convert put base stride (put (convert item heap).1 (base + stride * index) (convert item heap).2)
            (index + 1) rest) (Set.Ico heap.next (convert item heap).1.next) := by
        refine ((rules.put_agree _ _ _).mono fun address member => ?_).trans (framed.keeps_above.mono fun address member => ?_)
        · simp only [Set.mem_Ico] at member
          simp only [Set.mem_compl_iff, Set.mem_Ico]
          omega
        · simp only [Set.mem_Ico] at member ⊢
          omega
      have liveConversion : ∀ address ∈ Set.Ico heap.next (convert item heap).1.next,
          (fillSlots convert put base stride (put (convert item heap).1 (base + stride * index) (convert item heap).2)
            (index + 1) rest).sizes address = (convert item heap).1.sizes address := fun address member => by
        simp only [Set.mem_Ico] at member
        rw [laterLive.keeps address (.inl (by omega)), rules.put_sizes]
      have first := (rules.releases item List.mem_cons_self heap fresh).transfer keptConversion liveConversion
        (by rw [← stored_next]; exact restGrows)
      have apart : Disjoint (Set.Ico heap.next (convert item heap).1.next)
          ((Set.Ico (base + stride * (index + 1)) (base + stride * (index + 1 + rest.length)) ∪
            Set.Ico (put (convert item heap).1 (base + stride * index) (convert item heap).2).next
              (fillSlots convert put base stride
                (put (convert item heap).1 (base + stride * index) (convert item heap).2) (index + 1) rest).next) ∪
            Set.Ico (put (convert item heap).1 (base + stride * index) (convert item heap).2).next
              (fillSlots convert put base stride
                (put (convert item heap).1 (base + stride * index) (convert item heap).2) (index + 1) rest).next) := by
        rw [Set.disjoint_left]
        intro address inFirst inRest
        simp only [Set.mem_union, Set.mem_Ico] at inFirst inRest
        omega
      have whole := Releases.bind first later apart
      have region : Set.Ico heap.next (convert item heap).1.next ∪
          Set.Ico (put (convert item heap).1 (base + stride * index) (convert item heap).2).next
            (fillSlots convert put base stride
              (put (convert item heap).1 (base + stride * index) (convert item heap).2) (index + 1) rest).next =
          Set.Ico heap.next (fillSlots convert put base stride
              (put (convert item heap).1 (base + stride * index) (convert item heap).2) (index + 1) rest).next := by
        rw [stored_next]
        exact Set.Ico_union_Ico_eq_Ico convertGrows (by rw [← stored_next]; exact restGrows)
      rw [region] at whole
      show Releases (fun later => (load later (base + stride * index)).mapError fault >>= fun loaded =>
          release later loaded >>= fun later =>
            releaseSlots load fault release base stride later (index + 1) rest.length) _ _ _
      refine (Releases.read fault loaded whole).widen fun address member => ?_
      simp only [Set.mem_union, Set.mem_Ico] at member ⊢
      omega

end ReleaseSlots

end CMemory
