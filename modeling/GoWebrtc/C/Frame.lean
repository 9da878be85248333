import GoWebrtc.C.Memory

/-!
Reads that survive later work, and the loop rule of `fillSlots`.
-/

namespace CMemory

open Heap

/-- `after` came from `before` by work in fresh memory only: what was allocated is untouched. -/
structure Extends (before after : Heap) : Prop where
  grows : before.next ≤ after.next
  keeps : Agree before after (Set.Iio before.next)

namespace Extends

variable {first second third : Heap}

theorem refl (heap : Heap) : Extends heap heap := ⟨le_rfl, Agree.refl heap _⟩

theorem trans (earlier : Extends first second) (later : Extends second third) :
    Extends first third :=
  ⟨earlier.grows.trans later.grows,
    earlier.keeps.trans (later.keeps.mono (Set.Iio_subset_Iio earlier.grows))⟩

theorem malloc (heap : Heap) (size : Nat) : Extends heap (heap.malloc size).1 :=
  ⟨by simp, Agree.refl heap _⟩

theorem store (earlier : Extends first second) {address : Nat} (fresh : first.next ≤ address)
    (cell : Cell) : Extends first (second.store address cell) :=
  ⟨by simpa using earlier.grows,
    earlier.keeps.trans (agree_store fun _ member => .inl (lt_of_lt_of_le (Set.mem_Iio.mp member) fresh))⟩

theorem storeBytes (earlier : Extends first second) {address : Nat} (fresh : first.next ≤ address)
    (bytes : List UInt8) : Extends first (second.storeBytes address bytes) :=
  ⟨by simpa using earlier.grows,
    earlier.keeps.trans
      (agree_storeBytes fun _ member => .inl (lt_of_lt_of_le (Set.mem_Iio.mp member) fresh))⟩

theorem cString (heap : Heap) (bytes : List UInt8) : Extends heap (heap.cString bytes).1 :=
  (malloc heap (bytes.length + 1)).storeBytes le_rfl (bytes ++ [0])

/-- Freeing a block allocated after `first` keeps what `first` had. -/
theorem free (earlier : Extends first second) {block size : Nat} {freed : Heap}
    (ok : second.free block = .ok freed) (live : second.sizes block = some size) (above : first.next ≤ block) :
    Extends first freed :=
  ⟨earlier.grows.trans (free_next ok).ge,
    earlier.keeps.trans (agree_free ok live fun _ member => .inl (lt_of_lt_of_le (Set.mem_Iio.mp member) above))⟩

theorem loadInt_eq (grown : Extends first second) {address : Nat} (below : address + 4 ≤ first.next) :
    second.loadInt address = first.loadInt address :=
  loadInt_congr (grown.keeps.mono (Set.Ico_subset_Iio_self.trans (Set.Iio_subset_Iio below)))

end Extends

/-- `read` gives `value` on `heap` and on every heap grown from it that kept the bytes of `region`. -/
def ReadsWithin {α : Type} (read : Heap → Except Fault α) (value : α) (heap : Heap)
    (region : Set Nat) : Prop :=
  ∀ later : Heap, Agree heap later region → heap.next ≤ later.next → read later = .ok value

namespace ReadsWithin

variable {α β : Type} {read : Heap → Except Fault α} {value : α} {heap : Heap} {region : Set Nat}

theorem ok (reads : ReadsWithin read value heap region) : read heap = .ok value :=
  reads heap (Agree.refl heap region) le_rfl

theorem widen (reads : ReadsWithin read value heap region) {larger : Set Nat}
    (sub : region ⊆ larger) : ReadsWithin read value heap larger := fun later agree grows =>
  reads later (agree.mono sub) grows

theorem transfer (reads : ReadsWithin read value heap region) {heap' : Heap}
    (agree : Agree heap heap' region) (grows : heap.next ≤ heap'.next) :
    ReadsWithin read value heap' region := fun later agree' grows' =>
  reads later (agree.trans agree') (grows.trans grows')

/-- Work in fresh memory keeps a read of what was allocated before it. -/
theorem extend (reads : ReadsWithin read value heap region) (below : region ⊆ Set.Iio heap.next)
    {heap' : Heap} (grown : Extends heap heap') : ReadsWithin read value heap' region :=
  reads.transfer (grown.keeps.mono below) grown.grows

theorem bind (first : ReadsWithin read value heap region) {next : Heap → α → Except Fault β}
    {result : β} (second : ReadsWithin (fun later => next later value) result heap region) :
    ReadsWithin (fun later => read later >>= next later) result heap region := by
  intro later agree grows
  show read later >>= next later = .ok result
  rw [first later agree grows]
  exact second later agree grows

/-- A store outside the region keeps a read. -/
theorem store (reads : ReadsWithin read value heap region) {address : Nat} {cell : Cell}
    (apart : ∀ other ∈ region, other < address ∨ address + cell.width ≤ other) :
    ReadsWithin read value (heap.store address cell) region :=
  reads.transfer (agree_store apart) (by simp)

end ReadsWithin

section Reads

theorem readsWithin_loadPointer_store (heap : Heap) {address : Nat} (nonnull : address ≠ 0)
    (target : Nat) :
    ReadsWithin (fun later => later.loadPointer address) target
      (heap.store address (.pointer target)) (Set.Ico address (address + 8)) := by
  intro later agree _
  show later.loadPointer address = .ok target
  rw [loadPointer_congr agree]
  exact loadPointer_store_self nonnull target

/-- Whatever the bytes, a `C.CString` block reads as those before the first zero while its
bytes stay. -/
theorem readsWithin_cString_takeWhile (heap : Heap) (bytes : List UInt8) :
    ReadsWithin (fun later => later.readCString heap.next) (bytes.takeWhile (· != 0)) (heap.cString bytes).1
      (Set.Ico heap.next (heap.cString bytes).1.next) := by
  intro later agree grows
  have read : (heap.cString bytes).1.readCString (heap.cString bytes).2 = .ok (bytes.takeWhile (· != 0)) :=
    readCString_cString_takeWhile bytes
  rw [cString_block] at read
  apply readCString_of_agree read _ grows
  apply agree.mono
  rw [cString_next]
  have shorter : (bytes.takeWhile (· != 0)).length ≤ bytes.length := (List.takeWhile_prefix _).length_le
  exact Set.Ico_subset_Ico le_rfl (by omega)

/-- `C.CString` reads back as its bytes while its fresh block is kept. -/
theorem readsWithin_cString (heap : Heap) {bytes : List UInt8} (noZero : 0 ∉ bytes) :
    ReadsWithin (fun later => later.readCString heap.next) bytes (heap.cString bytes).1
      (Set.Ico heap.next (heap.cString bytes).1.next) := by
  have reads := readsWithin_cString_takeWhile heap bytes
  rwa [takeWhile_eq_self_of_noZero noZero] at reads

end Reads

/-- What `(item :: rest).mapM f` gave when it succeeded. -/
theorem mapM_cons_eq_ok {ε α β : Type} {f : α → Except ε β} {item : α} {rest : List α}
    {results : List β} :
    (item :: rest).mapM f = .ok results ↔
      ∃ result others, f item = .ok result ∧ rest.mapM f = .ok others ∧ results = result :: others := by
  constructor
  · intro mapped
    cases head : f item with
    | error fault => simp [List.mapM_cons, head] at mapped
    | ok result =>
        cases tail : rest.mapM f with
        | error fault => simp [List.mapM_cons, head, tail] at mapped
        | ok others =>
            simp [List.mapM_cons, head, tail] at mapped
            exact ⟨result, others, rfl, rfl, mapped.symm⟩
  · rintro ⟨result, others, head, tail, rfl⟩
    simp [List.mapM_cons, head, tail]

/-- Mapping twice succeeds with the results of mapping the composite. -/
theorem mapM_bind_mapM {ε α β γ : Type} {f : α → Except ε β} {g : β → Except ε γ} :
    ∀ {items : List α} {results : List γ}, items.mapM (fun item => f item >>= g) = .ok results →
      (items.mapM f >>= fun middle => middle.mapM g) = .ok results
  | [], results, fused => by simpa using fused
  | item :: rest, results, fused => by
      obtain ⟨result, others, step, remaining, rfl⟩ := mapM_cons_eq_ok.mp fused
      cases first : f item with
      | error fault => simp [first] at step
      | ok middle =>
          have second : g middle = .ok result := by simpa [first] using step
          have tail := mapM_bind_mapM remaining
          cases middles : rest.mapM f with
          | error fault => simp [middles] at tail
          | ok middleList =>
              have mapped : middleList.mapM g = .ok others := by simpa [middles] using tail
              simp [List.mapM_cons, first, middles, second, mapped]

/-- A `mapM` over `range' start` whose steps all succeed gives their values. -/
theorem mapM_range'_eq_ok {ε α : Type} {f : Nat → Except ε α} :
    ∀ {values : List α} {start : Nat},
      (∀ index (inside : index < values.length), f (start + index) = .ok values[index]) →
        (List.range' start values.length).mapM f = .ok values
  | [], _, _ => rfl
  | value :: rest, start, each => by
      have head : f start = .ok value := by
        have first := each 0 (by simp)
        rwa [Nat.add_zero, List.getElem_cons_zero] at first
      have tail : (List.range' (start + 1) rest.length).mapM f = .ok rest :=
        mapM_range'_eq_ok fun index inside => by
          have shifted := each (index + 1) (by simp only [List.length_cons]; omega)
          rwa [show start + (index + 1) = start + 1 + index by omega] at shifted
      simp [List.range'_succ, List.mapM_cons, head, tail]

/-- A range whose elements all load reads back as the list of them. -/
theorem loadRange_eq_ok {α : Type} {load : Nat → Except Fault α} {first stride : Nat}
    {count : Int32} {values : List α} (length : values.length = count.toInt.toNat)
    (nonnegative : 0 ≤ count.toInt)
    (each : ∀ index (inside : index < values.length), load (first + stride * index) = .ok values[index]) :
    loadRange load first stride count = .ok values := by
  rw [loadRange, if_neg (by omega), ← length, List.range_eq_range']
  exact mapM_range'_eq_ok fun index inside => by simpa using each index inside

theorem readsWithin_loadRange {α : Type} {load : Heap → Nat → Except Fault α} {first stride : Nat}
    {count : Int32} {values : List α} {heap : Heap} {region : Set Nat}
    (length : values.length = count.toInt.toNat) (nonnegative : 0 ≤ count.toInt)
    (each : ∀ index (inside : index < values.length),
      ReadsWithin (fun later => load later (first + stride * index)) values[index] heap region) :
    ReadsWithin (fun later => loadRange (load later) first stride count) values heap region := by
  intro later agree grows
  exact loadRange_eq_ok length nonnegative fun index inside => each index inside later agree grows

@[simp] theorem loadRange_zero {α : Type} (load : Nat → Except Fault α) (first stride : Nat) :
    loadRange load first stride 0 = .ok [] := rfl

/-- Loading a range and then converting each element succeeds as loading and converting each
element in turn does. -/
theorem loadRange_bind_mapM {α β : Type} {load : Nat → Except Fault α} {cast : α → Except Fault β}
    {first stride : Nat} {count : Int32} {results : List β}
    (fused : loadRange (fun address => load address >>= cast) first stride count = .ok results) :
    (loadRange load first stride count >>= fun items => items.mapM cast) = .ok results := by
  unfold loadRange at fused ⊢
  by_cases negative : count.toInt < 0
  · rw [if_pos negative] at fused
    cases fused
  · rw [if_neg negative] at fused ⊢
    exact mapM_bind_mapM fused

/-- The continuation of a range load and a conversion of its elements gets the converted list. -/
theorem loadRange_mapM_bind {α β γ : Type} {load : Nat → Except Fault α} {cast : α → Except Fault β}
    {first stride : Nat} {count : Int32} {results : List β} {rest : List β → Except Fault γ}
    (fused : loadRange (fun address => load address >>= cast) first stride count = .ok results) :
    (loadRange load first stride count >>= fun items => items.mapM cast >>= rest) = rest results := by
  rw [← bind_assoc, loadRange_bind_mapM fused]
  rfl

/-- `for i, item := range items { *(base + stride * i) = convert(item) }`: each item is converted
in fresh memory, and `put` stores the result in its slot. -/
def fillSlots {β γ : Type} (convert : β → Heap → Heap × γ) (put : Heap → Nat → γ → Heap)
    (base stride : Nat) : Heap → Nat → List β → Heap
  | heap, _, [] => heap
  | heap, index, item :: rest =>
      let converted := convert item heap
      fillSlots convert put base stride (put converted.1 (base + stride * index) converted.2)
        (index + 1) rest

section Fill

variable {β γ δ : Type} {convert : β → Heap → Heap × γ} {put : Heap → Nat → γ → Heap}
  {base stride : Nat} {readSlot : Heap → Nat → Except Fault δ} {spec : β → δ}

/-- What the frame part of the loop rule of `fillSlots` asks: conversions work in fresh memory,
and a store stays in its slot. -/
structure SlotFrame (convert : β → Heap → Heap × γ) (put : Heap → Nat → γ → Heap) (stride : Nat) :
    Prop where
  fresh : ∀ item heap, Extends heap (convert item heap).1
  put_next : ∀ heap slot value, (put heap slot value).next = heap.next
  put_agree : ∀ heap slot value, Agree heap (put heap slot value) (Set.Ico slot (slot + stride))ᶜ

/-- What the loop rule asks besides: a slot read after a conversion and its store gives the
item's value, while the slot and the conversion's memory are kept. -/
structure SlotRules (convert : β → Heap → Heap × γ) (put : Heap → Nat → γ → Heap) (stride : Nat)
    (readSlot : Heap → Nat → Except Fault δ) (spec : β → δ) (items : List β) : Prop
    extends SlotFrame convert put stride where
  reads : ∀ item ∈ items, ∀ heap slot, slot ≠ 0 → slot + stride ≤ heap.next →
    ReadsWithin (fun later => readSlot later slot) (spec item)
      (put (convert item heap).1 slot (convert item heap).2)
      (Set.Ico slot (slot + stride) ∪ Set.Ico heap.next (convert item heap).1.next)

theorem SlotRules.tail {item : β} {rest : List β}
    (rules : SlotRules convert put stride readSlot spec (item :: rest)) :
    SlotRules convert put stride readSlot spec rest :=
  ⟨rules.toSlotFrame, fun other member => rules.reads other (List.mem_cons_of_mem item member)⟩

/-- What `fillSlots` leaves around its `count` slots from slot `index` on: the memory below them
and between their end and the old free address is unchanged. -/
structure Framed (heap final : Heap) (base stride index count : Nat) : Prop where
  grows : heap.next ≤ final.next
  keeps_below : Agree heap final (Set.Iio (base + stride * index))
  keeps_above : Agree heap final (Set.Ico (base + stride * (index + count)) heap.next)

/-- What `fillSlots` leaves in its slots besides: slot `k` reads as item `k` while the slots and
the memory the loop allocated are kept. -/
structure Filled (heap final : Heap) (base stride index : Nat)
    (readSlot : Heap → Nat → Except Fault δ) (spec : β → δ) (items : List β) : Prop
    extends Framed heap final base stride index items.length where
  slots : ∀ k (inside : k < items.length),
    ReadsWithin (fun later => readSlot later (base + stride * (index + k))) (spec items[k]) final
      (Set.Ico (base + stride * index) (base + stride * (index + items.length)) ∪
        Set.Ico heap.next final.next)

/-- The slot addresses of one step of the loop, with the products as atoms omega relates. -/
theorem slot_expand (stride index count : Nat) :
    stride * (index + (count + 1)) = stride * index + stride + stride * count ∧
      stride * (index + 1 + count) = stride * index + stride + stride * count ∧
      stride * (index + 1) = stride * index + stride :=
  ⟨by ring, by ring, by ring⟩

/-- The frame rule of `fillSlots`, by induction on the items: the first conversion works above
the old free address and its store stays in the first slot. -/
theorem fillSlots_framed (frame : SlotFrame convert put stride) :
    ∀ {items : List β} {heap : Heap} {index : Nat},
      base + stride * (index + items.length) ≤ heap.next →
      Framed heap (fillSlots convert put base stride heap index items) base stride index items.length
  | [], heap, _, _ => ⟨le_rfl, Agree.refl heap _, Agree.refl heap _⟩
  | item :: rest, heap, index, below => by
      obtain ⟨expand_all, expand_rest, expand_next⟩ := slot_expand stride index rest.length
      simp only [List.length_cons] at below ⊢
      have grown : Extends heap (convert item heap).1 := frame.fresh item heap
      have stored_next :=
        frame.put_next (convert item heap).1 (base + stride * index) (convert item heap).2
      have below_rest : base + stride * (index + 1 + rest.length) ≤
          (put (convert item heap).1 (base + stride * index) (convert item heap).2).next := by
        have := grown.grows
        omega
      have later := fillSlots_framed frame below_rest
      have keeps_slot :=
        frame.put_agree (convert item heap).1 (base + stride * index) (convert item heap).2
      simp only [fillSlots]
      refine ⟨?grows, ?below, ?above⟩
      case grows => exact grown.grows.trans (stored_next ▸ later.grows)
      case below =>
        refine (grown.keeps.mono ?_).trans ((keeps_slot.mono ?_).trans (later.keeps_below.mono ?_))
        · exact Set.Iio_subset_Iio (by omega)
        · intro other member
          simp only [Set.mem_Iio] at member
          simp only [Set.mem_compl_iff, Set.mem_Ico]
          omega
        · exact Set.Iio_subset_Iio (by omega)
      case above =>
        refine (grown.keeps.mono ?_).trans ((keeps_slot.mono ?_).trans (later.keeps_above.mono ?_))
        · intro other member
          exact Set.mem_Iio.mpr (Set.mem_Ico.mp member).2
        · intro other member
          simp only [Set.mem_Ico] at member
          simp only [Set.mem_compl_iff, Set.mem_Ico]
          omega
        · exact Set.Ico_subset_Ico (by omega) (by rw [stored_next]; exact grown.grows)

/-- The loop rule of `fillSlots`: each slot reads back through its conversion and store. -/
theorem fillSlots_filled (nonnull : base ≠ 0) :
    ∀ {items : List β} {heap : Heap} {index : Nat},
      SlotRules convert put stride readSlot spec items →
      base + stride * (index + items.length) ≤ heap.next →
      Filled heap (fillSlots convert put base stride heap index items) base stride index readSlot spec
        items
  | [], heap, _, _, _ =>
      ⟨⟨le_rfl, Agree.refl heap _, Agree.refl heap _⟩, fun _ inside => absurd inside (by simp)⟩
  | item :: rest, heap, index, rules, below => by
      obtain ⟨expand_all, expand_rest, expand_next⟩ := slot_expand stride index rest.length
      have framed := fillSlots_framed rules.toSlotFrame below
      simp only [List.length_cons] at below
      have grown : Extends heap (convert item heap).1 := rules.fresh item heap
      have stored_next :=
        rules.put_next (convert item heap).1 (base + stride * index) (convert item heap).2
      have first := rules.reads item List.mem_cons_self heap (base + stride * index) (by omega)
        (by omega)
      have below_rest : base + stride * (index + 1 + rest.length) ≤
          (put (convert item heap).1 (base + stride * index) (convert item heap).2).next := by
        have := grown.grows
        omega
      have later := fillSlots_filled nonnull rules.tail below_rest
      refine ⟨framed, ?_⟩
      simp only [fillSlots, List.length_cons]
      intro k inside
      cases k with
      | zero =>
          have kept : Agree (put (convert item heap).1 (base + stride * index) (convert item heap).2)
              (fillSlots convert put base stride
                (put (convert item heap).1 (base + stride * index) (convert item heap).2) (index + 1) rest)
              (Set.Ico (base + stride * index) (base + stride * index + stride) ∪
                Set.Ico heap.next (convert item heap).1.next) := by
            apply Agree.union
            · exact later.keeps_below.mono (fun other member =>
                Set.mem_Iio.mpr (by simp only [Set.mem_Ico] at member; omega))
            · apply later.keeps_above.mono
              rw [stored_next]
              exact Set.Ico_subset_Ico (by omega) le_rfl
          refine ((first.transfer kept (stored_next ▸ later.grows)).widen ?_)
          apply Set.union_subset_union
          · exact Set.Ico_subset_Ico le_rfl (by omega)
          · exact Set.Ico_subset_Ico le_rfl (by rw [← stored_next]; exact later.grows)
      | succ j =>
          have reads := later.slots j (by omega)
          rw [show index + 1 + j = index + (j + 1) by omega] at reads
          simp only [List.getElem_cons_succ]
          refine reads.widen (Set.union_subset_union ?_ ?_)
          · exact Set.Ico_subset_Ico (by omega) (by omega)
          · exact Set.Ico_subset_Ico (by rw [stored_next]; exact grown.grows) le_rfl

end Fill

end CMemory
