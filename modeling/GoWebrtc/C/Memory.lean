import Mathlib

/-!
A C heap of typed stores with the LP64 widths, and the frame rules of its operations.
-/

namespace CMemory

/-- What a store left at an address: a value, or a later byte of a wider value. -/
inductive Cell where
  | byte (value : UInt8)
  | int (value : Int32)
  | pointer (address : Nat)
  | continued
  deriving DecidableEq, Repr

/-- How many bytes a stored value covers. -/
def Cell.width : Cell → Nat
  | .byte _ => 1
  | .int _ => 4
  | .pointer _ => 8
  | .continued => 1

theorem Cell.width_pos (cell : Cell) : 0 < cell.width := by
  cases cell <;> simp [Cell.width]

def Cell.asByte : Cell → Option UInt8
  | .byte value => some value
  | _ => none

def Cell.asInt : Cell → Option Int32
  | .int value => some value
  | _ => none

def Cell.asPointer : Cell → Option Nat
  | .pointer address => some address
  | _ => none

/-- Undefined behaviour: from here on the run has no meaning. -/
inductive Fault where
  | nullDereference
  | badLoad (address : Nat)
  | badRange (count : Int)
  | invalidFree (address : Nat)
  deriving DecidableEq, Repr

@[simp] theorem ok_bind {ε α β : Type} (value : α) (next : α → Except ε β) :
    (Except.ok value >>= next) = next value := rfl

@[simp] theorem pure_eq_ok {ε α : Type} (value : α) : (pure value : Except ε α) = .ok value := rfl

@[simp] theorem error_bind {ε α β : Type} (fault : ε) (next : α → Except ε β) :
    (Except.error fault >>= next) = .error fault := rfl

@[simp] theorem throw_eq_error {ε α : Type} (fault : ε) : (throw fault : Except ε α) = .error fault := rfl

/-- Peels one bind off a computation that succeeded. -/
theorem bind_eq_ok {ε α β : Type} {first : Except ε α} {next : α → Except ε β} {result : β}
    (ok : first >>= next = .ok result) : ∃ value, first = .ok value ∧ next value = .ok result := by
  cases first with
  | error fault => cases ok
  | ok value => exact ⟨value, rfl, ok⟩

/-- The stored cells, the size of each live block by its start, and the next free address,
which is never `NULL`. -/
structure Heap where
  cells : Nat → Option Cell
  sizes : Nat → Option Nat
  next : Nat
  next_pos : 0 < next

namespace Heap

/-- The heap before any allocation. -/
def empty : Heap := ⟨fun _ => none, fun _ => none, 1, Nat.one_pos⟩

/-- `malloc(size)`: a fresh block at the next free address; what its bytes hold is indeterminate. -/
def malloc (heap : Heap) (size : Nat) : Heap × Nat :=
  ({ heap with
      sizes := Function.update heap.sizes heap.next (some size)
      next := heap.next + max size 1
      next_pos := by omega }, heap.next)

/-- A store of `cell` at `address`: the address holds the value, the rest of its width is claimed. -/
def store (heap : Heap) (address : Nat) (cell : Cell) : Heap :=
  { heap with
    cells := fun other =>
      if other = address then some cell
      else if address < other ∧ other < address + cell.width then some .continued
      else heap.cells other }

/-- The value stored at `address`, while every byte it covers still belongs to it. -/
def load (heap : Heap) (address : Nat) : Option Cell :=
  match heap.cells address with
  | some cell =>
      if (List.range' (address + 1) (cell.width - 1)).all
          (fun other => decide (heap.cells other = some .continued)) then some cell
      else none
  | none => none

/-- A load through a pointer to a type whose values `select` picks out. -/
def loadWith {α : Type} (heap : Heap) (select : Cell → Option α) (address : Nat) :
    Except Fault α :=
  if address = 0 then .error .nullDereference
  else
    match heap.load address >>= select with
    | some value => .ok value
    | none => .error (.badLoad address)

def loadByte (heap : Heap) (address : Nat) : Except Fault UInt8 := heap.loadWith Cell.asByte address

def loadInt (heap : Heap) (address : Nat) : Except Fault Int32 := heap.loadWith Cell.asInt address

def loadPointer (heap : Heap) (address : Nat) : Except Fault Nat :=
  heap.loadWith Cell.asPointer address

/-- The bytes from `address` up to the first zero byte, reading at most `fuel` bytes. -/
def scan (heap : Heap) : Nat → Nat → Except Fault (List UInt8)
  | 0, address => .error (.badLoad address)
  | fuel + 1, address => do
      let value ← heap.loadByte address
      if value = 0 then pure []
      else do
        let rest ← heap.scan fuel (address + 1)
        pure (value :: rest)

/-- `std::string(const char *)`: the bytes up to the terminating zero, which must lie in the
allocated memory. -/
def readCString (heap : Heap) (address : Nat) : Except Fault (List UInt8) :=
  heap.scan (heap.next - address) address

/-- Consecutive byte stores from `address`. -/
def storeBytes (heap : Heap) (address : Nat) : List UInt8 → Heap
  | [] => heap
  | value :: rest => (heap.store address (.byte value)).storeBytes (address + 1) rest

/-- cgo's `C.CString`: a fresh block holding the bytes and a terminating zero. -/
def cString (heap : Heap) (bytes : List UInt8) : Heap × Nat :=
  let (heap, block) := heap.malloc (bytes.length + 1)
  (heap.storeBytes block (bytes ++ [0]), block)

/-- `strdup(s.c_str())` of a `std::string` holding `bytes`: a fresh C string of the bytes
before the first zero. -/
def strdup (heap : Heap) (bytes : List UInt8) : Heap × Nat := heap.cString (bytes.takeWhile (· != 0))

/-- `free(block)`: `NULL` is ignored, a live block's bytes are released, anything else is a fault. -/
def free (heap : Heap) (block : Nat) : Except Fault Heap :=
  if block = 0 then .ok heap
  else
    match heap.sizes block with
    | some size =>
        .ok { heap with
          cells := fun other => if block ≤ other ∧ other < block + size then none else heap.cells other
          sizes := Function.update heap.sizes block none }
    | none => .error (.invalidFree block)

end Heap

/-- `std::vector<T>(first, first + count)`: the `count` values `stride` bytes apart. A negative
count makes the range's length overflow. -/
def loadRange {α : Type} (load : Nat → Except Fault α) (first stride : Nat) (count : Int32) :
    Except Fault (List α) :=
  if count.toInt < 0 then .error (.badRange count.toInt)
  else (List.range count.toInt.toNat).mapM fun index => load (first + stride * index)

/-- `after` holds the cells of `before` at every address of `region`. -/
def Agree (before after : Heap) (region : Set Nat) : Prop :=
  ∀ address ∈ region, after.cells address = before.cells address

namespace Agree

variable {first second third : Heap} {region : Set Nat}

theorem refl (heap : Heap) (region : Set Nat) : Agree heap heap region := fun _ _ => rfl

theorem trans (earlier : Agree first second region) (later : Agree second third region) :
    Agree first third region := fun address member =>
  (later address member).trans (earlier address member)

theorem mono (agree : Agree first second region) {smaller : Set Nat} (sub : smaller ⊆ region) :
    Agree first second smaller := fun address member => agree address (sub member)

theorem union {other : Set Nat} (left : Agree first second region) (right : Agree first second other) :
    Agree first second (region ∪ other) := by
  rintro address (member | member)
  · exact left address member
  · exact right address member

end Agree

namespace Heap

variable {heap before after : Heap}

@[simp] theorem malloc_cells (size : Nat) : (heap.malloc size).1.cells = heap.cells := rfl

@[simp] theorem malloc_next (size : Nat) : (heap.malloc size).1.next = heap.next + max size 1 := rfl

@[simp] theorem malloc_block (size : Nat) : (heap.malloc size).2 = heap.next := rfl

@[simp] theorem malloc_sizes (size : Nat) :
    (heap.malloc size).1.sizes = Function.update heap.sizes heap.next (some size) := rfl

@[simp] theorem store_next (address : Nat) (cell : Cell) : (heap.store address cell).next = heap.next :=
  rfl

@[simp] theorem storeBytes_next (address : Nat) (bytes : List UInt8) :
    (heap.storeBytes address bytes).next = heap.next := by
  induction bytes generalizing heap address with
  | nil => rfl
  | cons value rest ih => simp [storeBytes, ih]

@[simp] theorem store_sizes (address : Nat) (cell : Cell) : (heap.store address cell).sizes = heap.sizes :=
  rfl

@[simp] theorem storeBytes_sizes (address : Nat) (bytes : List UInt8) :
    (heap.storeBytes address bytes).sizes = heap.sizes := by
  induction bytes generalizing heap address with
  | nil => rfl
  | cons value rest ih => simp [storeBytes, ih]

@[simp] theorem cString_block (bytes : List UInt8) : (heap.cString bytes).2 = heap.next := rfl

@[simp] theorem cString_next (bytes : List UInt8) :
    (heap.cString bytes).1.next = heap.next + (bytes.length + 1) := by
  simp [cString]

@[simp] theorem cString_sizes (bytes : List UInt8) :
    (heap.cString bytes).1.sizes = Function.update heap.sizes heap.next (some (bytes.length + 1)) := by
  simp [cString, malloc]

/-- A live block other than `NULL` can be freed. -/
theorem free_of_live {block size : Nat} (nonnull : block ≠ 0) (live : heap.sizes block = some size) :
    ∃ freed, heap.free block = .ok freed := by
  unfold free
  rw [if_neg nonnull, live]
  exact ⟨_, rfl⟩

/-- The block `C.CString` just made is live, so freeing it succeeds. -/
theorem free_cString (bytes : List UInt8) :
    ∃ freed, (heap.cString bytes).1.free (heap.cString bytes).2 = .ok freed := by
  have nonnull : (heap.cString bytes).2 ≠ 0 := by
    rw [cString_block]
    exact Nat.pos_iff_ne_zero.mp heap.next_pos
  exact free_of_live nonnull (show _ = some (bytes.length + 1) by simp)

theorem free_next {block : Nat} {freed : Heap} (ok : heap.free block = .ok freed) : freed.next = heap.next := by
  unfold free at ok
  split at ok
  · cases ok
    rfl
  · split at ok
    · cases ok
      rfl
    · cases ok

/-- `free` forgets the size of the block it releases and of no other. -/
theorem free_sizes {block : Nat} {freed : Heap} (nonnull : block ≠ 0) (ok : heap.free block = .ok freed) :
    freed.sizes = Function.update heap.sizes block none := by
  unfold free at ok
  rw [if_neg nonnull] at ok
  split at ok
  · cases ok
    rfl
  · cases ok

/-- A freed block keeps none of its bytes: reading it as a C string is a bad load at its first
byte. -/
theorem readCString_freed {block size : Nat} {freed : Heap} (nonnull : block ≠ 0)
    (live : heap.sizes block = some size) (positive : 0 < size) (below : block < heap.next)
    (ok : heap.free block = .ok freed) : freed.readCString block = .error (.badLoad block) := by
  have released : freed.cells block = none := by
    unfold free at ok
    rw [if_neg nonnull, live] at ok
    cases ok
    simp [positive]
  have fuel : freed.next - block = freed.next - block - 1 + 1 := by
    rw [free_next ok]
    omega
  rw [readCString, fuel]
  simp [scan, loadByte, loadWith, nonnull, load, released]

/-- `free` keeps every cell outside the block it releases. -/
theorem agree_free {block size : Nat} {freed : Heap} (ok : heap.free block = .ok freed)
    (live : heap.sizes block = some size) {region : Set Nat}
    (apart : ∀ other ∈ region, other < block ∨ block + size ≤ other) : Agree heap freed region := by
  unfold free at ok
  split at ok
  · cases ok
    exact Agree.refl heap region
  · rw [live] at ok
    cases ok
    intro other member
    have outside := apart other member
    show (if block ≤ other ∧ other < block + size then none else heap.cells other) = heap.cells other
    rw [if_neg (by omega)]

/-- No block is recorded at or past the next free address, as in every heap the operations
build from `empty`. -/
def Fresh (heap : Heap) : Prop := ∀ address, heap.next ≤ address → heap.sizes address = none

theorem fresh_empty : empty.Fresh := fun _ _ => rfl

theorem Fresh.cString (fresh : heap.Fresh) (bytes : List UInt8) : (heap.cString bytes).1.Fresh := by
  intro address past
  rw [cString_next] at past
  rw [cString_sizes, Function.update_of_ne (by omega)]
  exact fresh address (by omega)

theorem Fresh.free (fresh : heap.Fresh) {block : Nat} {freed : Heap} (ok : heap.free block = .ok freed) :
    freed.Fresh := by
  intro address past
  rw [free_next ok] at past
  by_cases null : block = 0
  · subst null
    rw [CMemory.Heap.free, if_pos rfl] at ok
    cases ok
    exact fresh address past
  · rw [free_sizes null ok]
    by_cases same : address = block
    · subst same
      exact Function.update_self _ _ _
    · rw [Function.update_of_ne same]
      exact fresh address past

/-- Freeing a `C.CString` block gives back the live blocks from before the `C.CString`. -/
theorem free_cString_restores (fresh : heap.Fresh) (bytes : List UInt8) {before : Heap}
    (same : before.sizes = (heap.cString bytes).1.sizes) :
    ∃ freed, before.free (heap.cString bytes).2 = .ok freed ∧ freed.sizes = heap.sizes := by
  have nonnull : heap.next ≠ 0 := Nat.pos_iff_ne_zero.mp heap.next_pos
  have live : before.sizes heap.next = some (bytes.length + 1) := by simp [same]
  obtain ⟨freed, ok⟩ := free_of_live nonnull live
  refine ⟨freed, ok, ?_⟩
  rw [free_sizes nonnull ok, same, cString_sizes, Function.update_idem]
  exact Function.update_eq_self_iff.mpr (fresh heap.next le_rfl).symm

/-- A store leaves every address outside the bytes it covers. -/
theorem agree_store {address : Nat} {cell : Cell} {region : Set Nat}
    (apart : ∀ other ∈ region, other < address ∨ address + cell.width ≤ other) :
    Agree heap (heap.store address cell) region := by
  intro other member
  have outside : other ≠ address ∧ ¬ (address < other ∧ other < address + cell.width) := by
    have wide := Cell.width_pos cell
    have side := apart other member
    omega
  simp [store, outside.1, outside.2]

theorem agree_storeBytes {address : Nat} {bytes : List UInt8} {region : Set Nat}
    (apart : ∀ other ∈ region, other < address ∨ address + bytes.length ≤ other) :
    Agree heap (heap.storeBytes address bytes) region := by
  induction bytes generalizing heap address with
  | nil => exact Agree.refl heap region
  | cons value rest ih =>
      have first : Agree heap (heap.store address (.byte value)) region := by
        apply agree_store
        intro other member
        have side := apart other member
        simp only [List.length_cons, Cell.width] at side ⊢
        omega
      have later : Agree (heap.store address (.byte value))
          ((heap.store address (.byte value)).storeBytes (address + 1) rest) region :=
        ih fun other member => by
          have side := apart other member
          simp only [List.length_cons] at side
          omega
      exact first.trans later

/-- A load returns what the last store at its address put there. -/
theorem load_store_self (address : Nat) (cell : Cell) :
    (heap.store address cell).load address = some cell := by
  have stored : (heap.store address cell).cells address = some cell := by simp [store]
  have tails : (List.range' (address + 1) (cell.width - 1)).all
      (fun other => decide ((heap.store address cell).cells other = some .continued)) = true := by
    rw [List.all_eq_true]
    intro other member
    rw [List.mem_range'_1] at member
    have claimed : other ≠ address ∧ (address < other ∧ other < address + cell.width) := by omega
    simp [store, claimed.1, claimed.2]
  unfold load
  rw [stored]
  exact if_pos tails

/-- Whether the bytes after `address` are still claimed depends only on those bytes. -/
theorem tails_congr {address count : Nat}
    (agree : Agree before after (Set.Ico (address + 1) (address + 1 + count))) :
    (List.range' (address + 1) count).all (fun other => decide (after.cells other = some .continued)) =
      (List.range' (address + 1) count).all
        (fun other => decide (before.cells other = some .continued)) := by
  rw [Bool.eq_iff_iff, List.all_eq_true, List.all_eq_true]
  apply forall_congr'
  intro other
  apply imp_congr_right
  intro member
  rw [List.mem_range'_1] at member
  rw [agree other (Set.mem_Ico.mpr member)]

/-- A typed load reads only the bytes of the widest value it accepts. -/
theorem loadWith_congr {α : Type} {select : Cell → Option α} {address width : Nat}
    (positive : 0 < width) (fits : ∀ cell value, select cell = some value → cell.width ≤ width)
    (agree : Agree before after (Set.Ico address (address + width))) :
    after.loadWith select address = before.loadWith select address := by
  have head : after.cells address = before.cells address :=
    agree address (Set.mem_Ico.mpr ⟨le_rfl, by omega⟩)
  unfold loadWith load
  rw [head]
  split
  · rfl
  · cases stored : before.cells address with
    | none => rfl
    | some cell =>
        cases picked : select cell with
        | none =>
            dsimp only
            split_ifs <;> simp [picked]
        | some value =>
            have narrow := fits cell value picked
            dsimp only
            rw [tails_congr (agree.mono (Set.Ico_subset_Ico (by omega) (by omega)))]

theorem loadByte_congr {address : Nat} (agree : Agree before after (Set.Ico address (address + 1))) :
    after.loadByte address = before.loadByte address := by
  apply loadWith_congr Nat.one_pos _ agree
  intro cell value picked
  cases cell <;> simp_all [Cell.asByte, Cell.width]

theorem loadInt_congr {address : Nat} (agree : Agree before after (Set.Ico address (address + 4))) :
    after.loadInt address = before.loadInt address := by
  apply loadWith_congr (by decide) _ agree
  intro cell value picked
  cases cell <;> simp_all [Cell.asInt, Cell.width]

theorem loadPointer_congr {address : Nat} (agree : Agree before after (Set.Ico address (address + 8))) :
    after.loadPointer address = before.loadPointer address := by
  apply loadWith_congr (by decide) _ agree
  intro cell value picked
  cases cell <;> simp_all [Cell.asPointer, Cell.width]

theorem loadWith_store_self {α : Type} {select : Cell → Option α} {address : Nat}
    (nonnull : address ≠ 0) (cell : Cell) {value : α} (picked : select cell = some value) :
    (heap.store address cell).loadWith select address = .ok value := by
  simp [loadWith, nonnull, load_store_self, picked]

@[simp] theorem loadByte_store_self {address : Nat} (nonnull : address ≠ 0) (value : UInt8) :
    (heap.store address (.byte value)).loadByte address = .ok value :=
  loadWith_store_self nonnull _ rfl

@[simp] theorem loadInt_store_self {address : Nat} (nonnull : address ≠ 0) (value : Int32) :
    (heap.store address (.int value)).loadInt address = .ok value :=
  loadWith_store_self nonnull _ rfl

@[simp] theorem loadPointer_store_self {address : Nat} (nonnull : address ≠ 0) (value : Nat) :
    (heap.store address (.pointer value)).loadPointer address = .ok value :=
  loadWith_store_self nonnull _ rfl

theorem loadInt_store_of_apart {address other : Nat} {cell : Cell}
    (apart : other + 4 ≤ address ∨ address + cell.width ≤ other) :
    (heap.store address cell).loadInt other = heap.loadInt other :=
  loadInt_congr (agree_store fun spot member => by
    have within := Set.mem_Ico.mp member
    omega)

theorem loadPointer_store_of_apart {address other : Nat} {cell : Cell}
    (apart : other + 8 ≤ address ∨ address + cell.width ≤ other) :
    (heap.store address cell).loadPointer other = heap.loadPointer other :=
  loadPointer_congr (agree_store fun spot member => by
    have within := Set.mem_Ico.mp member
    omega)

/-- The stores after the first byte of a run of byte stores leave it alone. -/
theorem loadByte_storeBytes_cons {address : Nat} (nonnull : address ≠ 0) (value : UInt8)
    (rest : List UInt8) :
    (heap.storeBytes address (value :: rest)).loadByte address = .ok value := by
  have untouched : Agree (heap.store address (.byte value))
      ((heap.store address (.byte value)).storeBytes (address + 1) rest) (Set.Ico address (address + 1)) :=
    agree_storeBytes fun other member => Or.inl (Set.mem_Ico.mp member).2
  rw [storeBytes, loadByte_congr untouched]
  exact loadByte_store_self nonnull value

/-- Stored bytes scan back up to their first zero. -/
theorem scan_storeBytes {bytes : List UInt8} (noZero : 0 ∉ bytes) (rest : List UInt8)
    {address fuel : Nat} (nonnull : address ≠ 0) (enough : bytes.length < fuel) :
    (heap.storeBytes address (bytes ++ 0 :: rest)).scan fuel address = .ok bytes := by
  induction bytes generalizing heap address fuel with
  | nil =>
      obtain ⟨budget, rfl⟩ : ∃ budget, fuel = budget + 1 := ⟨fuel - 1, by simp at enough; omega⟩
      have terminator : (heap.storeBytes address (0 :: rest)).loadByte address = .ok 0 :=
        loadByte_storeBytes_cons nonnull 0 rest
      rw [List.nil_append, scan, terminator]
      rfl
  | cons value more ih =>
      obtain ⟨budget, rfl⟩ : ∃ budget, fuel = budget + 1 := ⟨fuel - 1, by omega⟩
      have nonzero : value ≠ 0 := fun zero => noZero (zero ▸ List.mem_cons_self)
      have later : 0 ∉ more := fun member => noZero (List.mem_cons_of_mem value member)
      have first : (heap.storeBytes address (value :: (more ++ 0 :: rest))).loadByte address =
          .ok value := loadByte_storeBytes_cons nonnull value (more ++ 0 :: rest)
      have tail : ((heap.store address (.byte value)).storeBytes (address + 1) (more ++ 0 :: rest)).scan
          budget (address + 1) = .ok more :=
        ih later (by omega) (by simp only [List.length_cons] at enough; omega)
      rw [List.cons_append, scan, first]
      simp only [storeBytes] at tail ⊢
      simp [nonzero, tail]

/-- What a successful scan read: a zero that ends it, or a byte and a successful scan after it. -/
theorem scan_succ_eq_ok {fuel address : Nat} {bytes : List UInt8}
    (read : heap.scan (fuel + 1) address = .ok bytes) :
    ∃ value, heap.loadByte address = .ok value ∧
      (value = 0 ∧ bytes = [] ∨
        value ≠ 0 ∧ ∃ rest, heap.scan fuel (address + 1) = .ok rest ∧ bytes = value :: rest) := by
  cases loaded : heap.loadByte address with
  | error fault => simp [scan, loaded] at read
  | ok value =>
      refine ⟨value, rfl, ?_⟩
      by_cases zero : value = 0
      · simp [scan, loaded, zero] at read
        exact .inl ⟨zero, read⟩
      · cases later : heap.scan fuel (address + 1) with
        | error fault => simp [scan, loaded, zero, later] at read
        | ok rest =>
            simp [scan, loaded, zero, later] at read
            exact .inr ⟨zero, rest, rfl, read.symm⟩

/-- A scan only ends at a zero it read within its budget. -/
theorem scan_length {fuel address : Nat} {bytes : List UInt8}
    (read : heap.scan fuel address = .ok bytes) : bytes.length < fuel := by
  induction fuel generalizing address bytes with
  | zero => simp [scan] at read
  | succ fuel ih =>
      obtain ⟨value, _, ⟨_, rfl⟩ | ⟨_, rest, later, rfl⟩⟩ := scan_succ_eq_ok read
      · simp
      · have shorter := ih later
        simp only [List.length_cons]
        omega

/-- A scan that found its terminating zero finds it with any budget that reaches it. -/
theorem scan_fuel {fuel address : Nat} {bytes : List UInt8}
    (read : heap.scan fuel address = .ok bytes) {budget : Nat} (enough : bytes.length < budget) :
    heap.scan budget address = .ok bytes := by
  induction fuel generalizing address bytes budget with
  | zero => simp [scan] at read
  | succ fuel ih =>
      obtain ⟨smaller, rfl⟩ : ∃ smaller, budget = smaller + 1 := ⟨budget - 1, by omega⟩
      obtain ⟨value, loaded, ⟨zero, rfl⟩ | ⟨nonzero, rest, later, rfl⟩⟩ := scan_succ_eq_ok read
      · simp [scan, loaded, zero]
      · have shifted : heap.scan smaller (address + 1) = .ok rest :=
          ih later (by simp only [List.length_cons] at enough; omega)
        simp [scan, loaded, nonzero, shifted]

/-- A scan reads only the bytes within its budget. -/
theorem scan_congr {fuel address : Nat}
    (agree : Agree before after (Set.Ico address (address + fuel))) :
    after.scan fuel address = before.scan fuel address := by
  induction fuel generalizing address with
  | zero => rfl
  | succ fuel ih =>
      have head := loadByte_congr (agree.mono (Set.Ico_subset_Ico le_rfl (by omega)))
      have tail : after.scan fuel (address + 1) = before.scan fuel (address + 1) :=
        ih (agree.mono (Set.Ico_subset_Ico (by omega) (by omega)))
      simp only [scan, head, tail]

/-- A C string read once reads the same after work that left its bytes and terminator alone. -/
theorem readCString_of_agree {address : Nat} {bytes : List UInt8}
    (read : before.readCString address = .ok bytes)
    (agree : Agree before after (Set.Ico address (address + bytes.length + 1)))
    (grows : before.next ≤ after.next) : after.readCString address = .ok bytes := by
  have within := scan_length read
  have exact : before.scan (bytes.length + 1) address = .ok bytes := scan_fuel read (by omega)
  have moved : after.scan (bytes.length + 1) address = .ok bytes := by
    rw [scan_congr (agree.mono (Set.Ico_subset_Ico le_rfl (by omega))), exact]
  exact scan_fuel moved (by omega)

/-- `C.CString` of bytes without a zero reads back as those bytes. -/
theorem readCString_cString {bytes : List UInt8} (noZero : 0 ∉ bytes) :
    (heap.cString bytes).1.readCString (heap.cString bytes).2 = .ok bytes := by
  simp only [cString, readCString, storeBytes_next, malloc_next, malloc_block]
  apply scan_storeBytes noZero [] (Nat.pos_iff_ne_zero.mp heap.next_pos)
  omega

/-- A zero byte ends the C string: `C.CString` reads back as the bytes before the first one. -/
theorem readCString_cString_truncates {bytes rest : List UInt8} (noZero : 0 ∉ bytes) :
    (heap.cString (bytes ++ 0 :: rest)).1.readCString (heap.cString (bytes ++ 0 :: rest)).2 =
      .ok bytes := by
  simp only [cString, readCString, storeBytes_next, malloc_next, malloc_block, List.append_assoc,
    List.cons_append]
  apply scan_storeBytes noZero (rest ++ [0]) (Nat.pos_iff_ne_zero.mp heap.next_pos)
  simp only [List.length_append, List.length_cons]
  omega

/-- What `strdup` copies stops before the first zero. -/
theorem zero_not_mem_takeWhile (bytes : List UInt8) : 0 ∉ bytes.takeWhile (· != 0) := by
  intro member
  simpa using List.mem_takeWhile_imp member

/-- Bytes without a zero are all before the first one. -/
theorem takeWhile_eq_self_of_noZero {bytes : List UInt8} (noZero : 0 ∉ bytes) :
    bytes.takeWhile (· != 0) = bytes := by
  rw [List.takeWhile_eq_self_iff]
  intro byte member
  have nonzero : byte ≠ 0 := fun zero => noZero (zero ▸ member)
  simpa using nonzero

/-- Whatever the bytes, `C.CString` reads back as those before the first zero. -/
theorem readCString_cString_takeWhile (bytes : List UInt8) :
    (heap.cString bytes).1.readCString (heap.cString bytes).2 = .ok (bytes.takeWhile (· != 0)) := by
  have split : bytes.takeWhile (· != 0) ++ bytes.dropWhile (· != 0) = bytes := List.takeWhile_append_dropWhile
  cases rest : bytes.dropWhile (· != 0) with
  | nil =>
      rw [rest, List.append_nil] at split
      conv => lhs; rw [← split]
      exact readCString_cString (zero_not_mem_takeWhile bytes)
  | cons first tail =>
      have zero : first = 0 := by
        have nonempty : bytes.dropWhile (· != 0) ≠ [] := by simp [rest]
        have stop : ((bytes.dropWhile (· != 0)).head nonempty != 0) = false :=
          List.head_dropWhile_not _ nonempty
        simp only [rest, List.head_cons] at stop
        simpa using stop
      rw [rest, zero] at split
      conv => lhs; rw [← split]
      exact readCString_cString_truncates (zero_not_mem_takeWhile bytes)

/-- `strdup` reads back as the bytes before the first zero. -/
theorem readCString_strdup (bytes : List UInt8) :
    (heap.strdup bytes).1.readCString (heap.strdup bytes).2 = .ok (bytes.takeWhile (· != 0)) :=
  readCString_cString (zero_not_mem_takeWhile bytes)

end Heap

end CMemory
