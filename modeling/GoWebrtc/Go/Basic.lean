import Mathlib

/-!
Values of the Go runtime at the Go/C boundary.
-/

namespace GoRuntime

/-- The runtime panics the modelled functions can raise. -/
inductive Panic where
  | message (text : String)
  | typeAssertion
  | indexOutOfRange (index length : Nat)
  | lengthOutOfRange (length : Int)
  deriving DecidableEq, Repr

/-- A Go map: each key holds at most one value. -/
structure GoMap (Key Value : Type) where
  entries : Key → Option Value

namespace GoMap

variable {Key Value : Type}

def empty : GoMap Key Value := ⟨fun _ => none⟩

/-- The comma-ok read `value, ok := m[key]`, with `none` for a missing key. -/
def lookup (map : GoMap Key Value) (key : Key) : Option Value := map.entries key

/-- The assignment `m[key] = value`. -/
def insert [DecidableEq Key] (map : GoMap Key Value) (key : Key) (value : Value) :
    GoMap Key Value :=
  ⟨Function.update map.entries key (some value)⟩

/-- The builtin `delete(m, key)`. -/
def erase [DecidableEq Key] (map : GoMap Key Value) (key : Key) : GoMap Key Value :=
  ⟨Function.update map.entries key none⟩

@[simp] theorem lookup_empty (key : Key) : (empty : GoMap Key Value).lookup key = none := rfl

@[simp] theorem lookup_insert_self [DecidableEq Key] (map : GoMap Key Value) (key : Key)
    (value : Value) : (map.insert key value).lookup key = some value := by
  simp [lookup, insert]

theorem lookup_insert_of_ne [DecidableEq Key] (map : GoMap Key Value) {key other : Key}
    (value : Value) (different : other ≠ key) :
    (map.insert key value).lookup other = map.lookup other := by
  simp [lookup, insert, Function.update_of_ne different]

theorem lookup_insert [DecidableEq Key] (map : GoMap Key Value) (key other : Key)
    (value : Value) :
    (map.insert key value).lookup other = if other = key then some value else map.lookup other := by
  by_cases same : other = key
  · subst same
    simp
  · simp [lookup_insert_of_ne map value same, same]

@[simp] theorem lookup_erase_self [DecidableEq Key] (map : GoMap Key Value) (key : Key) :
    (map.erase key).lookup key = none := by
  simp [lookup, erase]

theorem lookup_erase [DecidableEq Key] (map : GoMap Key Value) (key other : Key) :
    (map.erase key).lookup other = if other = key then none else map.lookup other := by
  by_cases same : other = key
  · subst same
    simp
  · simp [lookup, erase, same]

end GoMap

/-- A Go slice: the nil slice, or a slice value over its elements, possibly none. -/
inductive Slice (Element : Type) where
  | nil
  | view (elements : List Element)
  deriving DecidableEq, Repr

namespace Slice

variable {Element : Type}

def elements : Slice Element → List Element
  | nil => []
  | view elements => elements

/-- The builtin `len(s)`. -/
def len (slice : Slice Element) : Nat := slice.elements.length

/-- The index expression `s[i]`, which panics outside the slice. -/
def index (slice : Slice Element) (position : Nat) : Except Panic Element :=
  match slice.elements[position]? with
  | some element => .ok element
  | none => .error (.indexOutOfRange position slice.len)

@[simp] theorem elements_nil : (nil : Slice Element).elements = [] := rfl

@[simp] theorem elements_view (elements : List Element) : (view elements).elements = elements := rfl

theorem index_eq_ok {slice : Slice Element} {position : Nat}
    (inside : position < slice.elements.length) :
    slice.index position = .ok slice.elements[position] := by
  simp [index, List.getElem?_eq_getElem inside]

theorem index_eq_error {slice : Slice Element} {position : Nat} (outside : slice.len ≤ position) :
    slice.index position = .error (.indexOutOfRange position slice.len) := by
  have missing : slice.elements[position]? = none := List.getElem?_eq_none outside
  simp [index, missing]

end Slice

/-- Writing the element just appended to a slice is appending the written element. -/
theorem modify_append_length {α : Type} (l : List α) (x : α) (f : α → α) :
    (l ++ [x]).modify l.length f = l ++ [f x] := by
  induction l with
  | nil => rfl
  | cons head tail ih => simp [ih]

/-- The bytes of a Go string: its code points in UTF-8. -/
def utf8Bytes (text : List Char) : List UInt8 := text.flatMap String.utf8EncodeChar

@[simp] theorem utf8Bytes_nil : utf8Bytes [] = [] := rfl

@[simp] theorem utf8Bytes_cons (head : Char) (tail : List Char) :
    utf8Bytes (head :: tail) = String.utf8EncodeChar head ++ utf8Bytes tail := rfl

theorem utf8Bytes_append (first second : List Char) :
    utf8Bytes (first ++ second) = utf8Bytes first ++ utf8Bytes second := by
  simp [utf8Bytes]

theorem uint8_ofNat_eq_zero_iff (value : Nat) : UInt8.ofNat value = 0 ↔ value % 256 = 0 := by
  rw [← UInt8.toNat_inj, UInt8.toNat_ofNat]
  rfl

/-- Only the code point `U+0000` has a zero byte in its UTF-8 encoding: the bytes of longer
encodings all have their top bit set. -/
theorem zero_mem_utf8EncodeChar (rune : Char) :
    (0 : UInt8) ∈ String.utf8EncodeChar rune ↔ rune = '\x00' := by
  have code : rune = '\x00' ↔ rune.val.toNat = 0 := by
    constructor
    · rintro rfl
      rfl
    · intro zero
      apply Char.ext
      apply UInt32.toNat_inj.mp
      simpa using zero
  rw [code, String.utf8EncodeChar]
  split_ifs <;> simp only [List.mem_cons, List.not_mem_nil, or_false, @eq_comm UInt8 0,
    uint8_ofNat_eq_zero_iff] <;> omega

/-- A Go string has a zero byte exactly when it holds the NUL character. -/
theorem zero_mem_utf8Bytes (text : List Char) : (0 : UInt8) ∈ utf8Bytes text ↔ '\x00' ∈ text := by
  simp [utf8Bytes, zero_mem_utf8EncodeChar]

/-- The Go string that holds the bytes: their UTF-8 decoding. Bytes that are not UTF-8 make a Go
string that a list of code points cannot hold; those are read one code point per byte. -/
def decodeUtf8 (bytes : List UInt8) : List Char :=
  match bytes.toByteArray.utf8Decode? with
  | some runes => runes.toList
  | none => bytes.map fun byte => Char.ofNat byte.toNat

/-- The conversion `C.int(x)` of a Go `int`: it keeps the low 32 bits. -/
def cInt (value : Int64) : Int32 := value.toInt32

/-- A C `int` passed where Go expects an `int`: sign extension. -/
def goInt (value : Int32) : Int64 := value.toInt64

/-- A C `int` converted to `size_t`: sign extension, then the bits as unsigned. -/
def sizeT (value : Int32) : UInt64 := value.toInt64.toUInt64

/-- The conversion `uint(x)` of a C `int`: sign extension, then the bits as unsigned. -/
def goUint (value : Int32) : UInt64 := value.toInt64.toUInt64

/-- A `size_t` or `uint64_t` passed where Go expects an `int`: the bits as signed. -/
def goIntOfUnsigned (value : UInt64) : Int64 := value.toInt64

/-- A C `int` stored into a `uint16_t`: its value modulo `2 ^ 16`. -/
def uint16T (value : Int32) : UInt16 := value.toUInt32.toUInt16

/-- A `uint16_t` returned as a C `int`. -/
def cIntOfUint16 (value : UInt16) : Int32 := value.toUInt32.toInt32

/-- `C.GoBytes(p, n)`: the first `n` bytes at `p`; a negative length panics. -/
def goBytes (bytes : List UInt8) (n : Int32) : Except Panic (List UInt8) :=
  if n.toInt < 0 then .error (.lengthOutOfRange n.toInt) else .ok (bytes.take n.toInt.toNat)

theorem cInt_toInt (value : Int64) : (cInt value).toInt = value.toInt.bmod (2 ^ 32) :=
  Int64.toInt_toInt32 value

/-- A Go `int` in the range of C `int` crosses the boundary unchanged. -/
theorem goInt_cInt {value : Int64} (low : -2 ^ 31 ≤ value.toInt) (high : value.toInt < 2 ^ 31) :
    goInt (cInt value) = value := by
  apply Int64.toInt_inj.mp
  simp only [goInt, Int32.toInt_toInt64, cInt_toInt]
  exact Int.bmod_eq_of_le (by omega) (by omega)

/-- A length below `2 ^ 31` keeps its value through `C.int`. -/
theorem cInt_ofNat {count : Nat} (small : count < 2 ^ 31) :
    (cInt (Int64.ofNat count)).toInt = count := by
  rw [cInt_toInt, Int64.toInt_ofNat']
  have narrow : (count : Int).bmod Int64.size = count :=
    Int.bmod_eq_of_le (by simp [Int64.size]) (by simp [Int64.size]; omega)
  rw [narrow]
  exact Int.bmod_eq_of_le (by omega) (by omega)

/-- A length below `2 ^ 31` comes back from C as the Go `int` it was. -/
theorem goInt_cInt_ofNat {count : Nat} (small : count < 2 ^ 31) :
    (goInt (cInt (Int64.ofNat count))).toInt = count := by
  rw [goInt, Int32.toInt_toInt64, cInt_ofNat small]

/-- A C `int` that is not negative keeps its value as a `size_t`. -/
theorem sizeT_toNat {value : Int32} (nonnegative : 0 ≤ value.toInt) :
    (sizeT value).toNat = value.toInt.toNat := by
  unfold sizeT
  rw [Int64.toNat_toUInt64_of_le]
  · rw [Int32.toNatClampNeg_toInt64]
    rfl
  · rw [Int64.le_iff_toInt_le]
    simpa using nonnegative

@[simp] theorem goIntOfUnsigned_ofNat (count : Nat) :
    goIntOfUnsigned (UInt64.ofNat count) = Int64.ofNat count := rfl

/-- `C.GoBytes` of a length that is not negative copies that many bytes. -/
theorem goBytes_of_nonneg (bytes : List UInt8) {n : Int32} (nonnegative : 0 ≤ n.toInt) :
    goBytes bytes n = .ok (bytes.take n.toInt.toNat) := by
  rw [goBytes, if_neg (by omega)]

end GoRuntime
