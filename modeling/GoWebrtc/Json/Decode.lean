import GoWebrtc.Json.Encode
import GoWebrtc.Float.Binary
import GoWebrtc.Go.Basic

/-!
What `json.Unmarshal` stores when it decodes into `map[string]interface{}`.
-/

namespace Json

open BinaryFloat GoRuntime

/-- A value `Unmarshal` stores in an `interface{}`: nil, `bool`, `float64`, `string`,
`[]interface{}`, or `map[string]interface{}` with its members in order. -/
inductive GoValue where
  | nil
  | bool (value : Bool)
  | float64 (value : Binary)
  | string (value : List Char)
  | slice (items : List GoValue)
  | map (members : List (List Char × GoValue))

/-- The errors `Unmarshal` returns: a `SyntaxError`, or an `UnmarshalTypeError` with the text
of its `Value` field. -/
inductive UnmarshalError where
  | syntaxError (error : SyntaxError)
  | unmarshalType (value : List Char)

/-- The sign of a number literal and the text after it. -/
def splitSign : List Char → Bool × List Char
  | '-' :: rest => (true, rest)
  | rest => (false, rest)

/-- The digits of the fraction, when a `.` begins the text, and the text after them. -/
def splitFraction : List Char → List Char × List Char
  | '.' :: rest => (rest.takeWhile Char.isDigit, rest.dropWhile Char.isDigit)
  | rest => ([], rest)

/-- The exponent the text after the fraction writes: `e` or `E`, a sign, digits. -/
def exponentValue : List Char → Int
  | _ :: '-' :: digits => -(Nat.ofDigitChars 10 digits 0 : Int)
  | _ :: '+' :: digits => Nat.ofDigitChars 10 digits 0
  | _ :: digits => Nat.ofDigitChars 10 digits 0
  | [] => 0

/-- `strconv.ParseFloat(s, 64)`: the exact value of the literal rounded to the nearest `float64`;
`none` is the range error. -/
def parseFloat (literal : List Char) : Option Binary :=
  let (negative, rest) := splitSign literal
  let integer := rest.takeWhile Char.isDigit
  let (fraction, rest) := splitFraction (rest.dropWhile Char.isDigit)
  let mantissa := Nat.ofDigitChars 10 (integer ++ fraction) 0
  let scale := exponentValue rest - fraction.length
  if 0 ≤ scale then round binary64 negative (mantissa * 10 ^ scale.toNat) 1
  else round binary64 negative mantissa (10 ^ (-scale).toNat)

mutual

/-- `valueInterface`: the value stored in an `interface{}`; `convertNumber` fails where
`ParseFloat` does. -/
def decodeInterface : Value → Except UnmarshalError GoValue
  | .null => .ok .nil
  | .bool value => .ok (.bool value)
  | .number literal =>
      match parseFloat literal with
      | some value => .ok (.float64 value)
      | none => .error (.unmarshalType ("number ".toList ++ literal))
  | .string value => .ok (.string value)
  | .array items => do return .slice (← decodeItems items)
  | .object members => do return .map (← decodeMembers members)

/-- `arrayInterface`. -/
def decodeItems : List Value → Except UnmarshalError (List GoValue)
  | [] => .ok []
  | item :: rest => do
      let item ← decodeInterface item
      let rest ← decodeItems rest
      return item :: rest

/-- The members of an object, each value decoded into an `interface{}`. -/
def decodeMembers : List (List Char × Value) → Except UnmarshalError (List (List Char × GoValue))
  | [] => .ok []
  | (key, value) :: rest => do
      let value ← decodeInterface value
      let rest ← decodeMembers rest
      return (key, value) :: rest

end

/-- The map of an object's members: `SetMapIndex` member after member, so that a later key
overwrites an earlier one. -/
def toMap (members : List (List Char × GoValue)) : GoMap (List Char) GoValue :=
  members.foldl (fun map member => map.insert member.1 member.2) GoMap.empty

/-- `json.Unmarshal` into a `map[string]interface{}`: an object fills the map, `null` leaves it
nil (`none`), anything else is an `UnmarshalTypeError`. -/
def unmarshalMap (msg : List Char) : Except UnmarshalError (Option (GoMap (List Char) GoValue)) := do
  let value ← (parse msg).mapError .syntaxError
  match value with
  | .object members => return some (toMap (← decodeMembers members))
  | .null => return none
  | .array _ => throw (.unmarshalType "array".toList)
  | .string _ => throw (.unmarshalType "string".toList)
  | .number _ => throw (.unmarshalType "number".toList)
  | .bool _ => throw (.unmarshalType "bool".toList)

/-- The comma-ok read `parsed[key]` of a map that may be nil. -/
def lookup (parsed : Option (GoMap (List Char) GoValue)) (key : List Char) : Option GoValue :=
  parsed.bind fun map => map.lookup key

/-- An object fills the map with its members once each of them is decoded. -/
theorem unmarshalMap_of_object {msg : List Char} {members : List (List Char × Value)}
    (parsed : parse msg = .ok (.object members)) :
    unmarshalMap msg = (decodeMembers members).map fun decoded => some (toMap decoded) := by
  rw [unmarshalMap, parsed]
  rfl

/-- A key that only one member has is read as that member's value: the run lemma of the
`SetMapIndex` loop, by induction on the members from the last one. -/
theorem lookup_toMap_of_mem {members : List (List Char × GoValue)} (distinct : (members.map Prod.fst).Nodup)
    {key : List Char} {value : GoValue} (mem : (key, value) ∈ members) :
    (toMap members).lookup key = some value := by
  induction members using List.reverseRecOn with
  | nil => cases mem
  | append_singleton rest last ih =>
      rw [List.map_append, List.nodup_append] at distinct
      obtain ⟨restDistinct, -, apart⟩ := distinct
      rw [toMap, List.foldl_append, ← toMap, List.foldl_cons, List.foldl_nil, GoMap.lookup_insert]
      rcases List.mem_append.mp mem with inRest | isLast
      · have different : key ≠ last.1 :=
          apart key (List.mem_map.mpr ⟨_, inRest, rfl⟩) last.1 (List.mem_singleton_self _)
        rw [if_neg different, ih restDistinct inRest]
      · obtain rfl := List.mem_singleton.mp isLast
        simp

/-- The value a key names among an object's members: that of the last member with the key. -/
def lastMember {α : Type} (members : List (List Char × α)) (key : List Char) : Option α :=
  members.foldl (fun found member => if key = member.1 then some member.2 else found) none

/-- The `SetMapIndex` loop, read at one key: the run lemma, by induction on the members with
the map they start from generalised. -/
theorem lookup_foldl_insert (members : List (List Char × GoValue)) (map : GoMap (List Char) GoValue)
    (key : List Char) :
    (members.foldl (fun map member => map.insert member.1 member.2) map).lookup key =
      members.foldl (fun found member => if key = member.1 then some member.2 else found) (map.lookup key) := by
  induction members generalizing map with
  | nil => rfl
  | cons member rest ih => rw [List.foldl_cons, List.foldl_cons, ih, GoMap.lookup_insert]

theorem lookup_toMap (members : List (List Char × GoValue)) (key : List Char) :
    (toMap members).lookup key = lastMember members key :=
  lookup_foldl_insert members GoMap.empty key

theorem decodeMembers_cons_eq_ok {key : List Char} {value : Value} {rest : List (List Char × Value)}
    {decoded : List (List Char × GoValue)} (ok : decodeMembers ((key, value) :: rest) = .ok decoded) :
    ∃ first others, decodeInterface value = .ok first ∧ decodeMembers rest = .ok others ∧
      decoded = (key, first) :: others := by
  rw [decodeMembers] at ok
  cases first : decodeInterface value with
  | error fault =>
      rw [first] at ok
      cases ok
  | ok first' =>
      cases others : decodeMembers rest with
      | error fault =>
          rw [first, others] at ok
          cases ok
      | ok others' =>
          rw [first, others] at ok
          cases ok
          exact ⟨first', others', rfl, rfl, rfl⟩

/-- Decoding keeps which member a key names: the last member of the object and the last member
of the map are a value and its decoding, or both missing. -/
theorem lastMember_decodeMembers {members : List (List Char × Value)} {decoded : List (List Char × GoValue)}
    (ok : decodeMembers members = .ok decoded) (key : List Char) :
    Option.Rel (fun value stored => decodeInterface value = .ok stored) (lastMember members key)
      (lastMember decoded key) := by
  suffices general : ∀ (found : Option Value) (stored : Option GoValue),
      Option.Rel (fun value stored => decodeInterface value = .ok stored) found stored →
      Option.Rel (fun value stored => decodeInterface value = .ok stored)
        (members.foldl (fun found member => if key = member.1 then some member.2 else found) found)
        (decoded.foldl (fun found member => if key = member.1 then some member.2 else found) stored) from
    general none none .none
  induction members generalizing decoded with
  | nil =>
      rw [decodeMembers] at ok
      cases ok
      exact fun _ _ related => related
  | cons member rest ih =>
      obtain ⟨memberKey, value⟩ := member
      obtain ⟨first, others, firstOk, othersOk, rfl⟩ := decodeMembers_cons_eq_ok ok
      intro found stored related
      simp only [List.foldl_cons]
      apply ih othersOk
      by_cases same : key = memberKey
      · simp only [same, if_true]
        exact .some firstOk
      · simp only [same, if_false]
        exact related
/-- A read of the map `Unmarshal` filled is the decoding of the object's last member under the
key, or misses where the object has no such member. -/
theorem lookup_unmarshalled {members : List (List Char × Value)} {decoded : List (List Char × GoValue)}
    (ok : decodeMembers members = .ok decoded) (key : List Char) :
    Option.Rel (fun value stored => decodeInterface value = .ok stored) (lastMember members key)
      (lookup (some (toMap decoded)) key) := by
  rw [lookup, Option.bind_some, lookup_toMap]
  exact lastMember_decodeMembers ok key

/-- The members of the object a text holds, when `Unmarshal` takes it into a map: an object whose
numbers all fit a `float64`. -/
def unmarshalledObject (msg : List Char) : Option (List (List Char × Value)) :=
  match parse msg with
  | .ok (.object members) => if (decodeMembers members).isOk then some members else none
  | _ => none

/-- `Unmarshal` into a map either fills it from an object `unmarshalledObject` names, or fails or
leaves it nil, and then every read of it misses. -/
theorem unmarshalMap_cases (msg : List Char) :
    (∃ members decoded, unmarshalledObject msg = some members ∧ decodeMembers members = .ok decoded ∧
        unmarshalMap msg = .ok (some (toMap decoded))) ∨
      (unmarshalledObject msg = none ∧ ∀ parsed key, unmarshalMap msg = .ok parsed → lookup parsed key = none) := by
  cases parsed : parse msg with
  | error fault =>
      right
      refine ⟨by simp [unmarshalledObject, parsed], fun _ _ ok => ?_⟩
      rw [unmarshalMap, parsed] at ok
      cases ok
  | ok value =>
      cases value with
      | object members =>
          cases decoded : decodeMembers members with
          | error fault =>
              right
              refine ⟨by simp [unmarshalledObject, parsed, decoded, Except.isOk, Except.toBool], fun _ _ ok => ?_⟩
              rw [unmarshalMap_of_object parsed, decoded] at ok
              cases ok
          | ok decoded' =>
              left
              refine ⟨members, decoded', by simp [unmarshalledObject, parsed, decoded, Except.isOk, Except.toBool],
                decoded, ?_⟩
              rw [unmarshalMap_of_object parsed, decoded]
              rfl
      | null =>
          right
          refine ⟨by simp [unmarshalledObject, parsed], fun _ _ ok => ?_⟩
          rw [unmarshalMap, parsed] at ok
          cases ok
          rfl
      | bool flag | number literal | string text | array items =>
          right
          refine ⟨by simp [unmarshalledObject, parsed], fun _ _ ok => ?_⟩
          rw [unmarshalMap, parsed] at ok
          cases ok

theorem splitSign_of_isDigit {literal : List Char} (numeric : ∀ c ∈ literal, c.isDigit = true) :
    splitSign literal = (false, literal) := by
  cases literal with
  | nil => rfl
  | cons c rest =>
      have notMinus : c ≠ '-' := by
        rintro rfl
        exact absurd (numeric '-' (by simp)) (by decide)
      simp [splitSign, notMinus]

/-- An integer as `AppendInt` writes it is read as its magnitude, rounded with its sign. -/
theorem parseFloat_formatInt (value : Int) :
    parseFloat (formatInt value) = round binary64 (decide (value < 0)) value.natAbs 1 := by
  have numeric : ∀ c ∈ Nat.toDigits 10 value.natAbs, c.isDigit = true := fun c member =>
    Nat.isDigit_of_mem_toDigits (show 0 < 10 by decide) (show 10 ≤ 10 by decide) member
  have sign : splitSign (formatInt value) = (decide (value < 0), Nat.toDigits 10 value.natAbs) := by
    by_cases negative : value < 0
    · simp [formatInt, negative, splitSign]
    · simp [formatInt, negative, splitSign_of_isDigit numeric]
  have whole : (Nat.toDigits 10 value.natAbs).takeWhile Char.isDigit = Nat.toDigits 10 value.natAbs :=
    List.takeWhile_eq_self_iff.mpr numeric
  have rest : (Nat.toDigits 10 value.natAbs).dropWhile Char.isDigit = [] :=
    List.dropWhile_eq_nil_iff.mpr numeric
  simp [parseFloat, sign, whole, rest, splitFraction, exponentValue, Nat.ofDigitChars_ten_toDigits]

/-- An integer of magnitude at most `2 ^ 53` is a `float64` whose integer part is the integer
again. -/
theorem parseFloat_formatInt_truncate {value : Int} (small : value.natAbs ≤ 2 ^ 53) :
    (parseFloat (formatInt value)).map Binary.truncate = some value := by
  have exact := round_natCast_truncate (show binary64.minExponent ≤ 0 by decide)
    (show (binary64.precision : Int) ≤ binary64.maxExponent by decide) (show 1 ≤ binary64.precision by decide)
    (decide (value < 0)) small
  rw [parseFloat_formatInt, exact, Option.some.injEq]
  by_cases negative : value < 0
  · simp only [negative, decide_true, if_true]
    omega
  · simp only [negative, decide_false, Bool.false_eq_true, if_false]
    omega

end Json

namespace GoRuntime

open Json BinaryFloat

/-- The type assertion `x.(string)`, which panics on any other dynamic type, nil included. -/
def assertString : GoValue → Except Panic (List Char)
  | .string value => .ok value
  | _ => .error .typeAssertion

/-- The type assertion `x.(float64)`. -/
def assertFloat64 : GoValue → Except Panic Binary
  | .float64 value => .ok value
  | _ => .error .typeAssertion

/-- The conversion `int(f)` of a finite `float64` on amd64: toward zero, and the integer
indefinite `-2 ^ 63` when that leaves the range of `int`. -/
def intOfFloat64 (value : Binary) : Int64 :=
  let truncated := value.truncate
  if -2 ^ 63 ≤ truncated ∧ truncated < 2 ^ 63 then Int64.ofInt truncated else Int64.ofInt (-2 ^ 63)

/-- A `float64` whose integer part is an `int` converts to that `int`. -/
theorem intOfFloat64_of_truncate {value : Binary} {result : Int64} (truncated : value.truncate = result.toInt) :
    intOfFloat64 value = result := by
  have low := Int64.le_toInt result
  have high := Int64.toInt_lt result
  simp only [intOfFloat64, truncated]
  rw [if_pos ⟨by simpa using low, by simpa using high⟩, Int64.ofInt_toInt]

end GoRuntime

namespace Json

open BinaryFloat GoRuntime

/-- The text of a JSON string; `none` for any other value. -/
def Value.stringValue : Value → Option (List Char)
  | .string text => some text
  | _ => none

/-- The literal of a JSON number; `none` for any other value. -/
def Value.numberLiteral : Value → Option (List Char)
  | .number literal => some literal
  | _ => none

/-- The text of a Go `string`; `none` for any other dynamic type. -/
def GoValue.stringValue : GoValue → Option (List Char)
  | .string text => some text
  | _ => none

/-- The value of a Go `float64`; `none` for any other dynamic type. -/
def GoValue.float64Value : GoValue → Option Binary
  | .float64 value => some value
  | _ => none

/-- Decoding keeps the kind of a value: a string stays the same string, and a `float64` comes
exactly from a number that `ParseFloat` reads. The one case analysis over what decoding does. -/
theorem decodeInterface_kinds {value : Value} {stored : GoValue} (ok : decodeInterface value = .ok stored) :
    stored.stringValue = value.stringValue ∧ stored.float64Value = value.numberLiteral.bind parseFloat := by
  cases value with
  | null => cases ok; exact ⟨rfl, rfl⟩
  | bool flag => cases ok; exact ⟨rfl, rfl⟩
  | string text => cases ok; exact ⟨rfl, rfl⟩
  | number literal =>
      rw [decodeInterface] at ok
      cases parsed : parseFloat literal with
      | none => rw [parsed] at ok; cases ok
      | some index =>
          rw [parsed] at ok
          cases ok
          exact ⟨rfl, parsed.symm⟩
  | array items =>
      rw [decodeInterface] at ok
      cases decoded : decodeItems items with
      | error fault => rw [decoded] at ok; cases ok
      | ok items' => rw [decoded] at ok; cases ok; exact ⟨rfl, rfl⟩
  | object members =>
      rw [decodeInterface] at ok
      cases decoded : decodeMembers members with
      | error fault => rw [decoded] at ok; cases ok
      | ok members' => rw [decoded] at ok; cases ok; exact ⟨rfl, rfl⟩

/-- `.(string)` on a decoded value gives the text of what was a JSON string and panics on
anything else. -/
theorem assertString_of_decodeInterface {value : Value} {stored : GoValue} (ok : decodeInterface value = .ok stored) :
    assertString stored = value.stringValue.elim (.error .typeAssertion) .ok := by
  rw [← (decodeInterface_kinds ok).1]
  cases stored <;> rfl

/-- `.(float64)` on a decoded value gives the `float64` of what was a JSON number and panics on
anything else. -/
theorem assertFloat64_of_decodeInterface {value : Value} {stored : GoValue} (ok : decodeInterface value = .ok stored) :
    assertFloat64 stored = (value.numberLiteral.bind parseFloat).elim (.error .typeAssertion) .ok := by
  rw [← (decodeInterface_kinds ok).2]
  cases stored <;> rfl

end Json
