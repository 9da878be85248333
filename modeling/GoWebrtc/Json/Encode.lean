import GoWebrtc.Json.Scanner

/-!
What `json.Marshal` writes for a struct of strings and integers, and that the scanner reads it back.
-/

namespace Json

/-- `hex`: the digits a `\u00XX` escape is written with. -/
def hexChar (digit : Nat) : Char := "0123456789abcdef".toList.getD digit '0'

/-- `htmlSafeSet`: the ASCII characters copied as they are. -/
def htmlSafe (c : Char) : Bool :=
  0x20 ≤ c.toNat && c ≠ '"' && c ≠ '\\' && c ≠ '<' && c ≠ '>' && c ≠ '&'

/-- What `encodeState.string` writes for one character: the escapes of unsafe ASCII and of
`U+2028` and `U+2029`, any other character as it is. -/
def escapeChar (c : Char) : List Char :=
  if c.toNat < 0x80 then
    if htmlSafe c then [c]
    else if c = '\\' ∨ c = '"' then ['\\', c]
    else if c = '\n' then ['\\', 'n']
    else if c = '\r' then ['\\', 'r']
    else if c = '\t' then ['\\', 't']
    else ['\\', 'u', '0', '0', hexChar (c.toNat / 16), hexChar (c.toNat % 16)]
  else if c = '\u2028' ∨ c = '\u2029' then ['\\', 'u', '2', '0', '2', hexChar (c.toNat % 16)]
  else [c]

/-- `encodeState.string`: the escaped characters between quotes. -/
def quote (text : List Char) : List Char := '"' :: text.flatMap escapeChar ++ ['"']

/-- `strconv.AppendInt(dst, i, 10)`. -/
def formatInt (value : Int) : List Char :=
  (if value < 0 then ['-'] else []) ++ Nat.toDigits 10 value.natAbs

/-- A struct field `Marshal` writes: a `string` or an `int`, under its JSON name. -/
inductive Field where
  | string (name value : List Char)
  | int (name : List Char) (value : Int)

namespace Field

def name : Field → List Char
  | string name _ => name
  | int name _ => name

/-- The encoding of the field's value. -/
def encode : Field → List Char
  | string _ value => quote value
  | int _ value => formatInt value

/-- The JSON value the field's encoding denotes. -/
def value : Field → Value
  | string _ value => .string value
  | int _ value => .number (formatInt value)

/-- `"name":` and the value. -/
def member (field : Field) : List Char := quote field.name ++ ':' :: field.encode

end Field

/-- The struct encoder: the members between braces, separated by commas. -/
def encodeObject (fields : List Field) : List Char :=
  '{' :: [','].intercalate (fields.map Field.member) ++ ['}']

theorem hexDigit_hexChar : ∀ digit < 16, hexDigit (hexChar digit) = some digit := by
  decide

theorem isHighSurrogate_eq_false {code : Nat} (low : code < 0xD800) : isHighSurrogate code = false := by
  simp [isHighSurrogate]
  omega

theorem isLowSurrogate_eq_false {code : Nat} (low : code < 0xD800) : isLowSurrogate code = false := by
  simp [isLowSurrogate]
  omega

section Literal

variable (text : List Char) (stack : List Frame) (result : Option Value)

/-- A printable character other than a quote or a backslash is kept as it is. -/
theorem run_plain {c : Char} (notQuote : c ≠ '"') (notBackslash : c ≠ '\\') (printable : 0x20 ≤ c.toNat) :
    Scanner.run ⟨.inString text none, stack, result⟩ [c] = .ok ⟨.inString (text ++ [c]) none, stack, result⟩ := by
  have visible : ¬ c.toNat < 0x20 := Nat.not_lt.mpr printable
  rw [Scanner.run_singleton]
  simp [Scanner.step, Scanner.inString, notQuote, notBackslash, visible, settle]

/-- A one-letter escape stands for its character. -/
theorem run_shortEscape {letter c : Char} (escape : escaped letter = some c) :
    Scanner.run ⟨.inString text none, stack, result⟩ ['\\', letter] =
      .ok ⟨.inString (text ++ [c]) none, stack, result⟩ := by
  have backslash : Scanner.step ⟨.inString text none, stack, result⟩ '\\' = .ok ⟨.inStringEsc text none, stack, result⟩ := rfl
  rw [Scanner.run_cons_of_step backslash, Scanner.run_singleton]
  simp [Scanner.step, Scanner.inStringEsc, escape, settle]

/-- A `\uXXXX` escape of a code point below the surrogates stands for that character. -/
theorem run_unicodeEscape {a b d e : Nat} (ha : a < 16) (hb : b < 16) (hd : d < 16) (he : e < 16)
    (low : 16 * (16 * (16 * a + b) + d) + e < 0xD800) :
    Scanner.run ⟨.inString text none, stack, result⟩ ['\\', 'u', hexChar a, hexChar b, hexChar d, hexChar e] =
      .ok ⟨.inString (text ++ [Char.ofNat (16 * (16 * (16 * a + b) + d) + e)]) none, stack, result⟩ := by
  have backslash : Scanner.step ⟨.inString text none, stack, result⟩ '\\' = .ok ⟨.inStringEsc text none, stack, result⟩ := rfl
  have letter : Scanner.step ⟨.inStringEsc text none, stack, result⟩ 'u' = .ok ⟨.inStringEscU text none 0 0, stack, result⟩ := rfl
  have first : Scanner.step ⟨.inStringEscU text none 0 0, stack, result⟩ (hexChar a) =
      .ok ⟨.inStringEscU text none a 1, stack, result⟩ := by
    simp [Scanner.step, Scanner.inStringEscU, hexDigit_hexChar a ha]
  have second : Scanner.step ⟨.inStringEscU text none a 1, stack, result⟩ (hexChar b) =
      .ok ⟨.inStringEscU text none (16 * a + b) 2, stack, result⟩ := by
    simp [Scanner.step, Scanner.inStringEscU, hexDigit_hexChar b hb]
  have third : Scanner.step ⟨.inStringEscU text none (16 * a + b) 2, stack, result⟩ (hexChar d) =
      .ok ⟨.inStringEscU text none (16 * (16 * a + b) + d) 3, stack, result⟩ := by
    simp [Scanner.step, Scanner.inStringEscU, hexDigit_hexChar d hd]
  rw [Scanner.run_cons_of_step backslash, Scanner.run_cons_of_step letter, Scanner.run_cons_of_step first,
    Scanner.run_cons_of_step second, Scanner.run_cons_of_step third, Scanner.run_singleton]
  simp [Scanner.step, Scanner.inStringEscU, hexDigit_hexChar e he, decodeEscape, decodeUnpaired,
    isHighSurrogate_eq_false low, isLowSurrogate_eq_false low]

/-- A `\uXXXX` escape whose digits spell the code point of `c`, below the surrogates, stands for
`c`. -/
theorem run_unicodeEscape_char {c : Char} {a b d e : Nat} (ha : a < 16) (hb : b < 16) (hd : d < 16)
    (he : e < 16) (code : 16 * (16 * (16 * a + b) + d) + e = c.toNat) (low : c.toNat < 0xD800) :
    Scanner.run ⟨.inString text none, stack, result⟩ ['\\', 'u', hexChar a, hexChar b, hexChar d, hexChar e] =
      .ok ⟨.inString (text ++ [c]) none, stack, result⟩ := by
  have escape := run_unicodeEscape text stack result ha hb hd he (code ▸ low)
  rwa [code, Char.ofNat_toNat] at escape

/-- Every character reads back as itself from what `encodeState.string` writes for it. -/
theorem run_escapeChar (c : Char) :
    Scanner.run ⟨.inString text none, stack, result⟩ (escapeChar c) =
      .ok ⟨.inString (text ++ [c]) none, stack, result⟩ := by
  unfold escapeChar
  split_ifs with ascii safe quoted newline carriage tab separator
  · simp only [htmlSafe, Bool.and_eq_true, decide_eq_true_eq] at safe
    exact run_plain text stack result safe.1.1.1.1.2 safe.1.1.1.2 safe.1.1.1.1.1
  · rcases quoted with backslash | quotation <;> subst_vars
    · exact run_shortEscape text stack result rfl
    · exact run_shortEscape text stack result rfl
  · subst newline
    exact run_shortEscape text stack result rfl
  · subst carriage
    exact run_shortEscape text stack result rfl
  · subst tab
    exact run_shortEscape text stack result rfl
  · -- `\u00XX`: the code point is below `0x80`
    have code : 16 * (16 * (16 * 0 + 0) + c.toNat / 16) + c.toNat % 16 = c.toNat := by omega
    have escape := run_unicodeEscape_char text stack result (show (0 : Nat) < 16 by decide)
      (show (0 : Nat) < 16 by decide) (Nat.div_lt_of_lt_mul (show c.toNat < 16 * 16 by omega))
      (Nat.mod_lt c.toNat (by decide)) code (by omega)
    exact escape
  · -- `\u2028` and `\u2029`
    have point : c.toNat = 0x2028 ∨ c.toNat = 0x2029 := by
      rcases separator with same | same <;> subst same <;> decide
    have code : 16 * (16 * (16 * 2 + 0) + 2) + c.toNat % 16 = c.toNat := by omega
    have escape := run_unicodeEscape_char text stack result (show (2 : Nat) < 16 by decide)
      (show (0 : Nat) < 16 by decide) (show (2 : Nat) < 16 by decide) (Nat.mod_lt c.toNat (by decide)) code
      (by omega)
    exact escape
  · have printable : 0x20 ≤ c.toNat := by omega
    have notQuote : c ≠ '"' := fun same => by subst same; simp at ascii
    have notBackslash : c ≠ '\\' := fun same => by subst same; simp at ascii
    exact run_plain text stack result notQuote notBackslash printable

/-- What `encodeState.string` writes for a whole text reads back as the text: the run lemma
over the characters, from `run_escapeChar`. -/
theorem run_escaped (chars : List Char) :
    Scanner.run ⟨.inString text none, stack, result⟩ (chars.flatMap escapeChar) =
      .ok ⟨.inString (text ++ chars) none, stack, result⟩ := by
  induction chars generalizing text with
  | nil => simp
  | cons c rest ih =>
      rw [List.flatMap_cons, Scanner.run_append_of_run (run_escapeChar text stack result c), ih]
      simp

end Literal

/-- A quoted text, read from a phase where a string may begin, is a string just read. -/
theorem run_quote {phase : Phase} {stack : List Frame} {result : Option Value}
    (opening : Scanner.step ⟨phase, stack, result⟩ '"' = .ok ⟨.inString [] none, stack, result⟩) (text : List Char) :
    Scanner.run ⟨phase, stack, result⟩ (quote text) =
      .ok (Scanner.complete ⟨.endValue, stack, result⟩ (.string text)) := by
  have closing : Scanner.step ⟨.inString text none, stack, result⟩ '"' =
      .ok (Scanner.complete ⟨.inString text none, stack, result⟩ (.string text)) := rfl
  rw [quote, List.cons_append, Scanner.run_cons_of_step opening, Scanner.run_append_of_run (run_escaped [] stack result text),
    List.nil_append, Scanner.run_singleton, closing, Scanner.complete_phase]

/-- A character that ends a number where it stands: not a digit and no start of a fraction or
an exponent. -/
def EndsNumber (stop : Char) : Prop := stop.isDigit = false ∧ stop ≠ '.' ∧ stop ≠ 'e' ∧ stop ≠ 'E'

section Number

variable {stack : List Frame} {result : Option Value} {stop : Char}

theorem run_digits (literal : List Char) {digits : List Char} (numeric : ∀ c ∈ digits, c.isDigit = true) :
    Scanner.run ⟨.one literal, stack, result⟩ digits = .ok ⟨.one (literal ++ digits), stack, result⟩ := by
  induction digits generalizing literal with
  | nil => simp
  | cons c rest ih =>
      have stepped : Scanner.step ⟨.one literal, stack, result⟩ c = .ok ⟨.one (literal ++ [c]), stack, result⟩ := by
        simp [Scanner.step, Scanner.one, numeric c (by simp)]
      rw [Scanner.run_cons_of_step stepped, ih (literal ++ [c]) fun d member => numeric d (by simp [member])]
      simp

/-- The end of a number in `state1` or `state0` completes it and goes on as `stateEndValue`. -/
theorem step_one_of_endsNumber (ends : EndsNumber stop) (literal : List Char) :
    Scanner.step ⟨.one literal, stack, result⟩ stop =
      (Scanner.complete ⟨.endValue, stack, result⟩ (.number literal)).endValue stop := by
  obtain ⟨notDigit, notDot, notE, notUpperE⟩ := ends
  simp [Scanner.step, Scanner.one, Scanner.zero, notDigit, notDot, notE, notUpperE]
  rw [Scanner.complete_phase (.one literal) .endValue]

theorem step_zero_of_endsNumber (ends : EndsNumber stop) (literal : List Char) :
    Scanner.step ⟨.zero literal, stack, result⟩ stop =
      (Scanner.complete ⟨.endValue, stack, result⟩ (.number literal)).endValue stop := by
  obtain ⟨_, notDot, notE, notUpperE⟩ := ends
  simp [Scanner.step, Scanner.zero, notDot, notE, notUpperE]
  rw [Scanner.complete_phase (.zero literal) .endValue]

/-- The decimal digits of a positive number start with a digit other than `0`. -/
theorem toDigits_eq_cons {n : Nat} (positive : 0 < n) :
    ∃ leading rest, Nat.toDigits 10 n = Nat.digitChar leading :: rest ∧ 0 < leading ∧ leading < 10 := by
  induction n using Nat.strong_induction_on with
  | _ n ih =>
      by_cases small : n < 10
      · exact ⟨n, [], Nat.toDigits_of_lt_base small, positive, small⟩
      · have shorter : 0 < n / 10 := Nat.div_pos (by omega) (by decide)
        obtain ⟨leading, rest, digits, nonzero, bounded⟩ := ih (n / 10) (by omega) shorter
        refine ⟨leading, rest ++ [Nat.digitChar (n % 10)], ?_, nonzero, bounded⟩
        rw [Nat.toDigits_of_base_le (by decide) (by omega), digits, List.cons_append]

theorem digitChar_between : ∀ leading < 10, 0 < leading →
    '1' ≤ Nat.digitChar leading ∧ Nat.digitChar leading ≤ '9' ∧ Nat.digitChar leading ≠ '0' := by
  decide

/-- An integer as `AppendInt` writes it, read from where a value begins and ended by `stop`,
is a number just read, with the text of its literal. -/
theorem run_formatInt (ends : EndsNumber stop) (value : Int) :
    Scanner.run ⟨.beginValue, stack, result⟩ (formatInt value ++ [stop]) =
      (Scanner.complete ⟨.endValue, stack, result⟩ (.number (formatInt value))).endValue stop := by
  by_cases zero : value = 0
  · subst zero
    have opening : Scanner.step ⟨.beginValue, stack, result⟩ '0' = .ok ⟨.zero ['0'], stack, result⟩ := rfl
    rw [show formatInt 0 = ['0'] from rfl, List.singleton_append, Scanner.run_cons_of_step opening,
      Scanner.run_singleton, step_zero_of_endsNumber ends]
  obtain ⟨leading, rest, digits, nonzero, bounded⟩ := toDigits_eq_cons (Int.natAbs_pos.mpr zero)
  obtain ⟨low, high, notZero⟩ := digitChar_between leading bounded nonzero
  have numeric : ∀ c ∈ rest, c.isDigit = true := fun c member =>
    Nat.isDigit_of_mem_toDigits (show 0 < 10 by decide) (show 10 ≤ 10 by decide)
      (by rw [digits]; exact List.mem_cons_of_mem _ member)
  have notSpace : isSpace (Nat.digitChar leading) = false := by
    have : ∀ k < 10, isSpace (Nat.digitChar k) = false := by decide
    exact this leading bounded
  by_cases negative : value < 0
  · have sign : formatInt value = '-' :: Nat.digitChar leading :: rest := by
      simp [formatInt, negative, digits]
    have minus : Scanner.step ⟨.beginValue, stack, result⟩ '-' = .ok ⟨.neg ['-'], stack, result⟩ := rfl
    have first : Scanner.step ⟨.neg ['-'], stack, result⟩ (Nat.digitChar leading) =
        .ok ⟨.one ['-', Nat.digitChar leading], stack, result⟩ := by
      simp [Scanner.step, Scanner.neg, notZero, low, high]
    rw [sign, List.cons_append, List.cons_append, Scanner.run_cons_of_step minus, Scanner.run_cons_of_step first,
      Scanner.run_append_of_run (run_digits _ numeric), Scanner.run_singleton, step_one_of_endsNumber ends]
    rfl
  · have sign : formatInt value = Nat.digitChar leading :: rest := by
      simp [formatInt, negative, digits]
    have first : Scanner.step ⟨.beginValue, stack, result⟩ (Nat.digitChar leading) =
        .ok ⟨.one [Nat.digitChar leading], stack, result⟩ := by
      have cases : ∀ k < 10, 0 < k → Scanner.step ⟨.beginValue, stack, result⟩ (Nat.digitChar k) =
          .ok ⟨.one [Nat.digitChar k], stack, result⟩ := by
        intro k bounded positive
        interval_cases k <;> rfl
      exact cases leading bounded nonzero
    rw [sign, List.cons_append, Scanner.run_cons_of_step first,
      Scanner.run_append_of_run (run_digits _ numeric), Scanner.run_singleton, step_one_of_endsNumber ends]
    rfl

end Number

section Object

variable {result : Option Value} {stop : Char}

/-- A field's value, read from where a value begins and ended by `stop`, is a value just read. -/
theorem run_encode (ends : EndsNumber stop) (field : Field) (stack : List Frame) :
    Scanner.run ⟨.beginValue, stack, result⟩ (field.encode ++ [stop]) =
      (Scanner.complete ⟨.endValue, stack, result⟩ field.value).endValue stop := by
  cases field with
  | string name value =>
      have opening : Scanner.step ⟨.beginValue, stack, result⟩ '"' = .ok ⟨.inString [] none, stack, result⟩ := rfl
      simp only [Field.encode, Field.value]
      rw [Scanner.run_append_of_run (run_quote opening value), Scanner.run_singleton,
        Scanner.step_of_endValue (Scanner.complete_phase_endValue _ _)]
  | int name value => exact run_formatInt ends value

/-- A member `"name":value`, read where a key begins and ended by `stop`, joins the object on
top of the stack. -/
theorem run_member (ends : EndsNumber stop) (field : Field) {phase : Phase} {members : List (List Char × Value)}
    {outer : List Frame}
    (opening : Scanner.step ⟨phase, .objectKey members none :: outer, result⟩ '"' =
      .ok ⟨.inString [] none, .objectKey members none :: outer, result⟩) :
    Scanner.run ⟨phase, .objectKey members none :: outer, result⟩ (field.member ++ [stop]) =
      Scanner.endValue ⟨.endValue, .objectValue (members ++ [(field.name, field.value)]) none :: outer, result⟩ stop := by
  have key : Scanner.run ⟨phase, .objectKey members none :: outer, result⟩ (quote field.name) =
      .ok ⟨.endValue, .objectKey members (some field.name) :: outer, result⟩ := run_quote opening field.name
  have colon : Scanner.step ⟨.endValue, .objectKey members (some field.name) :: outer, result⟩ ':' =
      .ok ⟨.beginValue, .objectValue members (some field.name) :: outer, result⟩ := rfl
  rw [Field.member, List.append_assoc, Scanner.run_append_of_run key, List.cons_append,
    Scanner.run_cons_of_step colon, run_encode ends field]
  rfl

theorem endsNumber_comma : EndsNumber ',' := by
  simp [EndsNumber]

theorem endsNumber_brace : EndsNumber '}' := by
  simp [EndsNumber]

/-- The members of an object with their commas and the closing brace, read where the first key
begins, close the object over the stack below it: the run lemma over the fields. -/
theorem run_members {outer : List Frame} (fields : List Field) :
    ∀ (field : Field) (members : List (List Char × Value)) (phase : Phase),
      (∀ stack, Scanner.step ⟨phase, stack, result⟩ '"' = .ok ⟨.inString [] none, stack, result⟩) →
      Scanner.run ⟨phase, .objectKey members none :: outer, result⟩
          ([','].intercalate ((field :: fields).map Field.member) ++ ['}']) =
        .ok (Scanner.complete ⟨.endValue, outer, result⟩
          (.object (members ++ (field :: fields).map fun field => (field.name, field.value)))) := by
  induction fields with
  | nil =>
      intro field members phase opening
      rw [List.map_singleton, List.intercalate_singleton, run_member endsNumber_brace field (opening _)]
      rfl
  | cons next rest ih =>
      intro field members phase opening
      have comma : Scanner.run ⟨phase, .objectKey members none :: outer, result⟩ (field.member ++ [',']) =
          .ok ⟨.beginString, .objectKey (members ++ [(field.name, field.value)]) none :: outer, result⟩ := by
        rw [run_member endsNumber_comma field (opening _)]
        rfl
      rw [List.map_cons, List.map_cons, List.intercalate_cons_cons, List.append_assoc, List.append_assoc,
        ← List.append_assoc field.member, Scanner.run_append_of_run comma, ← List.map_cons,
        ih next _ .beginString fun _ => rfl]
      simp

/-- The scanner reads what the struct encoder writes as the object of the fields' values, in
order. -/
theorem parse_encodeObject (fields : List Field) :
    parse (encodeObject fields) = .ok (.object (fields.map fun field => (field.name, field.value))) := by
  cases fields with
  | nil => rfl
  | cons field rest =>
      have opening : Scanner.step Scanner.initial '{' = .ok ⟨.beginStringOrEmpty, [.objectKey [] none], none⟩ := rfl
      have read : Scanner.initial.run (encodeObject (field :: rest)) =
          .ok ⟨.endValue, [], some (.object ((field :: rest).map fun field => (field.name, field.value)))⟩ := by
        rw [encodeObject, List.cons_append, Scanner.run_cons_of_step opening, run_members rest field [] .beginStringOrEmpty fun _ => rfl]
        rfl
      unfold parse
      rw [read]
      rfl

end Object

/-- Only a minus sign and decimal digits appear in an integer as `AppendInt` writes it. -/
theorem mem_formatInt {value : Int} {c : Char} (member : c ∈ formatInt value) :
    c = '-' ∨ c.isDigit = true := by
  unfold formatInt at member
  rcases List.mem_append.mp member with sign | digit
  · left
    split at sign <;> simp_all
  · exact .inr (Nat.isDigit_of_mem_toDigits (by decide) (by decide) digit)

/-- Different integers are written differently: the first character gives the sign, and the
digits the magnitude. -/
theorem formatInt_injective : Function.Injective formatInt := by
  intro first second same
  have noMinus : ∀ n, '-' ∉ Nat.toDigits 10 n := fun n member => by
    have digit := Nat.isDigit_of_mem_toDigits (by decide) (by decide) member
    revert digit
    decide
  have magnitude : ∀ m n, Nat.toDigits 10 m = Nat.toDigits 10 n → m = n := fun m n digits =>
    Nat.repr_inj.mp (congrArg String.ofList digits)
  unfold formatInt at same
  by_cases firstNegative : first < 0 <;> by_cases secondNegative : second < 0 <;>
    simp only [firstNegative, secondNegative, if_true, if_false, List.singleton_append, List.nil_append,
      List.cons.injEq, true_and] at same
  · have := magnitude _ _ same
    omega
  · exact absurd (same ▸ List.mem_cons_self) (noMinus second.natAbs)
  · exact absurd (same.symm ▸ List.mem_cons_self) (noMinus first.natAbs)
  · have := magnitude _ _ same
    omega

end Json
