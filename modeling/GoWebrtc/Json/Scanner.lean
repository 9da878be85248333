import Mathlib

/-!
The JSON scanner of Go's `encoding/json`, one character at a time.
-/

namespace Json

/-- A JSON value; a number keeps the text of its literal. -/
inductive Value where
  | null
  | bool (value : Bool)
  | number (literal : List Char)
  | string (value : List Char)
  | array (items : List Value)
  | object (members : List (List Char × Value))

/-- One entry of Go's `parseState` stack, with what the container holds so far. -/
inductive Frame where
  | objectKey (members : List (List Char × Value)) (key : Option (List Char))
  | objectValue (members : List (List Char × Value)) (key : Option (List Char))
  | arrayValue (items : List Value)

/-- The context a Go syntax error names after the offending character. -/
inductive Context where
  | beginningOfValue
  | beginningOfObjectKey
  | afterObjectKey
  | afterObjectKeyValue
  | afterArrayElement
  | afterTopLevelValue
  | inStringLiteral
  | inStringEscape
  | inHexEscape
  | inNumericLiteral
  | afterDecimalPoint
  | inExponent
  | inLiteral (name : List Char) (expecting : Char)
  deriving DecidableEq, Repr

/-- A Go `SyntaxError`. -/
inductive SyntaxError where
  | invalidCharacter (character : Char) (context : Context)
  | exceededMaxDepth
  | unexpectedEnd
  deriving DecidableEq, Repr

/-- Go's step functions (`stateBeginValue`, `stateInString`, `state1`, ...), each with the part of
the literal read so far. -/
inductive Phase where
  | beginValueOrEmpty
  | beginValue
  | beginStringOrEmpty
  | beginString
  | endValue
  | endTop
  | inString (text : List Char) (high : Option Nat)
  | inStringEsc (text : List Char) (high : Option Nat)
  | inStringEscU (text : List Char) (high : Option Nat) (code : Nat) (count : Nat)
  | neg (literal : List Char)
  | one (literal : List Char)
  | zero (literal : List Char)
  | dot (literal : List Char)
  | dot0 (literal : List Char)
  | exponent (literal : List Char)
  | exponentSign (literal : List Char)
  | exponent0 (literal : List Char)
  | literal (name rest : List Char) (value : Value)

/-- The scanner: its step function, its stack (top first) and the top-level value once read. -/
structure Scanner where
  phase : Phase
  stack : List Frame
  result : Option Value

/-- `isSpace`: the four white-space characters of JSON. -/
def isSpace (c : Char) : Bool := c = ' ' || c = '\t' || c = '\r' || c = '\n'

/-- `maxNestingDepth`. -/
def maxNestingDepth : Nat := 10000

/-- The character a one-letter escape stands for. -/
def escaped : Char → Option Char
  | 'b' => some '\x08'
  | 'f' => some '\x0c'
  | 'n' => some '\n'
  | 'r' => some '\r'
  | 't' => some '\t'
  | '\\' => some '\\'
  | '/' => some '/'
  | '"' => some '"'
  | _ => none

/-- The value of a hexadecimal digit. -/
def hexDigit (c : Char) : Option Nat :=
  if '0' ≤ c ∧ c ≤ '9' then some (c.toNat - '0'.toNat)
  else if 'a' ≤ c ∧ c ≤ 'f' then some (c.toNat - 'a'.toNat + 10)
  else if 'A' ≤ c ∧ c ≤ 'F' then some (c.toNat - 'A'.toNat + 10)
  else none

/-- `unicode.ReplacementChar`. -/
def replacementChar : Char := '�'

def isHighSurrogate (code : Nat) : Bool := 0xD800 ≤ code && code < 0xDC00

def isLowSurrogate (code : Nat) : Bool := 0xDC00 ≤ code && code < 0xE000

/-- The decoded text once a waiting high surrogate turns out to have no pair: `unquote`
replaces it with `U+FFFD`. -/
def settle (text : List Char) (high : Option Nat) : List Char :=
  match high with
  | some _ => text ++ [replacementChar]
  | none => text

/-- A `\uXXXX` escape of `unquote` not joined to a waiting high surrogate: a high surrogate
waits for its pair, a low one becomes `U+FFFD`. -/
def decodeUnpaired (text : List Char) (code : Nat) : List Char × Option Nat :=
  if isHighSurrogate code then (text, some code)
  else if isLowSurrogate code then (text ++ [replacementChar], none)
  else (text ++ [Char.ofNat code], none)

/-- A `\uXXXX` escape of `unquote`: a low surrogate after a waiting high one makes the pair's
character (`utf16.DecodeRune`). -/
def decodeEscape (text : List Char) (high : Option Nat) (code : Nat) : List Char × Option Nat :=
  match high with
  | some first =>
      if isLowSurrogate code then (text ++ [Char.ofNat (0x10000 + (first - 0xD800) * 0x400 + (code - 0xDC00))], none)
      else decodeUnpaired (text ++ [replacementChar]) code
  | none => decodeUnpaired text code

namespace Scanner

/-- The scanner before the first character. -/
def initial : Scanner := ⟨.beginValue, [], none⟩

/-- `pushParseState`: a new container, refused past `maxNestingDepth`. -/
def push (scanner : Scanner) (frame : Frame) (phase : Phase) : Except SyntaxError Scanner :=
  let stack := frame :: scanner.stack
  if stack.length ≤ maxNestingDepth then .ok { scanner with stack, phase } else .error .exceededMaxDepth

/-- A value has been read, and `stateEndValue` is next: a string where a key is read becomes
the key, a value joins the container on top, and with no container it is the top-level value. -/
def complete (scanner : Scanner) (value : Value) : Scanner :=
  match scanner.stack, value with
  | .objectKey members none :: rest, .string key =>
      { scanner with stack := .objectKey members (some key) :: rest, phase := .endValue }
  | .objectValue members (some key) :: rest, value =>
      { scanner with stack := .objectValue (members ++ [(key, value)]) none :: rest, phase := .endValue }
  | .arrayValue items :: rest, value =>
      { scanner with stack := .arrayValue (items ++ [value]) :: rest, phase := .endValue }
  | [], value => { scanner with result := some value, phase := .endValue }
  | _, _ => { scanner with phase := .endValue }

/-- `stateEndTop`: only white space may follow the top-level value. -/
def endTop (scanner : Scanner) (c : Char) : Except SyntaxError Scanner :=
  if isSpace c then .ok { scanner with phase := .endTop }
  else .error (.invalidCharacter c .afterTopLevelValue)

/-- `stateEndValue`: after a value, the container on top says what may follow; a closed
container is itself a value just read. -/
def endValue (scanner : Scanner) (c : Char) : Except SyntaxError Scanner :=
  match scanner.stack with
  | [] => scanner.endTop c
  | frame :: rest =>
      if isSpace c then .ok { scanner with phase := .endValue }
      else
        match frame with
        | .objectKey members (some key) =>
            if c = ':' then .ok { scanner with stack := .objectValue members (some key) :: rest, phase := .beginValue }
            else .error (.invalidCharacter c .afterObjectKey)
        | .objectKey _ none => .error (.invalidCharacter c .afterObjectKey)
        | .objectValue members none =>
            if c = ',' then .ok { scanner with stack := .objectKey members none :: rest, phase := .beginString }
            else if c = '}' then .ok (complete { scanner with stack := rest } (.object members))
            else .error (.invalidCharacter c .afterObjectKeyValue)
        | .objectValue _ (some _) => .error (.invalidCharacter c .afterObjectKeyValue)
        | .arrayValue items =>
            if c = ',' then .ok { scanner with phase := .beginValue }
            else if c = ']' then .ok (complete { scanner with stack := rest } (.array items))
            else .error (.invalidCharacter c .afterArrayElement)

/-- `stateBeginValue`. -/
def beginValue (scanner : Scanner) (c : Char) : Except SyntaxError Scanner :=
  if isSpace c then .ok scanner
  else
    match c with
    | '{' => scanner.push (.objectKey [] none) .beginStringOrEmpty
    | '[' => scanner.push (.arrayValue []) .beginValueOrEmpty
    | '"' => .ok { scanner with phase := .inString [] none }
    | '-' => .ok { scanner with phase := .neg ['-'] }
    | '0' => .ok { scanner with phase := .zero ['0'] }
    | 't' => .ok { scanner with phase := .literal "true".toList "rue".toList (.bool true) }
    | 'f' => .ok { scanner with phase := .literal "false".toList "alse".toList (.bool false) }
    | 'n' => .ok { scanner with phase := .literal "null".toList "ull".toList .null }
    | c =>
        if '1' ≤ c ∧ c ≤ '9' then .ok { scanner with phase := .one [c] }
        else .error (.invalidCharacter c .beginningOfValue)

/-- `stateBeginString`: an object key must be a string. -/
def beginString (scanner : Scanner) (c : Char) : Except SyntaxError Scanner :=
  if isSpace c then .ok scanner
  else if c = '"' then .ok { scanner with phase := .inString [] none }
  else .error (.invalidCharacter c .beginningOfObjectKey)

/-- `state0`: after the integer part, a fraction, an exponent, or the end of the number. -/
def zero (scanner : Scanner) (literal : List Char) (c : Char) : Except SyntaxError Scanner :=
  if c = '.' then .ok { scanner with phase := .dot (literal ++ [c]) }
  else if c = 'e' ∨ c = 'E' then .ok { scanner with phase := .exponent (literal ++ [c]) }
  else (scanner.complete (.number literal)).endValue c

/-- `state1`: more digits of the integer part, or on as `state0`. -/
def one (scanner : Scanner) (literal : List Char) (c : Char) : Except SyntaxError Scanner :=
  if c.isDigit then .ok { scanner with phase := .one (literal ++ [c]) } else scanner.zero literal c

/-- `stateNeg`. -/
def neg (scanner : Scanner) (literal : List Char) (c : Char) : Except SyntaxError Scanner :=
  if c = '0' then .ok { scanner with phase := .zero (literal ++ [c]) }
  else if '1' ≤ c ∧ c ≤ '9' then .ok { scanner with phase := .one (literal ++ [c]) }
  else .error (.invalidCharacter c .inNumericLiteral)

/-- `stateDot`. -/
def dot (scanner : Scanner) (literal : List Char) (c : Char) : Except SyntaxError Scanner :=
  if c.isDigit then .ok { scanner with phase := .dot0 (literal ++ [c]) }
  else .error (.invalidCharacter c .afterDecimalPoint)

/-- `stateDot0`. -/
def dot0 (scanner : Scanner) (literal : List Char) (c : Char) : Except SyntaxError Scanner :=
  if c.isDigit then .ok { scanner with phase := .dot0 (literal ++ [c]) }
  else if c = 'e' ∨ c = 'E' then .ok { scanner with phase := .exponent (literal ++ [c]) }
  else (scanner.complete (.number literal)).endValue c

/-- `stateESign`. -/
def exponentSign (scanner : Scanner) (literal : List Char) (c : Char) : Except SyntaxError Scanner :=
  if c.isDigit then .ok { scanner with phase := .exponent0 (literal ++ [c]) }
  else .error (.invalidCharacter c .inExponent)

/-- `stateE`. -/
def exponent (scanner : Scanner) (literal : List Char) (c : Char) : Except SyntaxError Scanner :=
  if c = '+' ∨ c = '-' then .ok { scanner with phase := .exponentSign (literal ++ [c]) }
  else scanner.exponentSign literal c

/-- `stateE0`. -/
def exponent0 (scanner : Scanner) (literal : List Char) (c : Char) : Except SyntaxError Scanner :=
  if c.isDigit then .ok { scanner with phase := .exponent0 (literal ++ [c]) }
  else (scanner.complete (.number literal)).endValue c

/-- `stateInString`: the closing quote, an escape, or a character kept as it is; control
characters are refused. -/
def inString (scanner : Scanner) (text : List Char) (high : Option Nat) (c : Char) :
    Except SyntaxError Scanner :=
  if c = '"' then .ok (scanner.complete (.string (settle text high)))
  else if c = '\\' then .ok { scanner with phase := .inStringEsc text high }
  else if c.toNat < 0x20 then .error (.invalidCharacter c .inStringLiteral)
  else .ok { scanner with phase := .inString (settle text high ++ [c]) none }

/-- `stateInStringEsc`. -/
def inStringEsc (scanner : Scanner) (text : List Char) (high : Option Nat) (c : Char) :
    Except SyntaxError Scanner :=
  match escaped c with
  | some decoded => .ok { scanner with phase := .inString (settle text high ++ [decoded]) none }
  | none =>
      if c = 'u' then .ok { scanner with phase := .inStringEscU text high 0 0 }
      else .error (.invalidCharacter c .inStringEscape)

/-- `stateInStringEscU` to `stateInStringEscU123`: four hexadecimal digits. -/
def inStringEscU (scanner : Scanner) (text : List Char) (high : Option Nat) (code count : Nat) (c : Char) :
    Except SyntaxError Scanner :=
  match hexDigit c with
  | some digit =>
      if count = 3 then
        let decoded := decodeEscape text high (16 * code + digit)
        .ok { scanner with phase := .inString decoded.1 decoded.2 }
      else .ok { scanner with phase := .inStringEscU text high (16 * code + digit) (count + 1) }
  | none => .error (.invalidCharacter c .inHexEscape)

/-- `stateT` to `stateNul`: the rest of `true`, `false` or `null`. -/
def literal (scanner : Scanner) (name rest : List Char) (value : Value) (c : Char) :
    Except SyntaxError Scanner :=
  match rest with
  | [expected] =>
      if c = expected then .ok (scanner.complete value)
      else .error (.invalidCharacter c (.inLiteral name expected))
  | expected :: later =>
      if c = expected then .ok { scanner with phase := .literal name later value }
      else .error (.invalidCharacter c (.inLiteral name expected))
  | [] => .ok (scanner.complete value)

/-- One step of the scanner: the step function of its phase on the next character. -/
def step (scanner : Scanner) (c : Char) : Except SyntaxError Scanner :=
  match scanner.phase with
  | .beginValueOrEmpty =>
      if isSpace c then .ok scanner
      else if c = ']' then scanner.endValue c
      else scanner.beginValue c
  | .beginValue => scanner.beginValue c
  | .beginStringOrEmpty =>
      if isSpace c then .ok scanner
      else if c = '}' then
        match scanner.stack with
        | .objectKey members _ :: rest => { scanner with stack := .objectValue members none :: rest }.endValue c
        | _ => scanner.endValue c
      else scanner.beginString c
  | .beginString => scanner.beginString c
  | .endValue => scanner.endValue c
  | .endTop => scanner.endTop c
  | .inString text high => scanner.inString text high c
  | .inStringEsc text high => scanner.inStringEsc text high c
  | .inStringEscU text high code count => scanner.inStringEscU text high code count c
  | .neg literal => scanner.neg literal c
  | .one literal => scanner.one literal c
  | .zero literal => scanner.zero literal c
  | .dot literal => scanner.dot literal c
  | .dot0 literal => scanner.dot0 literal c
  | .exponent literal => scanner.exponent literal c
  | .exponentSign literal => scanner.exponentSign literal c
  | .exponent0 literal => scanner.exponent0 literal c
  | .literal name rest value => scanner.literal name rest value c

/-- The scanner over a text, stopping at the first error. -/
def run (scanner : Scanner) : List Char → Except SyntaxError Scanner
  | [] => .ok scanner
  | c :: rest => scanner.step c >>= fun next => next.run rest

@[simp] theorem run_nil (scanner : Scanner) : scanner.run [] = .ok scanner := rfl

theorem run_cons_of_step {scanner next : Scanner} {c : Char} (stepped : scanner.step c = .ok next)
    (rest : List Char) : scanner.run (c :: rest) = next.run rest := by
  simp only [run, stepped]
  rfl

theorem run_singleton (scanner : Scanner) (c : Char) : scanner.run [c] = scanner.step c := by
  cases stepped : scanner.step c <;> simp only [run, stepped] <;> rfl

/-- What `complete` leaves does not depend on the phase it was called in. -/
theorem complete_phase (phase other : Phase) (stack : List Frame) (result : Option Value) (value : Value) :
    complete ⟨phase, stack, result⟩ value = complete ⟨other, stack, result⟩ value := by
  rcases stack with _ | ⟨frame, rest⟩
  · rfl
  · rcases frame with ⟨members, _ | key⟩ | ⟨members, _ | key⟩ | items <;> cases value <;> rfl

@[simp] theorem complete_phase_endValue (scanner : Scanner) (value : Value) :
    (scanner.complete value).phase = .endValue := by
  unfold complete
  split <;> rfl

theorem step_of_endValue {scanner : Scanner} (ended : scanner.phase = .endValue) (c : Char) :
    scanner.step c = scanner.endValue c := by
  simp [step, ended]

/-- A run over two texts is the run over the first, then from where it stopped the run over
the second: the run lemma of the scanner. -/
theorem run_append_of_run {scanner next : Scanner} {first : List Char} (ran : scanner.run first = .ok next)
    (second : List Char) : scanner.run (first ++ second) = next.run second := by
  induction first generalizing scanner with
  | nil =>
      cases ran
      rfl
  | cons c rest ih =>
      cases stepped : scanner.step c with
      | error fault =>
          rw [run, stepped] at ran
          cases ran
      | ok middle =>
          rw [run_cons_of_step stepped] at ran
          rw [List.cons_append, run_cons_of_step stepped, ih ran]

end Scanner

/-- `checkValid` and the value `Unmarshal` then decodes: the end of the input acts as a space
(`scanner.eof`), after which the scanner must be past a whole top-level value. -/
def parse (input : List Char) : Except SyntaxError Value := do
  let scanner ← Scanner.initial.run input
  let scanner ← scanner.step ' '
  match scanner.phase, scanner.result with
  | .endTop, some value => .ok value
  | _, _ => .error .unexpectedEnd

end Json
