import SchemaGen.Json.Fault
import SchemaGen.Json.Number
import SchemaGen.Text.Hexadecimal

/-! Reading JSON text. The reader is a machine with a stack that takes one character at a time, so a
text either is refused at a character, or ends too early, or has a value. Arrays and objects nest to
127 levels, surrogate escapes come in pairs, and numbers fit a double. Where the text must hold a
record, its members are checked as they come. -/

namespace SchemaGen.Json

set_option autoImplicit false

namespace Reader

/-! ## States -/

/-- An array or object under construction, its parts latest first. -/
inductive Frame where
  | array (items : List Json)
  | object (entries : List (String × Json))
  /-- An object that waits for the value of a key. -/
  | member (entries : List (String × Json)) (key : String)

/-- How far the spelling of a number has come. -/
inductive NumberPart where
  | sign | zero | whole | point | fraction | mark | markSign | exponent
  deriving DecidableEq, Repr

/-- How far the spelling of a character in a string has come. Digits are latest first. -/
inductive StringPart where
  | plain
  | escape
  | hex (digits : List Char)
  /-- After a leading surrogate, where a backslash must follow. -/
  | paired (lead : Nat)
  /-- After the backslash, where a `u` must follow. -/
  | pairedEscape (lead : Nat)
  | pairedHex (lead : Nat) (digits : List Char)

/-- What may come next. -/
inductive Mode where
  | value
  | firstItem
  | firstKey
  | key
  | colon (key : String)
  /-- A part is complete: a comma or the closing bracket. -/
  | next
  | done (value : Json)
  | word (rest : List Char) (value : Json)
  | number (part : NumberPart) (spelling : List Char)
  | string (isKey : Bool) (part : StringPart) (chars : List Char)

/-- Why a value is not what is asked for, if it is not. -/
abbrev Check := Json → Option String

/-- Anything is asked for. -/
def anything : Check := fun _ => none

/-- What is asked of a text besides being JSON. A check that refuses one array refuses every array,
and so for objects, as it is asked before they are read. -/
structure Outline where
  whole : Check := anything
  /-- For the value of a key of the outermost object. One without a check is passed over: its
  grammar counts, its limits do not. -/
  member : String → Option Check := fun _ => some anything
  /-- For an item of the outermost array. There is none where there is no check. -/
  item : Nat → Option Check := fun _ => some anything
  /-- Keys with a check may be repeated. -/
  repeats : Bool := true

structure State where
  stack : List Frame
  mode : Mode
  /-- Inside a value that is passed over. -/
  passing : Bool

def start : State := ⟨[], .value, false⟩

/-- Nested arrays and objects. -/
def maxDepth : Nat := 127

/-! ## Parts -/

/-- Blanks between tokens. -/
def isGap (c : Char) : Bool := c == ' ' || c == '\n' || c == '\t' || c == '\r'

/-- The check for the next value. -/
def checkOf (o : Outline) : List Frame → Check
  | [] => o.whole
  | [.member _ key] => (o.member key).getD anything
  | [.array items] => (o.item items.length).getD anything
  | _ => anything

/-- The outermost array has all the items that it may have. -/
def isFilled (o : Outline) : List Frame → Bool
  | [.array items] => (o.item items.length).isNone
  | _ => false

/-- The key of the outermost object stands there already, and may not be repeated. -/
def isRepeated (o : Outline) (s : State) (key : String) : Bool :=
  match s.stack with
  | [.object entries] => !o.repeats && (o.member key).isSome && entries.any (·.1 == key)
  | _ => false

/-- Hands a complete value to what waits for it. -/
def complete (o : Outline) (s : State) (v : Json) : Except Fault State :=
  match checkOf o s.stack v, s.stack with
  | some reason, _ => .error (.refused reason)
  | none, [] => .ok ⟨[], .done v, false⟩
  | none, .array items :: rest =>
    .ok ⟨.array (v :: items) :: rest, .next, s.passing && !rest.isEmpty⟩
  | none, .member entries key :: rest =>
    .ok ⟨.object ((key, v) :: entries) :: rest, .next, s.passing && !rest.isEmpty⟩
  | none, .object _ :: _ => .error .noColon

/-- Closes the innermost array or object. -/
def close (o : Outline) (s : State) : Except Fault State :=
  match s.stack with
  | .array items :: rest => complete o { s with stack := rest } (.array items.reverse)
  | .object entries :: rest => complete o { s with stack := rest } (ofEntries entries.reverse)
  | _ => .error .noValue

/-- The value of a finished number. -/
def finishNumber (o : Outline) (s : State) (spelling : List Char) : Except Fault State :=
  match Number.value? spelling.reverse with
  | some n => complete o s (.number n)
  | none => if s.passing then complete o s .null else .error .hugeNumber

/-! ## Refusals -/

/-- A fault that shows at a character, and the bytes that were looked at from that character on. -/
structure Refusal where
  fault : Fault
  reach : Nat := 1

/-- What one character makes of a state. -/
abbrev Step := Except Refusal State

def refuse (fault : Fault) (reach : Nat) : Step := .error ⟨fault, reach⟩

/-- A step that fails after it has looked at so many bytes. -/
def reaching (reach : Nat) (result : Except Fault State) : Step :=
  result.mapError fun fault => ⟨fault, reach⟩

/-- Opens an array or object, empty so far. -/
def enter (o : Outline) (s : State) (empty : Json) (frame : Frame) (mode : Mode) : Step :=
  match checkOf o s.stack empty with
  | some reason => refuse (.refused reason) 0
  | none =>
    if s.stack.length < maxDepth || s.passing then .ok { s with stack := frame :: s.stack, mode }
    else refuse .tooDeep 1

/-- A character after a complete key. -/
def stepColon (o : Outline) (s : State) (key : String) (c : Char) : Step :=
  if isRepeated o s key then refuse (.repeatedMember key) (if c = '\x7d' then 1 else 0)
  else if c = ':' then
    match s.stack with
    | .object entries :: rest =>
      .ok ⟨.member entries key :: rest, .value,
        s.passing || (rest.isEmpty && (o.member key).isNone)⟩
    | _ => refuse .noColon 1
  else refuse .noColon 1

/-! ## Strings -/

def addChar (s : State) (isKey : Bool) (chars : List Char) (c : Char) : State :=
  { s with mode := .string isKey .plain (c :: chars) }

/-- What a letter after a backslash stands for. -/
def escaped? : Char → Option Char
  | '"' => some '"'
  | '\\' => some '\\'
  | '/' => some '/'
  | 'b' => some '\x08'
  | 'f' => some '\x0c'
  | 'n' => some '\n'
  | 'r' => some '\r'
  | 't' => some '\t'
  | _ => none

/-- Four bytes have been taken. -/
def isFull (digits : List Char) : Bool :=
  4 ≤ digits.foldl (fun n c => n + c.utf8Size) 0

def isLead (u : Nat) : Bool := 0xD800 ≤ u && u ≤ 0xDBFF
def isTrail (u : Nat) : Bool := 0xDC00 ≤ u && u ≤ 0xDFFF

/-- The character of a pair of surrogates. -/
def pairChar (lead trail : Nat) : Char :=
  Char.ofNat ((lead - 0xD800) * 0x400 + (trail - 0xDC00) + 0x10000)

/-- The number of four bytes, if they are complete with the last of some characters. Digits are
latest first. -/
def hexUnit (digits : List Char) : Except Refusal Nat :=
  match Text.hexNumber? digits.reverse with
  | some u => .ok u
  | none =>
    .error ⟨.badEscape, 4 - (digits.drop 1).foldl (fun n c => n + c.utf8Size) 0⟩

/-- One character inside a string. -/
def stepString (o : Outline) (s : State) (isKey : Bool) (part : StringPart) (chars : List Char)
    (c : Char) : Step :=
  let go (part : StringPart) : Step := .ok { s with mode := .string isKey part chars }
  match part with
  | .plain =>
    if c = '"' then
      let text := String.ofList chars.reverse
      if isKey then .ok { s with mode := .colon text }
      else reaching 1 (complete o s (.string text))
    else if c = '\\' then go .escape
    else if c.toNat < 0x20 then refuse .controlCharacter (if s.passing then 0 else 1)
    else .ok (addChar s isKey chars c)
  | .escape =>
    if c = 'u' then go (.hex [])
    else match escaped? c with
      | some e => .ok (addChar s isKey chars e)
      | none => refuse .badEscape 1
  | .hex digits =>
    if isFull (c :: digits) then do
      let u ← hexUnit (c :: digits)
      if s.passing then return addChar s isKey chars '\ufffd'
      else if isTrail u then refuse .loneSurrogate 1
      else if isLead u then go (.paired u)
      else return addChar s isKey chars (Char.ofNat u)
    else go (.hex (c :: digits))
  | .paired lead => if c = '\\' then go (.pairedEscape lead) else refuse .unpairedSurrogate 1
  | .pairedEscape lead => if c = 'u' then go (.pairedHex lead []) else refuse .unpairedSurrogate 1
  | .pairedHex lead digits =>
    if isFull (c :: digits) then do
      let u ← hexUnit (c :: digits)
      if isTrail u then return addChar s isKey chars (pairChar lead u)
      else refuse .loneSurrogate 1
    else go (.pairedHex lead (c :: digits))

/-! ## Steps -/

/-- Where the spelling of a number goes on with `c`, if it does. -/
def NumberPart.next? (part : NumberPart) (c : Char) : Option NumberPart :=
  match part with
  | .sign => if c = '0' then some .zero else if c.isDigit then some .whole else none
  | .zero => if c = '.' then some .point else if c = 'e' || c = 'E' then some .mark else none
  | .whole =>
    if c.isDigit then some .whole
    else if c = '.' then some .point
    else if c = 'e' || c = 'E' then some .mark else none
  | .point => if c.isDigit then some .fraction else none
  | .fraction =>
    if c.isDigit then some .fraction else if c = 'e' || c = 'E' then some .mark else none
  | .mark =>
    if c.isDigit then some .exponent else if c = '+' || c = '-' then some .markSign else none
  | .markSign => if c.isDigit then some .exponent else none
  | .exponent => if c.isDigit then some .exponent else none

/-- The spelling may end here. -/
def NumberPart.isComplete : NumberPart → Bool
  | .zero | .whole | .fraction | .exponent => true
  | _ => false

/-- Starts a value with a character that is no blank. -/
def beginValue (o : Outline) (s : State) (c : Char) : Step :=
  if c = '[' then enter o s (.array []) (.array []) .firstItem
  else if c = '\x7b' then enter o s (.object []) (.object []) .firstKey
  else if c = '"' then .ok { s with mode := .string false .plain [] }
  else if c = '-' then .ok { s with mode := .number .sign [c] }
  else if c = '0' then .ok { s with mode := .number .zero [c] }
  else if c.isDigit then .ok { s with mode := .number .whole [c] }
  else if c = 't' then .ok { s with mode := .word ['r', 'u', 'e'] (.bool true) }
  else if c = 'f' then .ok { s with mode := .word ['a', 'l', 's', 'e'] (.bool false) }
  else if c = 'n' then .ok { s with mode := .word ['u', 'l', 'l'] .null }
  else refuse .noValue 1

/-- A character that is no blank where a value should stand. In an array, a comma stands before. -/
def stepValue (o : Outline) (s : State) (c : Char) : Step :=
  match s.stack with
  | .array _ :: _ =>
    if c = ']' && !s.passing then refuse .surplusComma 1
    else if isFilled o s.stack then refuse .surplusText 1
    else beginValue o s c
  | _ => beginValue o s c

/-- A character that is no blank where a key should stand, behind a comma. -/
def stepKey (s : State) (c : Char) : Step :=
  if c = '"' then .ok { s with mode := .string true .plain [] }
  else refuse (if c = '\x7d' && !s.passing then .surplusComma else .keyNotString) 1

/-- A character after a complete value. -/
def stepNext (o : Outline) (s : State) (c : Char) : Step :=
  if isGap c then .ok s
  else match s.mode, s.stack with
    | .next, .array _ :: _ =>
      if c = ',' then .ok { s with mode := .value }
      else if c = ']' then reaching 1 (close o s)
      else refuse (if isFilled o s.stack then .surplusText else .noArrayMark) 1
    | .next, .object _ :: _ =>
      if c = ',' then .ok { s with mode := .key }
      else if c = '\x7d' then reaching 1 (close o s)
      else refuse .noObjectMark 1
    | _, _ => refuse .surplusText 1

/-- A character in a number. -/
def stepNumber (o : Outline) (s : State) (part : NumberPart) (spelling : List Char) (c : Char) :
    Step :=
  match part.next? c with
  | some part =>
    if part = .exponent && !s.passing && Number.outgrows (c :: spelling).reverse then
      refuse .hugeNumber 1
    else .ok { s with mode := .number part (c :: spelling) }
  | none =>
    if !part.isComplete || (part = .zero && c.isDigit) then refuse .badNumber 1
    else do stepNext o (← reaching 0 (finishNumber o s spelling)) c

/-- One character. -/
def step (o : Outline) (s : State) (c : Char) : Step :=
  match s.mode with
  | .value => if isGap c then .ok s else stepValue o s c
  | .firstItem =>
    if isGap c then .ok s else if c = ']' then reaching 1 (close o s) else beginValue o s c
  | .firstKey =>
    if isGap c then .ok s
    else if c = '\x7d' then reaching 1 (close o s)
    else if c = '"' then .ok { s with mode := .string true .plain [] }
    else refuse .keyNotString 1
  | .key => if isGap c then .ok s else stepKey s c
  | .colon key => if isGap c then .ok s else stepColon o s key c
  | .next | .done _ => stepNext o s c
  | .word [] v => do stepNext o (← reaching 0 (complete o s v)) c
  | .word [last] v => if c = last then reaching 1 (complete o s v) else refuse .unknownWord 1
  | .word (first :: rest) v =>
    if c = first then .ok { s with mode := .word rest v } else refuse .unknownWord 1
  | .number part spelling => stepNumber o s part spelling c
  | .string isKey part chars => stepString o s isKey part chars c

/-! ## Runs -/

/-- What is missing at the end of the text. -/
def missing (o : Outline) (s : State) : Fault :=
  match s.mode, s.stack with
  | .firstItem, _ | .next, .array _ :: _ => .openArray
  | .firstKey, _ | .next, _ => .openObject
  | .key, _ => if s.passing then .openObject else .openValue
  | .colon key, _ => if isRepeated o s key then .repeatedMember key else .openObject
  | .string .., _ => .openString
  | .number .., _ => if s.passing then .badNumber else .openValue
  | .value, stack => if isFilled o stack then .surplusText else .openValue
  | _, _ => .openValue

/-- The end of the text. -/
def finish (o : Outline) (s : State) : Except Fault Json := do
  let s ← match s.mode with
    | .number part spelling => if part.isComplete then finishNumber o s spelling else .ok s
    | _ => .ok s
  match s.mode with
  | .done v => return v
  | _ => throw (missing o s)

/-- Takes the characters of a text, of which so many bytes have been taken. -/
def feed (o : Outline) (s : State) (bytes : Nat) : List Char → Except (Fault × Nat) Json
  | [] => (finish o s).mapError fun fault => (fault, bytes)
  | c :: cs =>
    match step o s c with
    | .ok s => feed o s (bytes + c.utf8Size) cs
    | .error e => .error (e.fault, bytes + e.reach)

/-- Reads a whole text. -/
def run (o : Outline) (text : List Char) : Except ReadError Json :=
  (feed o start 0 text).mapError fun (fault, bytes) =>
    ⟨fault, (⟨1, 0⟩ : Text.Place).advance text bytes⟩

end Reader

/-! ## Readers -/

/-- The value of a text. -/
def parse (text : String) : Except ReadError Json := Reader.run {} text.toList

/-- The value of a text that has an outline. -/
def parseOutlined (o : Reader.Outline) (text : String) : Except ReadError Json :=
  Reader.run o text.toList

end SchemaGen.Json
