import SchemaGen.Text.Place

/-! Why a text is not JSON, or not the JSON that is asked for, and where this shows. -/

namespace SchemaGen.Json

set_option autoImplicit false

/-! ## Faults -/

/-- What is wrong with a text. -/
inductive Fault where
  /-- It ends within an array. -/
  | openArray
  | openObject
  | openString
  /-- It ends where a value should stand, or within a word or a number. -/
  | openValue
  | noColon
  /-- Neither a comma nor a closing bracket follows a part. -/
  | noArrayMark
  | noObjectMark
  | unknownWord
  | noValue
  | badEscape
  | badNumber
  /-- A number is too great for a double. -/
  | hugeNumber
  | controlCharacter
  | keyNotString
  /-- A surrogate has no partner that follows it as an escape. -/
  | loneSurrogate
  | unpairedSurrogate
  | surplusComma
  | surplusText
  | tooDeep
  /-- A member that may stand once stands again. -/
  | repeatedMember (key : String)
  /-- A value is not what is asked for. -/
  | refused (reason : String)
  deriving DecidableEq, Repr

namespace Fault

/-- The text ends too early. -/
def isEnd : Fault → Bool
  | .openArray | .openObject | .openString | .openValue => true
  | _ => false

def message : Fault → String
  | .openArray => "EOF while parsing a list"
  | .openObject => "EOF while parsing an object"
  | .openString => "EOF while parsing a string"
  | .openValue => "EOF while parsing a value"
  | .noColon => "expected `:`"
  | .noArrayMark => "expected `,` or `]`"
  | .noObjectMark => "expected `,` or `\x7d`"
  | .unknownWord => "expected ident"
  | .noValue => "expected value"
  | .badEscape => "invalid escape"
  | .badNumber => "invalid number"
  | .hugeNumber => "number out of range"
  | .controlCharacter =>
    "control character (\\u0000-\\u001F) found while parsing a string"
  | .keyNotString => "key must be a string"
  | .loneSurrogate => "lone leading surrogate in hex escape"
  | .unpairedSurrogate => "unexpected end of hex escape"
  | .surplusComma => "trailing comma"
  | .surplusText => "trailing characters"
  | .tooDeep => "recursion limit exceeded"
  | .repeatedMember key => "duplicate field `" ++ key ++ "`"
  | .refused reason => reason

end Fault

/-! ## Errors -/

/-- A fault, and how far the text was looked at when it showed. -/
structure ReadError where
  fault : Fault
  place : Text.Place
  deriving DecidableEq, Repr

def ReadError.message (e : ReadError) : String := e.fault.message ++ " at " ++ e.place.describe

end SchemaGen.Json
