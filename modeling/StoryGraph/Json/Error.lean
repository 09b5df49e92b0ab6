import StoryGraph.Numeric.Digits
import StoryGraph.Text.Bytes

namespace StoryGraph.Json

open Text (byteCount)

inductive Cause where
  | endOfValue
  | endOfList
  | endOfObject
  | endOfString
  | expectedValue
  | expectedIdentifier
  | expectedColon
  | expectedListEnd
  | expectedObjectEnd
  | trailingComma
  | trailingCharacters
  | keyNotString
  | invalidNumber
  | numberOutOfRange
  | invalidEscape
  | loneSurrogate
  | unexpectedEndOfEscape
  | controlCharacter
  | recursionLimit
  deriving DecidableEq, Repr, Inhabited

namespace Cause

def message : Cause → String
  | endOfValue => "EOF while parsing a value"
  | endOfList => "EOF while parsing a list"
  | endOfObject => "EOF while parsing an object"
  | endOfString => "EOF while parsing a string"
  | expectedValue => "expected value"
  | expectedIdentifier => "expected ident"
  | expectedColon => "expected `:`"
  | expectedListEnd => "expected `,` or `]`"
  | expectedObjectEnd => "expected `,` or `\x7d`"
  | trailingComma => "trailing comma"
  | trailingCharacters => "trailing characters"
  | keyNotString => "key must be a string"
  | invalidNumber => "invalid number"
  | numberOutOfRange => "number out of range"
  | invalidEscape => "invalid escape"
  | loneSurrogate => "lone leading surrogate in hex escape"
  | unexpectedEndOfEscape => "unexpected end of hex escape"
  | controlCharacter => "control character (\\u0000-\\u001F) found while parsing a string"
  | recursionLimit => "recursion limit exceeded"

end Cause

/-- A cause, what was left of the text when it arose, and how many further bytes count as read. -/
structure Fault where
  cause : Cause
  rest : List Char
  ahead : Nat
  deriving DecidableEq, Repr, Inhabited

structure Position where
  line : Nat
  column : Nat
  deriving DecidableEq, Repr, Inhabited

namespace Position

def step (p : Position) (c : Char) : Position :=
  if c = '\n' then ⟨p.line + 1, 0⟩ else ⟨p.line, p.column + c.utf8Size⟩

/-- The position after `n` bytes. It may lie inside a character, and it is the end of the text if
that has no more than `n` bytes. -/
def advance (p : Position) : List Char → Nat → Position
  | [], _ => p
  | c :: cs, n =>
    if c.utf8Size ≤ n then (p.step c).advance cs (n - c.utf8Size) else ⟨p.line, p.column + n⟩

def start : Position := ⟨1, 0⟩

end Position

structure SyntaxError where
  cause : Cause
  position : Position
  deriving DecidableEq, Repr, Inhabited

namespace SyntaxError

def message (e : SyntaxError) : String :=
  s!"{e.cause.message} at line {e.position.line} column {e.position.column}"

end SyntaxError

def Fault.locate (fault : Fault) (text : List Char) : SyntaxError :=
  ⟨fault.cause, Position.start.advance text (byteCount text - byteCount fault.rest + fault.ahead)⟩

end StoryGraph.Json
