import ArithQuiz.Binary64.Shortest
import ArithQuiz.Json.Value
import ArithQuiz.Text.Printable

/-!
# Why JSON could not be read

A `Json.Error` is a problem and, when read from text, the place where reading
stopped: line (from 1) and column (bytes read on that line, 0 at its start).
Problems are syntax faults of the text, or mismatches between a value and the
type it was read as. `Json.Error.message` words them all; a place adds
` at line L column C`.
-/

set_option autoImplicit false

namespace ArithQuiz.Json

/-- A fault in the syntax of JSON text. -/
inductive TextFault
  | eofInList
  | eofInObject
  | eofInString
  | eofInValue
  | expectedColon
  | expectedListCommaOrEnd
  | expectedObjectCommaOrEnd
  | expectedIdent
  | expectedValue
  | invalidEscape
  | invalidNumber
  | numberOutOfRange
  | controlCharacter
  | keyMustBeString
  | loneSurrogate
  | trailingComma
  | trailingCharacters
  | unexpectedEndOfHexEscape
  | recursionLimit
deriving DecidableEq, Inhabited

/-- The words for a syntax fault. -/
def TextFault.message : TextFault → String
  | eofInList => "EOF while parsing a list"
  | eofInObject => "EOF while parsing an object"
  | eofInString => "EOF while parsing a string"
  | eofInValue => "EOF while parsing a value"
  | expectedColon => "expected `:`"
  | expectedListCommaOrEnd => "expected `,` or `]`"
  | expectedObjectCommaOrEnd => "expected `,` or `\x7d`"
  | expectedIdent => "expected ident"
  | expectedValue => "expected value"
  | invalidEscape => "invalid escape"
  | invalidNumber => "invalid number"
  | numberOutOfRange => "number out of range"
  | controlCharacter => "control character (\\u0000-\\u001F) found while parsing a string"
  | keyMustBeString => "key must be a string"
  | loneSurrogate => "lone leading surrogate in hex escape"
  | trailingComma => "trailing comma"
  | trailingCharacters => "trailing characters"
  | unexpectedEndOfHexEscape => "unexpected end of hex escape"
  | recursionLimit => "recursion limit exceeded"

/-- What was found where a value of another type was expected. -/
inductive Found
  | null
  | bool (b : Bool)
  | unsigned (n : Nat)
  | signed (n : Int)
  | float (x : Binary64)
  | string (s : String)
  | seq
  | map
deriving Inhabited

/-- The hexadecimal digits of a number, lower case, without leading zeros. -/
def hexDigits (n : Nat) : String := String.ofList (Nat.toDigits 16 n)

/-- One character of a quoted text in a message: the quote, the backslash,
tab, line feed, carriage return and NUL by their short escapes, the other
characters of `Text.isEscaped` by their code point, all else as it is. -/
def quoteChar (c : Char) : String :=
  match c with
  | '"' => "\\\""
  | '\\' => "\\\\"
  | '\n' => "\\n"
  | '\r' => "\\r"
  | '\t' => "\\t"
  | _ =>
    if c.toNat = 0 then "\\0"
    else if Text.isEscaped c then "\\u\x7b" ++ hexDigits c.toNat ++ "\x7d"
    else c.toString

/-- A text in double quotes, escaped by `quoteChar`. -/
def quote (s : String) : String := "\"" ++ String.join (s.toList.map quoteChar) ++ "\""

/-- How a found value is named in a message. -/
def Found.describe : Found → String
  | null => "null"
  | bool b => "boolean `" ++ toString b ++ "`"
  | unsigned n => "integer `" ++ toString n ++ "`"
  | signed n => "integer `" ++ toString n ++ "`"
  | float x => "floating point `" ++ x.jsonText ++ "`"
  | string s => "string " ++ quote s
  | seq => "sequence"
  | map => "map"

/-- The found value of a number. -/
def Found.ofNumber : Number → Found
  | .nat n => unsigned n
  | .negInt n => signed n
  | .float x => float x

/-- Names in backquotes, as a message lists the variants it expected. -/
def listVariants : List String → String
  | [] => "there are no variants"
  | [a] => "`" ++ a ++ "`"
  | [a, b] => "`" ++ a ++ "` or `" ++ b ++ "`"
  | names => "one of " ++ ", ".intercalate (names.map fun n => "`" ++ n ++ "`")

/-- Why reading failed. -/
inductive Problem
  | malformed (f : TextFault)
  | invalidType (found : Found) (expected : String)
  | invalidValue (found : Found) (expected : String)
  | invalidLength (n : Nat) (expected : String)
  | unknownVariant (name : String) (expected : List String)
  | missingField (name : String)
  | duplicateField (name : String)
  | custom (message : String)
deriving Inhabited

/-- The words for a problem. -/
def Problem.message : Problem → String
  | malformed f => f.message
  | invalidType f e => "invalid type: " ++ f.describe ++ ", expected " ++ e
  | invalidValue f e => "invalid value: " ++ f.describe ++ ", expected " ++ e
  | invalidLength n e => "invalid length " ++ toString n ++ ", expected " ++ e
  | unknownVariant n vs => "unknown variant `" ++ n ++ "`, expected " ++ listVariants vs
  | missingField n => "missing field `" ++ n ++ "`"
  | duplicateField n => "duplicate field `" ++ n ++ "`"
  | custom m => m

/-- A line (from 1) and column (bytes read on the line). -/
structure Position where
  /-- The line, counted from 1. -/
  line : Nat
  /-- Bytes read on the line. -/
  column : Nat
deriving DecidableEq, Inhabited

/-- A problem, with the place where reading stopped when read from text. -/
structure Error where
  /-- What went wrong. -/
  problem : Problem
  /-- Where, when known. -/
  position : Option Position := none
deriving Inhabited

/-- The words for an error, its place appended. -/
def Error.message (e : Error) : String :=
  match e.position with
  | some p => e.problem.message ++ " at line " ++ toString p.line ++ " column " ++ toString p.column
  | none => e.problem.message

end ArithQuiz.Json
