import ArithQuiz.Json.Value
import ArithQuiz.Binary64.Shortest

/-!
# Writing JSON text

Two layouts of the same value: `Value.compact` with no blanks at all, and
`Value.pretty` with one item or member per line, indented by two spaces per
level, a blank after each colon, and empty arrays and objects as `[]` and
`{}`. Members appear in the order held. Strings escape the quote, the
backslash and the control characters (`\n`, `\t`, … or `\u00XX`), and nothing
else; doubles use `Layout.json`.
-/

set_option autoImplicit false

namespace ArithQuiz.Json

/-- The escaped form of one character inside a string. -/
def escapeChar (c : Char) : String :=
  match c with
  | '"' => "\\\""
  | '\\' => "\\\\"
  | '\n' => "\\n"
  | '\r' => "\\r"
  | '\t' => "\\t"
  | _ =>
    if c.toNat = 8 then "\\b"
    else if c.toNat = 12 then "\\f"
    else if c.toNat < 0x20 then
      let hex := String.ofList (Nat.toDigits 16 c.toNat)
      "\\u" ++ String.ofList (List.replicate (4 - hex.length) '0') ++ hex
    else c.toString

/-- A string in quotes, escaped. -/
def quoteString (s : String) : String := "\"" ++ String.join (s.toList.map escapeChar) ++ "\""

/-- The text of a number. -/
def Number.toText : Number → String
  | .nat n => toString n
  | .negInt n => toString n
  | .float x => x.jsonText

namespace Value

/-! Both layouts append to the text written so far, `out`, so that writing a
value takes time linear in its text. -/

mutual
/-- Appends the compact text of a value to `out`. -/
def writeCompact (out : String) : Value → String
  | null => out ++ "null"
  | bool b => out ++ (if b then "true" else "false")
  | number n => out ++ n.toText
  | string s => out ++ quoteString s
  | array items => writeItems (out ++ "[") items ++ "]"
  | object members => writeMembers (out ++ "\x7b") members ++ "\x7d"

/-- Appends items separated by commas. -/
def writeItems (out : String) : List Value → String
  | [] => out
  | [v] => writeCompact out v
  | v :: vs => writeItems (writeCompact out v ++ ",") vs

/-- Appends members separated by commas. -/
def writeMembers (out : String) : List (String × Value) → String
  | [] => out
  | [(k, v)] => writeCompact (out ++ quoteString k ++ ":") v
  | (k, v) :: ms => writeMembers (writeCompact (out ++ quoteString k ++ ":") v ++ ",") ms
end

/-- The compact text of a value. -/
def compact (v : Value) : String := writeCompact "" v

mutual
/-- Writing after `out` is writing alone, then appending. -/
theorem writeCompact_eq (out : String) : ∀ v : Value, writeCompact out v = out ++ compact v
  | null => by simp [compact, writeCompact]
  | bool b => by simp [compact, writeCompact]
  | number n => by simp [compact, writeCompact]
  | string s => by simp [compact, writeCompact]
  | array items => by
    simp only [compact, writeCompact]
    rw [writeItems_eq (out ++ "["), writeItems_eq ("" ++ "[")]
    simp [String.append_assoc]
  | object members => by
    simp only [compact, writeCompact]
    rw [writeMembers_eq (out ++ "\x7b"), writeMembers_eq ("" ++ "\x7b")]
    simp [String.append_assoc]

/-- Items written after `out` are `out` followed by the items alone. -/
theorem writeItems_eq (out : String) : ∀ vs : List Value, writeItems out vs = out ++ writeItems "" vs
  | [] => by simp [writeItems]
  | [v] => by
    simp only [writeItems]
    rw [writeCompact_eq out v, writeCompact_eq "" v]
    simp
  | v :: w :: vs => by
    simp only [writeItems]
    rw [writeItems_eq (writeCompact out v ++ ","), writeItems_eq (writeCompact "" v ++ ","),
      writeCompact_eq out v, writeCompact_eq "" v]
    simp [String.append_assoc]

/-- Members written after `out` are `out` followed by the members alone. -/
theorem writeMembers_eq (out : String) :
    ∀ ms : List (String × Value), writeMembers out ms = out ++ writeMembers "" ms
  | [] => by simp [writeMembers]
  | [(k, v)] => by
    simp only [writeMembers]
    rw [writeCompact_eq (out ++ quoteString k ++ ":") v, writeCompact_eq ("" ++ quoteString k ++ ":") v]
    simp [String.append_assoc]
  | (k, v) :: m :: ms => by
    simp only [writeMembers]
    rw [writeMembers_eq (writeCompact (out ++ quoteString k ++ ":") v ++ ","),
      writeMembers_eq (writeCompact ("" ++ quoteString k ++ ":") v ++ ","),
      writeCompact_eq (out ++ quoteString k ++ ":") v, writeCompact_eq ("" ++ quoteString k ++ ":") v]
    simp [String.append_assoc]
end

/-- Two spaces per level. -/
def indent (level : Nat) : String := String.ofList (List.replicate (2 * level) ' ')

mutual
/-- Appends the indented text of a value whose first line starts at `level`. -/
def writePretty (out : String) (level : Nat) : Value → String
  | array [] => out ++ "[]"
  | array items =>
    writePrettyItems (out ++ "[\n") (level + 1) items ++ "\n" ++ indent level ++ "]"
  | object [] => out ++ "{}"
  | object members =>
    writePrettyMembers (out ++ "\x7b\n") (level + 1) members ++ "\n" ++ indent level ++ "\x7d"
  | null => out ++ "null"
  | bool b => out ++ (if b then "true" else "false")
  | number n => out ++ n.toText
  | string s => out ++ quoteString s

/-- Appends items one per line at `level`. -/
def writePrettyItems (out : String) (level : Nat) : List Value → String
  | [] => out
  | [v] => writePretty (out ++ indent level) level v
  | v :: vs => writePrettyItems (writePretty (out ++ indent level) level v ++ ",\n") level vs

/-- Appends members one per line at `level`. -/
def writePrettyMembers (out : String) (level : Nat) : List (String × Value) → String
  | [] => out
  | [(k, v)] => writePretty (out ++ indent level ++ quoteString k ++ ": ") level v
  | (k, v) :: ms =>
    writePrettyMembers (writePretty (out ++ indent level ++ quoteString k ++ ": ") level v ++ ",\n")
      level ms
end

/-- The indented text of a value whose first line starts at `level`. -/
def pretty (level : Nat) (v : Value) : String := writePretty "" level v

mutual
/-- Writing after `out` is writing alone, then appending. -/
theorem writePretty_eq (out : String) (level : Nat) :
    ∀ v : Value, writePretty out level v = out ++ pretty level v
  | array [] => by simp [pretty, writePretty]
  | array (i :: items) => by
    simp only [pretty, writePretty]
    rw [writePrettyItems_eq (out ++ "[\n"), writePrettyItems_eq ("" ++ "[\n")]
    simp [String.append_assoc]
  | object [] => by simp [pretty, writePretty]
  | object (m :: members) => by
    simp only [pretty, writePretty]
    rw [writePrettyMembers_eq (out ++ "\x7b\n"), writePrettyMembers_eq ("" ++ "\x7b\n")]
    simp [String.append_assoc]
  | null => by simp [pretty, writePretty]
  | bool b => by simp [pretty, writePretty]
  | number n => by simp [pretty, writePretty]
  | string s => by simp [pretty, writePretty]

/-- Items written after `out` are `out` followed by the items alone. -/
theorem writePrettyItems_eq (out : String) (level : Nat) :
    ∀ vs : List Value, writePrettyItems out level vs = out ++ writePrettyItems "" level vs
  | [] => by simp [writePrettyItems]
  | [v] => by
    simp only [writePrettyItems]
    rw [writePretty_eq (out ++ indent level) level v, writePretty_eq ("" ++ indent level) level v]
    simp [String.append_assoc]
  | v :: w :: vs => by
    simp only [writePrettyItems]
    rw [writePrettyItems_eq (writePretty (out ++ indent level) level v ++ ",\n"),
      writePrettyItems_eq (writePretty ("" ++ indent level) level v ++ ",\n"),
      writePretty_eq (out ++ indent level) level v, writePretty_eq ("" ++ indent level) level v]
    simp [String.append_assoc]

/-- Members written after `out` are `out` followed by the members alone. -/
theorem writePrettyMembers_eq (out : String) (level : Nat) :
    ∀ ms : List (String × Value),
      writePrettyMembers out level ms = out ++ writePrettyMembers "" level ms
  | [] => by simp [writePrettyMembers]
  | [(k, v)] => by
    simp only [writePrettyMembers]
    rw [writePretty_eq (out ++ indent level ++ quoteString k ++ ": ") level v,
      writePretty_eq ("" ++ indent level ++ quoteString k ++ ": ") level v]
    simp [String.append_assoc]
  | (k, v) :: m :: ms => by
    simp only [writePrettyMembers]
    rw [writePrettyMembers_eq (writePretty (out ++ indent level ++ quoteString k ++ ": ") level v ++ ",\n"),
      writePrettyMembers_eq (writePretty ("" ++ indent level ++ quoteString k ++ ": ") level v ++ ",\n"),
      writePretty_eq (out ++ indent level ++ quoteString k ++ ": ") level v,
      writePretty_eq ("" ++ indent level ++ quoteString k ++ ": ") level v]
    simp [String.append_assoc]
end

end Value

end ArithQuiz.Json
