import ArithQuiz.Json.Decode

/-!
# Decoding straight from JSON text

`TextSource` reads a text token by token while a typed decoder asks for it,
so the first fault met, of the text or of the types, is the one reported,
with the place where reading stopped. Blanks are skipped before each token.
Inside an array or object the first item or key is told apart from later
ones, which must follow a comma.

`decodeText` runs a decoder on a whole text and refuses anything but blanks
after the value.
-/

set_option autoImplicit false

namespace ArithQuiz.Json

/-- A text being read: all of it (to place errors), the rest not yet read,
and for each open array or object whether its first item is still to come. -/
structure TextSource where
  /-- The whole text. -/
  text : List Char
  /-- The part not yet read. -/
  rest : List Char
  /-- For each open array or object, innermost first: no item read yet. -/
  firsts : List Bool := []

namespace TextSource

/-- The error for a scanner fault, placed in the text. -/
def faultError (s : TextSource) (f : Fault) : Error :=
  ⟨.malformed f.kind, some (positionIn s.text f.rest f.readAhead)⟩

/-- Fails with a fault of the text. -/
def fault {α : Type} (f : Fault) : Decoder TextSource α := do
  throw ((← get).faultError f)

/-- Fails with a fault about the next unread character. -/
def faultAhead {α : Type} (k : TextFault) : Decoder TextSource α := do
  fault ⟨k, (← get).rest, 1⟩

/-- Skips blanks and returns what follows. -/
def blanks : Decoder TextSource (List Char) := do
  let s ← get
  let r := skipBlanks s.rest
  set { s with rest := r }
  pure r

/-- Moves past a token that ended where `rest` starts. -/
def resume (rest : List Char) : Decoder TextSource Unit :=
  modify fun s => { s with rest := rest }

/-- Runs a scanner on the unread text. -/
def scan {α : Type} (scanner : List Char → Scan α) (cs : List Char) : Decoder TextSource α := do
  match scanner cs with
  | .ok (a, r) => do resume r; pure a
  | .error f => fault f

/-- Whether the innermost open array or object has no item read yet. -/
def isFirst : Decoder TextSource Bool := do
  pure ((← get).firsts.headD true)

/-- Records that an item of the innermost open array or object was met. -/
def markNotFirst : Decoder TextSource Unit :=
  modify fun s => { s with firsts := false :: s.firsts.tail }

/-- Opens an array or object: moves past its bracket. -/
def enter : Decoder TextSource Unit :=
  modify fun s => { s with rest := s.rest.tail, firsts := true :: s.firsts }

/-- Forgets the innermost open array or object. -/
def leave : Decoder TextSource Unit :=
  modify fun s => { s with firsts := s.firsts.tail }

/-- The kind of the next value. -/
def peekKind : Decoder TextSource Kind := do
  match ← blanks with
  | [] => pure .eof
  | c :: _ =>
    if c = 'n' then pure .null
    else if c = 't' ∨ c = 'f' then pure .bool
    else if c = '-' ∨ c.isDigit then pure .number
    else if c = '"' then pure .string
    else if c = '[' then pure .seq
    else if c = '{' then pure .map
    else pure .other

/-- Reads a scalar, or reports an array or object. -/
def readScalar : Decoder TextSource Scalar := do
  match ← blanks with
  | [] => faultAhead .eofInValue
  | c :: rest =>
    if c = 'n' then do scan (scanWord ['u', 'l', 'l']) rest; pure .null
    else if c = 't' then do scan (scanWord ['r', 'u', 'e']) rest; pure (.bool true)
    else if c = 'f' then do scan (scanWord ['a', 'l', 's', 'e']) rest; pure (.bool false)
    else if c = '-' then .number <$> scan (scanNumber false) rest
    else if c.isDigit then .number <$> scan (scanNumber true) (c :: rest)
    else if c = '"' then .string <$> scan scanString rest
    else if c = '[' then pure .seq
    else if c = '{' then pure .map
    else faultAhead .expectedValue

/-- Whether another item follows in the innermost open array. -/
def readNextItem : Decoder TextSource Bool := do
  let first ← isFirst
  match ← blanks with
  | [] => faultAhead .eofInList
  | ']' :: _ => pure false
  | c :: rest =>
    if c = ',' ∧ !first then do
      resume rest
      match ← blanks with
      | ']' :: _ => faultAhead .trailingComma
      | [] => faultAhead .eofInValue
      | _ => pure true
    else if first then do markNotFirst; pure true
    else faultAhead .expectedListCommaOrEnd

/-- Closes the innermost open array: its `]` must follow. -/
def readLeaveSeq : Decoder TextSource Unit := do
  leave
  match ← blanks with
  | ']' :: rest => resume rest
  | ',' :: rest => do
    resume rest
    match ← blanks with
    | ']' :: _ => faultAhead .trailingComma
    | _ => faultAhead .trailingCharacters
  | [] => faultAhead .eofInList
  | _ => faultAhead .trailingCharacters

/-- The next key of the innermost open object. -/
def readNextKey : Decoder TextSource (Option String) := do
  let first ← isFirst
  match ← blanks with
  | [] => faultAhead .eofInObject
  | '}' :: _ => pure none
  | c :: rest =>
    if c = ',' ∧ !first then do
      resume rest
      match ← blanks with
      | '"' :: r => some <$> scan scanString r
      | '}' :: _ => faultAhead .trailingComma
      | [] => faultAhead .eofInValue
      | _ => faultAhead .keyMustBeString
    else if first then do
      markNotFirst
      if c = '"' then some <$> scan scanString rest else faultAhead .keyMustBeString
    else faultAhead .expectedObjectCommaOrEnd

/-- The colon between a key and its value. -/
def readColon : Decoder TextSource Unit := do
  match ← blanks with
  | ':' :: rest => resume rest
  | [] => faultAhead .eofInObject
  | _ => faultAhead .expectedColon

/-- Closes the innermost open object: its `}` must follow. -/
def readLeaveMap : Decoder TextSource Unit := do
  leave
  match ← blanks with
  | '}' :: rest => resume rest
  | ',' :: _ => faultAhead .trailingComma
  | [] => faultAhead .eofInObject
  | _ => faultAhead .trailingCharacters

/-- Places an unplaced error where reading stopped. -/
def place {α : Type} (d : Decoder TextSource α) : Decoder TextSource α :=
  tryCatch d fun e => do
    match e.position with
    | some _ => throw e
    | none =>
      let s ← get
      throw { e with position := some (positionIn s.text s.rest 0) }

/-- Reads a string in a place where a name is expected. -/
def readName (expected : String) : Decoder TextSource String := place do
  match ← blanks with
  | '"' :: rest => scan scanString rest
  | _ =>
    let sc ← readScalar
    Decoder.fail (.invalidType sc.found expected)

/-- The variant name that opens an object of one variant: a key, so it must
be a string; a `}` in its place is a missing value. -/
def readVariantKey : Decoder TextSource String := do
  match ← blanks with
  | '"' :: rest => place (scan scanString rest)
  | '}' :: _ => faultAhead .expectedValue
  | [] => faultAhead .eofInObject
  | _ => faultAhead .keyMustBeString

/-- An enumeration value: a variant name, or an object of one variant name
whose value is `null`. -/
def readVariant {β : Type} (check : String → Except Problem β) : Decoder TextSource β := do
  let checked (name : String) : Decoder TextSource β := place do
    match check name with
    | .ok b => pure b
    | .error p => Decoder.fail p
  match ← blanks with
  | '"' :: _ => do
    let name ← readName "variant identifier"
    checked name
  | '{' :: rest => do
    resume rest
    let name ← readVariantKey
    let b ← checked name
    readColon
    place do
      match ← readScalar with
      | .null => pure ()
      | sc => Decoder.fail (.invalidType sc.found "unit")
    match ← blanks with
    | '}' :: r => do resume r; pure b
    | [] => fault ⟨.eofInObject, [], 0⟩
    | r => fault ⟨.expectedValue, r, 0⟩
  | [] => faultAhead .eofInValue
  | _ => faultAhead .expectedValue

instance : Source TextSource where
  size s := s.rest.length
  peek := peekKind
  scalar := readScalar
  enterSeq := enter
  nextItem := readNextItem
  leaveSeq := readLeaveSeq
  enterMap := enter
  nextKey := readNextKey
  enterValue := readColon
  skipValue := do
    let cs ← blanks
    scan skipValue cs
  leaveMap := readLeaveMap
  placed := place
  variant := readVariant

end TextSource

/-- Decodes a whole JSON text; only blanks may follow the value. -/
def decodeText {α : Type} (d : Decoder TextSource α) (s : String) : Except Error α :=
  let text := s.toList
  let whole : Decoder TextSource α := do
    let a ← d
    match ← TextSource.blanks with
    | [] => pure a
    | _ => TextSource.faultAhead .trailingCharacters
  (Decoder.runFrom whole ⟨text, text, []⟩).1

end ArithQuiz.Json
