import ArithQuiz.Json.Decode

/-!
# Decoding from a JSON value

`ValueSource` hands a value already read to a typed decoder: the value next
to decode, and for each open array or object the items or members still to
come. Errors carry no place. An array with items left over after its record
or pair was read is a length mismatch. An enumeration value is a variant name,
or an object of exactly one member whose key is the variant name and whose
value is `null`.
-/

set_option autoImplicit false

namespace ArithQuiz.Json

/-- An open array (items left, and how many it had) or object (members left). -/
inductive Frame
  | items (rest : List Value) (total : Nat)
  | members (rest : List (String × Value))

/-- The value next to decode and the open arrays and objects, innermost first. -/
structure ValueSource where
  /-- The value the next read takes. -/
  pending : Option Value
  /-- Open arrays and objects, innermost first. -/
  frames : List Frame := []

namespace ValueSource

/-- The found-kind of a value. -/
def foundOf : Value → Found
  | .null => .null
  | .bool b => .bool b
  | .number n => .ofNumber n
  | .string s => .string s
  | .array _ => .seq
  | .object _ => .map

mutual
/-- The number of values and members in a value, itself included. -/
def valueSize : Value → Nat
  | .array xs => 1 + itemsSize xs
  | .object ms => 1 + membersSize ms
  | _ => 1

/-- The sizes of some items, added. -/
def itemsSize : List Value → Nat
  | [] => 0
  | x :: xs => valueSize x + itemsSize xs

/-- The sizes of some members, each counted once more for its key. -/
def membersSize : List (String × Value) → Nat
  | [] => 0
  | (_, v) :: ms => 1 + valueSize v + membersSize ms
end

/-- The size of what is left to decode: a lowered measure for every read. -/
def size (s : ValueSource) : Nat :=
  (s.pending.map valueSize).getD 0 +
    (s.frames.map fun
      | .items rest _ => itemsSize rest
      | .members rest => membersSize rest).foldl (· + ·) 0

/-- Fails on a state no decoder reaches (a read with nothing pending). -/
def stuck {α : Type} : Decoder ValueSource α := throw ⟨.malformed .eofInValue, none⟩

/-- The kind of the next value. -/
def peekKind : Decoder ValueSource Kind := do
  match (← get).pending with
  | none => pure .eof
  | some .null => pure .null
  | some (.bool _) => pure .bool
  | some (.number _) => pure .number
  | some (.string _) => pure .string
  | some (.array _) => pure .seq
  | some (.object _) => pure .map

/-- Takes the pending value. -/
def take : Decoder ValueSource Unit := modify fun s => { s with pending := none }

/-- Reads a scalar, or reports an array or object. -/
def readScalar : Decoder ValueSource Scalar := do
  match (← get).pending with
  | none => stuck
  | some .null => do take; pure .null
  | some (.bool b) => do take; pure (.bool b)
  | some (.number n) => do take; pure (.number n)
  | some (.string str) => do take; pure (.string str)
  | some (.array _) => pure .seq
  | some (.object _) => pure .map

/-- Opens the pending array. -/
def enterItems : Decoder ValueSource Unit := do
  let s ← get
  match s.pending with
  | some (.array xs) => set { s with pending := none, frames := .items xs xs.length :: s.frames }
  | _ => stuck

/-- Opens the pending object. -/
def enterMembers : Decoder ValueSource Unit := do
  let s ← get
  match s.pending with
  | some (.object ms) => set { s with pending := none, frames := .members ms :: s.frames }
  | _ => stuck

/-- Makes the next item of the innermost array pending. -/
def readNextItem : Decoder ValueSource Bool := do
  let s ← get
  match s.frames with
  | .items (x :: rest) total :: fs => do
    set { s with pending := some x, frames := .items rest total :: fs }
    pure true
  | .items [] _ :: _ => pure false
  | _ => stuck

/-- Closes the innermost array; items left over are a length mismatch. -/
def readLeaveSeq : Decoder ValueSource Unit := do
  let s ← get
  match s.frames with
  | .items rest total :: fs => do
    set { s with frames := fs }
    if !rest.isEmpty then Decoder.fail (.invalidLength total "fewer elements in array")
  | _ => stuck

/-- The next key of the innermost object, its value made pending. -/
def readNextKey : Decoder ValueSource (Option String) := do
  let s ← get
  match s.frames with
  | .members ((k, v) :: rest) :: fs => do
    set { s with pending := some v, frames := .members rest :: fs }
    pure (some k)
  | .members [] :: _ => pure none
  | _ => stuck

/-- Closes the innermost object. -/
def readLeaveMap : Decoder ValueSource Unit := do
  let s ← get
  match s.frames with
  | .members _ :: fs => set { s with frames := fs }
  | _ => stuck

/-- An enumeration value. -/
def readVariant {β : Type} (check : String → Except Problem β) : Decoder ValueSource β := do
  let checked (name : String) : Decoder ValueSource β :=
    match check name with
    | .ok b => pure b
    | .error p => Decoder.fail p
  match (← get).pending with
  | some (.string name) => do take; checked name
  | some (.object [(name, v)]) => do
    take
    let b ← checked name
    match v with
    | .null => pure b
    | other => Decoder.fail (.invalidType (foundOf other) "unit")
  | some (.object _) => Decoder.fail (.invalidValue .map "map with a single key")
  | some other => Decoder.fail (.invalidType (foundOf other) "string or map")
  | none => stuck

instance : Source ValueSource where
  size := size
  peek := peekKind
  scalar := readScalar
  enterSeq := enterItems
  nextItem := readNextItem
  leaveSeq := readLeaveSeq
  enterMap := enterMembers
  nextKey := readNextKey
  enterValue := pure ()
  skipValue := take
  leaveMap := readLeaveMap
  placed d := d
  variant := readVariant

end ValueSource

/-- Decodes a JSON value. -/
def decodeValue {α : Type} (d : Decoder ValueSource α) (v : Value) : Except Error α :=
  (Decoder.runFrom d ⟨some v, []⟩).1

end ArithQuiz.Json
