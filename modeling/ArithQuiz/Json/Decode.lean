import ArithQuiz.Json.Parse
import ArithQuiz.Decimal.Text
import ArithQuiz.Text.Blank
import ArithQuiz.Expr.Error

/-!
# Typed decoding

Reading JSON as a typed record goes the same way whether it comes straight
from text or from a value already read: a `Source` answers a fixed set of
questions (the next scalar, the items of an array, the keys of an object),
and the decoders here are written once against them.

The two sources differ only where reading text and reading a value differ:
errors from text carry the place where reading stopped, extra array items are
a fault of the text on one side and a length mismatch on the other, and a
value's object members come sorted and without repeats.

Every decoder follows the same conventions:

* a value of the wrong kind is reported as found, with the expected kind
  (`a boolean`, `usize`, `struct QuizConfig`, …);
* an array or object that was entered is closed even when decoding inside it
  failed, and the inner error wins;
* a record is an object (unknown keys skipped, a repeated key refused,
  missing fields defaulted or reported in declaration order) or an array of
  its fields in declaration order.
-/

set_option autoImplicit false

namespace ArithQuiz.Json

/-- Decoding from a source `σ`: it may fail, and the source state stays
observable after a failure. -/
abbrev Decoder (σ α : Type) := ExceptT Error (StateM σ) α

/-- The kind of the next value, seen without reading it. -/
inductive Kind
  | eof
  | null
  | bool
  | number
  | string
  | seq
  | map
  | other
deriving DecidableEq, Inhabited

/-- A scalar that was read, or an array or object about to be read. -/
inductive Scalar
  | null
  | bool (b : Bool)
  | number (n : Number)
  | string (s : String)
  | seq
  | map
deriving Inhabited

/-- How a scalar is named when it was not what was expected. -/
def Scalar.found : Scalar → Found
  | null => .null
  | bool b => .bool b
  | number n => .ofNumber n
  | string s => .string s
  | seq => .seq
  | map => .map

/-- The questions typed decoding asks of where it reads from. -/
class Source (σ : Type) where
  /-- A measure that every read value lowers. -/
  size : σ → Nat
  /-- The kind of the next value. -/
  peek : Decoder σ Kind
  /-- Reads the next scalar; an array or object is reported and left unread. -/
  scalar : Decoder σ Scalar
  /-- Opens the array reported by `scalar`. -/
  enterSeq : Decoder σ Unit
  /-- Whether another item follows in the innermost open array. -/
  nextItem : Decoder σ Bool
  /-- Closes the innermost open array. -/
  leaveSeq : Decoder σ Unit
  /-- Opens the object reported by `scalar`. -/
  enterMap : Decoder σ Unit
  /-- The next key of the innermost open object, if any. -/
  nextKey : Decoder σ (Option String)
  /-- Moves from a key to its value. -/
  enterValue : Decoder σ Unit
  /-- Skips the next value. -/
  skipValue : Decoder σ Unit
  /-- Closes the innermost open object. -/
  leaveMap : Decoder σ Unit
  /-- Places an error of `d` that has no place yet where reading stopped. -/
  placed {α : Type} (d : Decoder σ α) : Decoder σ α
  /-- Reads an enumeration value given as a variant name (or an object of one
  variant name with a null value); `check` turns the name into a value. -/
  variant {β : Type} (check : String → Except Problem β) : Decoder σ β

namespace Decoder

variable {σ : Type} [Source σ]

/-- Fails with a problem that has no place yet. -/
def fail {α : Type} (p : Problem) : Decoder σ α := throw ⟨p, none⟩

/-- Runs `body`, then `close`; when `body` fails, `close` still runs and the
error of `body` is the one reported. -/
def closing {α : Type} (close : Decoder σ Unit) (body : Decoder σ α) : Decoder σ α :=
  tryCatch (do let r ← body; close; pure r)
    (fun e => do tryCatch close (fun _ => pure ()); throw e)

/-- Runs a decoder from a state. -/
def runFrom {α : Type} (d : Decoder σ α) (s : σ) : Except Error α × σ := (d.run).run s

/-- Builds a decoder from its state function. -/
def ofFun {α : Type} (f : σ → Except Error α × σ) : Decoder σ α := ExceptT.mk (StateT.mk f)

/-- Reads items with `elem` until the innermost array ends. Each item lowers
`Source.size`, which bounds the loop. -/
def itemsFrom {α : Type} (elem : Decoder σ α) (acc : Array α) (s : σ) : Except Error (List α) × σ :=
  match runFrom Source.nextItem s with
  | (.error e, s1) => (.error e, s1)
  | (.ok false, s1) => (.ok acc.toList, s1)
  | (.ok true, s1) =>
    match runFrom elem s1 with
    | (.error e, s2) => (.error e, s2)
    | (.ok x, s2) =>
      if Source.size s2 < Source.size s then itemsFrom elem (acc.push x) s2
      else (.error ⟨.malformed .eofInList, none⟩, s2)
termination_by Source.size s

/-- Reads members with `step` until the innermost object ends, from `init`.
Each member lowers `Source.size`, which bounds the loop. -/
def membersFrom {ρ : Type} (step : ρ → String → Decoder σ ρ) (acc : ρ) (s : σ) :
    Except Error ρ × σ :=
  match runFrom Source.nextKey s with
  | (.error e, s1) => (.error e, s1)
  | (.ok none, s1) => (.ok acc, s1)
  | (.ok (some k), s1) =>
    match runFrom (step acc k) s1 with
    | (.error e, s2) => (.error e, s2)
    | (.ok acc', s2) =>
      if Source.size s2 < Source.size s then membersFrom step acc' s2
      else (.error ⟨.malformed .eofInObject, none⟩, s2)
termination_by Source.size s

/-- The remaining items of the innermost open array. -/
def items {α : Type} (elem : Decoder σ α) : Decoder σ (List α) := ofFun (itemsFrom elem #[])

/-- The remaining members of the innermost open object, folded by `step`. -/
def members {ρ : Type} (init : ρ) (step : ρ → String → Decoder σ ρ) : Decoder σ ρ :=
  ofFun (membersFrom step init)

/-- A boolean. -/
def bool : Decoder σ Bool := Source.placed do
  match ← Source.scalar with
  | .bool b => pure b
  | s => fail (.invalidType s.found "a boolean")

/-- An unsigned integer of 64 bits, named `usize` in messages. -/
def uint64 : Decoder σ Nat := Source.placed do
  match ← Source.scalar with
  | .number (.nat n) => pure n
  | .number (.negInt i) => fail (.invalidValue (.signed i) "usize")
  | s => fail (.invalidType s.found "usize")

/-- A signed integer of 64 bits. -/
def int64 : Decoder σ Int := Source.placed do
  match ← Source.scalar with
  | .number (.nat n) =>
    if n < Nat.pow 2 63 then pure n else fail (.invalidValue (.unsigned n) "i64")
  | .number (.negInt i) => pure i
  | s => fail (.invalidType s.found "i64")

/-- A double; integers are rounded to the nearest double. -/
def float : Decoder σ Binary64 := Source.placed do
  match ← Source.scalar with
  | .number (.nat n) => pure (Binary64.ofNat n)
  | .number (.negInt i) => pure (Binary64.ofNat i.natAbs).neg
  | .number (.float x) => pure x
  | s => fail (.invalidType s.found "f64")

/-- A string. -/
def string : Decoder σ String := Source.placed do
  match ← Source.scalar with
  | .string s => pure s
  | s => fail (.invalidType s.found "a string")

/-- An array of items. -/
def seq {α : Type} (elem : Decoder σ α) : Decoder σ (List α) := Source.placed do
  match ← Source.scalar with
  | .seq => do Source.enterSeq; closing Source.leaveSeq (items elem)
  | s => fail (.invalidType s.found "a sequence")

/-- An array of exactly two items, each read by its own decoder. -/
def tuple {α β : Type} (first : Decoder σ α) (second : Decoder σ β) : Decoder σ (α × β) :=
  Source.placed do
    match ← Source.scalar with
    | .seq => do
      Source.enterSeq
      closing Source.leaveSeq do
        if !(← Source.nextItem) then fail (.invalidLength 0 "a tuple of size 2")
        let a ← first
        if !(← Source.nextItem) then fail (.invalidLength 1 "a tuple of size 2")
        let b ← second
        pure (a, b)
    | s => fail (.invalidType s.found "a tuple of size 2")

/-- An array of exactly two items of one kind. -/
def pair {α : Type} (elem : Decoder σ α) : Decoder σ (α × α) := tuple elem elem

/-- `null`, or a value. -/
def option {α : Type} (inner : Decoder σ α) : Decoder σ (Option α) := do
  if (← Source.peek) = .null then
    let _ ← Source.scalar
    pure none
  else some <$> inner

/-- A record, read from an object by `fromMap` or from an array of its fields
by `fromSeq`. -/
def record {α : Type} (name : String) (fromMap fromSeq : Decoder σ α) : Decoder σ α :=
  Source.placed do
    match ← Source.scalar with
    | .map => do Source.enterMap; closing Source.leaveMap fromMap
    | .seq => do Source.enterSeq; closing Source.leaveSeq fromSeq
    | s => fail (.invalidType s.found ("struct " ++ name))

/-- A field met in an object: refused if already set, else its value read. -/
def field {α : Type} (name : String) (alreadySet : Bool) (dec : Decoder σ α) : Decoder σ α :=
  if alreadySet then fail (.duplicateField name)
  else do Source.enterValue; dec

/-- An unknown key's value, skipped. -/
def skipField : Decoder σ Unit := do Source.enterValue; Source.skipValue

/-- A required field at the end of an object. -/
def required {α : Type} (name : String) : Option α → Decoder σ α
  | some a => pure a
  | none => fail (.missingField name)

/-- Field `index` of a record read from an array: the next item, or `default`
when the array has ended, or a length error without a default. -/
def positional {α : Type} (index : Nat) (expected : String) (dec : Decoder σ α)
    (default : Option α) : Decoder σ α := do
  if ← Source.nextItem then dec
  else
    match default with
    | some d => pure d
    | none => fail (.invalidLength index expected)

/-- A decimal: an integer taken exactly, a double through its plain text, or a
string trimmed of blanks and read as a decimal. -/
def decimal : Decoder σ Decimal := Source.placed do
  let expected := "a decimal number or a decimal string"
  let ofText (t : String) : Decoder σ Decimal :=
    match Decimal.ofText? t with
    | some d => pure d
    | none => fail (.custom (ExprError.invalidNumber t).message)
  match ← Source.scalar with
  | .number (.nat n) => pure (Decimal.ofInt n)
  | .number (.negInt i) => pure (Decimal.ofInt i)
  | .number (.float x) => ofText x.plainText
  | .string s => ofText (String.ofList (Text.trimBlank s.toList))
  | .seq => do Source.enterSeq; closing Source.leaveSeq (fail (.invalidType .seq expected))
  | .map => do Source.enterMap; closing Source.leaveMap (fail (.invalidType .map expected))
  | s => fail (.invalidType s.found expected)

end Decoder

end ArithQuiz.Json
