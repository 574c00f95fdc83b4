/-!
# Journals of a run

While it works, the program tells what it does in records, each of a `Level`
from `error` (the fewest records) to `trace` (the most). A `Journal` keeps the
records up to a chosen level, oldest first; the silent journal keeps none. A
record's text is a function that is called only when the record is kept, so
a journal that keeps nothing costs only the test of the level.

A journal is written out record by record: a header in brackets naming the
level, then the text with every line after the first indented by four
spaces, then a line feed. So only the header line of a record starts with a
bracket.

Steps that only tell run in `StateM Journal`, through `note`. A state that
carries a journal beside other things is `Journaled`; `Journaled.along` runs
such a step on the journal it carries.

Main statements: `note_run_of_not_keeps` (a record of a level not kept leaves
the journal as it was) and `records_note_of_keeps` (a kept record goes last).
-/

set_option autoImplicit false

namespace ArithQuiz

/-- How much a run tells, from the fewest records to the most. -/
inductive Level
  | error
  | warn
  | info
  | debug
  | trace
deriving DecidableEq, Inhabited

namespace Level

/-- The place of a level, `error` first. -/
def rank : Level → Nat
  | error => 0
  | warn => 1
  | info => 2
  | debug => 3
  | trace => 4

/-- The name of a level in upper case, as headers and filters print it. -/
def name : Level → String
  | error => "ERROR"
  | warn => "WARN"
  | info => "INFO"
  | debug => "DEBUG"
  | trace => "TRACE"

/-- The name of a level capitalized, as a record about the chosen level
prints it. -/
def title : Level → String
  | error => "Error"
  | warn => "Warn"
  | info => "Info"
  | debug => "Debug"
  | trace => "Trace"

end Level

/-- One thing a run tells. -/
structure Record where
  /-- How detailed it is. -/
  level : Level
  /-- What it says; it may span lines. -/
  text : String
deriving Inhabited

/-- The records of a run up to a level. -/
structure Journal where
  /-- The most detailed level kept; `none` keeps nothing. -/
  limit : Option Level
  /-- The records kept, oldest first. -/
  records : Array Record
deriving Inhabited

namespace Journal

/-- The journal that keeps nothing. -/
def silent : Journal := ⟨none, #[]⟩

/-- An empty journal that keeps the records up to a level. -/
def upTo (l : Level) : Journal := ⟨some l, #[]⟩

/-- Whether records of a level are kept. -/
def keeps (j : Journal) (l : Level) : Bool :=
  match j.limit with
  | some m => decide (l.rank ≤ m.rank)
  | none => false

/-- Adds a record of a level, its text made only when the level is kept. -/
@[inline] def add (j : Journal) (l : Level) (text : Unit → String) : Journal :=
  if j.keeps l then { j with records := j.records.push ⟨l, text ()⟩ } else j

/-- The silent journal keeps nothing. -/
theorem keeps_silent (l : Level) : silent.keeps l = false := rfl

/-- A record of a level not kept leaves the journal as it was. -/
theorem add_of_not_keeps (j : Journal) (l : Level) (text : Unit → String)
    (h : j.keeps l = false) : j.add l text = j := by
  simp [add, h]

/-- A kept record goes after all records kept before it. -/
theorem records_add_of_keeps (j : Journal) (l : Level) (text : Unit → String)
    (h : j.keeps l = true) : (j.add l text).records = j.records.push ⟨l, text ()⟩ := by
  simp [add, h]

end Journal

/-- A text with every line after the first indented by four spaces. -/
def indentFollowingLines (s : String) : String := "\n    ".intercalate (s.splitOn "\n")

/-- A record as written: its header, its indented text and a line feed. -/
def Record.render (r : Record) : String :=
  "[" ++ r.level.name ++ "] " ++ indentFollowingLines r.text ++ "\n"

/-- A journal as written, oldest record first. -/
def Journal.render (j : Journal) : String :=
  j.records.foldl (fun out r => out ++ r.render) ""

/-- Tells a record of a level, its text made only when the level is kept. -/
@[inline] def note (l : Level) (text : Unit → String) : StateM Journal Unit :=
  modify fun j => j.add l text

/-- A record of a level not kept leaves the journal as it was. -/
theorem note_run_of_not_keeps (l : Level) (text : Unit → String) (j : Journal)
    (h : j.keeps l = false) : (note l text).run j = ((), j) := by
  show ((), j.add l text) = ((), j)
  rw [Journal.add_of_not_keeps j l text h]

/-- A kept record goes after all records kept before it. -/
theorem records_note_of_keeps (l : Level) (text : Unit → String) (j : Journal)
    (h : j.keeps l = true) :
    ((note l text).run j).2.records = j.records.push ⟨l, text ()⟩ :=
  Journal.records_add_of_keeps j l text h

/-- A state that carries a journal beside whatever else it holds. -/
class Journaled (σ : Type) where
  /-- The journal carried. -/
  journal : σ → Journal
  /-- The state with another journal, all else kept. -/
  withJournal : σ → Journal → σ

namespace Journaled

variable {σ : Type} [Journaled σ]

/-- Runs a step that tells on the journal a state carries. -/
@[inline] def along {α : Type} (step : StateM Journal α) (g : σ) : α × σ :=
  let (a, j) := step.run (journal g)
  (a, withJournal g j)

/-- Tells a record in the journal a state carries. -/
@[inline] def note (g : σ) (l : Level) (text : Unit → String) : σ :=
  if (journal g).keeps l then withJournal g ((journal g).add l text) else g

end Journaled

/-- A journal carries itself. -/
instance : Journaled Journal := ⟨id, fun _ j => j⟩

end ArithQuiz
