import ArithQuiz.Quiz.Report
import ArithQuiz.Text.Similarity

/-!
# The command line

The program takes one path, the configuration file, and three options:
`-f`/`--format` (`text` or `json`), `-s`/`--seed` (an unsigned 64-bit
integer) and `-l`/`--log-level` (`error`, `warn`, `info`, `debug`, `trace`),
besides `-h`/`--help` and `-V`/`--version`.

Reading the arguments, left to right:

* `--` makes every later argument a plain value;
* `--name=value` and `--name value` give an option its value, as do `-xvalue`,
  `-x=value` and `-x value`; the word after an option that waits for its value
  is that value, unless it starts with `-`, when it is read as an option;
* a value is checked when the next option or plain value arrives, or at the
  end, so an earlier bad value is reported before a later fault, except an
  unknown option, which is reported first;
* an option given twice, an unknown option, a second path, a missing or bad
  value, and a missing path are errors; help and version stop the reading.

Error reports end with a usage line that names the options given so far
(`Usage: mathquiz --seed <SEED> <CONFIG>`), or all of them in short
(`Usage: mathquiz [OPTIONS] <CONFIG>`), and with a pointer to `--help`. A
flag given a value names the program's own arguments as one group once one of
them was checked (`Usage: mathquiz --help <CONFIG|--format <FORMAT>|…>`), and
values still waiting for their check do not count. A
mistyped option or value brings a suggestion when a known one is similar.
-/

set_option autoImplicit false

namespace ArithQuiz.Command

/-- The words of the log levels on the command line, in order. -/
def levelWords : List (String × Level) :=
  [("error", .error), ("warn", .warn), ("info", .info), ("debug", .debug), ("trace", .trace)]

/-- The words of the report formats on the command line, in order. -/
def formatWords : List (String × ReportFormat) := [("text", .text), ("json", .json)]

/-- The parameters of the command line. -/
inductive Param
  | config
  | format
  | seed
  | logLevel
  | help
  | version
deriving DecidableEq, Inhabited

namespace Param

/-- The named parameters in the order they are looked up. -/
def named : List Param := [format, seed, logLevel, help, version]

/-- The long name of a named parameter. -/
def long? : Param → Option String
  | config => none
  | format => some "format"
  | seed => some "seed"
  | logLevel => some "log-level"
  | help => some "help"
  | version => some "version"

/-- The one-letter name of a named parameter. -/
def short? : Param → Option Char
  | config => none
  | format => some 'f'
  | seed => some 's'
  | logLevel => some 'l'
  | help => some 'h'
  | version => some 'V'

/-- Whether the parameter takes a value. -/
def takesValue : Param → Bool
  | help | version => false
  | _ => true

/-- How the parameter is written in messages. -/
def text : Param → String
  | config => "<CONFIG>"
  | format => "--format <FORMAT>"
  | seed => "--seed <SEED>"
  | logLevel => "--log-level <LOG_LEVEL>"
  | help => "--help"
  | version => "--version"

/-- Whether the parameter is one of the program's own arguments (the path
and the three options), which usage lines may name together as one group;
help and version are not. -/
def isOwn : Param → Bool
  | help | version => false
  | _ => true

/-- The values the parameter accepts, when they are a fixed list. -/
def choices : Param → List String
  | format => formatWords.map (·.1)
  | logLevel => levelWords.map (·.1)
  | _ => []

/-- The named parameter with a long name. -/
def ofLong? (name : String) : Option Param := named.find? (·.long? == some name)

/-- The named parameter with a one-letter name. -/
def ofShort? (c : Char) : Option Param := named.find? (·.short? == some c)

end Param

/-- Why a text is no unsigned 64-bit integer. -/
inductive IntegerFault
  | empty
  | invalidDigit
  | tooLarge
deriving DecidableEq, Inhabited

/-- The sentence that reports an integer fault. -/
def IntegerFault.message : IntegerFault → String
  | empty => "cannot parse integer from empty string"
  | invalidDigit => "invalid digit found in string"
  | tooLarge => "number too large to fit in target type"

/-- Reads decimal digits after an optional `+`. The first fault from the left
is reported: a digit that makes the number too large comes before a later
non-digit. -/
def parseUInt64 (s : String) : Except IntegerFault UInt64 :=
  let cs := s.toList
  if cs.isEmpty then .error .empty
  else if cs = ['+'] || cs = ['-'] then .error .invalidDigit
  else
    let digits := if cs.head? = some '+' then cs.tail else cs
    let step (acc : Except IntegerFault Nat) (c : Char) : Except IntegerFault Nat :=
      acc.bind fun n =>
        if !c.isDigit then .error .invalidDigit
        else
          let m := n * 10 + (c.toNat - '0'.toNat)
          if m < Nat.pow 2 64 then .ok m else .error .tooLarge
    (digits.foldl step (.ok 0)).map Nat.toUInt64

/-- What the command line asks for. -/
structure Invocation where
  /-- The path of the configuration file. -/
  config : String
  /-- The report format. -/
  format : ReportFormat := .text
  /-- The seed, if reproducible quizzes are asked for. -/
  seed : Option UInt64 := none
  /-- The log level. -/
  logLevel : Level := .warn
deriving Inhabited

/-- Why the command line was not read, or help or version was asked for. -/
inductive ArgError
  /-- No path was given; `used` are the parameters the usage line names. -/
  | missingConfig (used : List Param)
  /-- A value is not among the choices, or is missing (the empty value). -/
  | invalidValue (param : Param) (value : String)
  /-- A value is no number. -/
  | badNumber (param : Param) (value : String) (fault : IntegerFault)
  /-- An argument is no known option, or a plain value too many. -/
  | unknownArgument (arg : String) (suggestion : Option String) (asValueTip : Bool)
      (used : List Param)
  /-- An option was given twice. -/
  | repeated (param : Param)
  /-- A flag was given a value; `grouped` tells whether one of the program's
  own arguments was recorded before. -/
  | unexpectedValue (value : String) (param : Param) (used : List Param) (grouped : Bool)
  /-- Help was asked for. -/
  | help
  /-- The version was asked for. -/
  | version
deriving Inhabited

/-- The program's own arguments as one group in a usage line. -/
def ownGroup : String := "<CONFIG|--format <FORMAT>|--seed <SEED>|--log-level <LOG_LEVEL>>"

/-- The line that says how the program is called, naming the parameters
given, or all options in short when none is named and there is no group.
With the group, the program's own arguments are named only in it, and it
stands where the path would. -/
def usageLine (used : List Param) (grouped : Bool) : String :=
  if used.isEmpty && !grouped then "mathquiz [OPTIONS] <CONFIG>"
  else
    let named := used.filter fun p => p ≠ .config && !(grouped && p.isOwn)
    "mathquiz" ++ String.join (named.eraseDups.map (" " ++ ·.text)) ++
      " " ++ (if grouped then ownGroup else "<CONFIG>")

/-- The help text. -/
def helpText : String :=
  "Generate randomized arithmetic quizzes from a JSON config\n\n" ++
  "Usage: mathquiz [OPTIONS] <CONFIG>\n\n" ++
  "Arguments:\n" ++
  "  <CONFIG>  Path to the JSON config file\n\n" ++
  "Options:\n" ++
  "  -f, --format <FORMAT>        Output format (default: text) [default: text] " ++
    "[possible values: text, json]\n" ++
  "  -s, --seed <SEED>            Seed for reproducible generation\n" ++
  "  -l, --log-level <LOG_LEVEL>  Log level (default: warn) [default: warn] " ++
    "[possible values: error, warn, info, debug, trace]\n" ++
  "  -h, --help                   Print help\n" ++
  "  -V, --version                Print version\n"

/-- The version text. -/
def versionText : String := "mathquiz 0.1.0\n"

namespace ArgError

/-- Whether the error is a request for help or the version, answered on
standard output. -/
def isDisplay : ArgError → Bool
  | help | version => true
  | _ => false

/-- The list of accepted values, on a line of its own. -/
def choicesLine (choices : List String) : String :=
  if choices.isEmpty then "" else "\n  [possible values: " ++ ", ".intercalate choices ++ "]"

/-- The first sentence of an error report. -/
def headline : ArgError → String
  | missingConfig _ => "the following required arguments were not provided:\n  <CONFIG>"
  | invalidValue p v =>
    (if v.isEmpty then "a value is required for '" ++ p.text ++ "' but none was supplied"
     else "invalid value '" ++ v ++ "' for '" ++ p.text ++ "'") ++ choicesLine p.choices
  | badNumber p v f => "invalid value '" ++ v ++ "' for '" ++ p.text ++ "': " ++ f.message
  | unknownArgument a _ _ _ => "unexpected argument '" ++ a ++ "' found"
  | repeated p => "the argument '" ++ p.text ++ "' cannot be used multiple times"
  | unexpectedValue v p _ _ =>
    "unexpected value '" ++ v ++ "' for '" ++ p.text ++ "' found; no more were expected"
  | help => ""
  | version => ""

/-- The tips of an error report. -/
def tips : ArgError → String
  | invalidValue p v =>
    match Text.closest v p.choices with
    | some s => "\n\n  tip: a similar value exists: '" ++ s ++ "'"
    | none => ""
  | unknownArgument a suggestion asValue _ =>
    (match suggestion with
      | some s => "\n\n  tip: a similar argument exists: '" ++ s ++ "'"
      | none => "") ++
    (if asValue then "\n\n  tip: to pass '" ++ a ++ "' as a value, use '-- " ++ a ++ "'" else "")
  | _ => ""

/-- The usage line of an error report, if it has one. -/
def usage? : ArgError → Option String
  | missingConfig used => some (usageLine used false)
  | unknownArgument _ _ _ used => some (usageLine used false)
  | repeated _ => some (usageLine [] false)
  | unexpectedValue _ _ used grouped => some (usageLine used grouped)
  | _ => none

/-- The full text of an error report, or the help or version text. -/
def message (e : ArgError) : String :=
  match e with
  | help => helpText
  | version => versionText
  | _ =>
    "error: " ++ e.headline ++ e.tips ++
      (match e.usage? with
        | some line => "\n\nUsage: " ++ line
        | none => "") ++
      "\n\nFor more information, try '--help'.\n"

end ArgError

/-- The values given so far. -/
structure Given where
  /-- The path. -/
  config : Option String := none
  /-- The report format. -/
  format : Option ReportFormat := none
  /-- The seed. -/
  seed : Option UInt64 := none
  /-- The log level. -/
  logLevel : Option Level := none
deriving Inhabited

/-- Where reading the arguments stands. -/
structure Reading where
  /-- Whether `--` was seen, so that every argument is a plain value. -/
  plainOnly : Bool := false
  /-- Whether the next argument is the value of the last option. -/
  waiting : Bool := false
  /-- The parameter whose values are read but not yet checked. -/
  unchecked : Option (Param × List String) := none
  /-- Whether the path was given. -/
  pathTaken : Bool := false
  /-- The parameters given, in the order they were checked; one given twice
  is dropped when the second one is checked. -/
  present : List Param := []
  /-- Whether one of the program's own arguments was checked. -/
  grouped : Bool := false
  /-- The values checked so far. -/
  given : Given := {}
deriving Inhabited

/-- Reading the arguments: an error keeps the state reached before it. -/
abbrev ReadArgs := ExceptT ArgError (StateM Reading)

/-- The value of a parameter with a fixed list of words. -/
def choose {α : Type} (p : Param) (words : List (String × α)) (v : String) : ReadArgs α :=
  match words.find? (·.1 == v) with
  | some w => pure w.2
  | none => throw (.invalidValue p v)

/-- Records the checked value of a parameter; help and version stop here. -/
def assign (p : Param) (v : String) : ReadArgs Unit := do
  match p with
  | .config =>
    if v.isEmpty then throw (.invalidValue p v)
    modify fun r => { r with given.config := some v }
  | .format =>
    let f ← choose p formatWords v
    modify fun r => { r with given.format := some f }
  | .seed =>
    match parseUInt64 v with
    | .ok n => modify fun r => { r with given.seed := some n }
    | .error f => throw (.badNumber p v f)
  | .logLevel =>
    let l ← choose p levelWords v
    modify fun r => { r with given.logLevel := some l }
  | .help => throw .help
  | .version => throw .version

/-- Takes a parameter with its values: a missing value, a repeated option and
a bad value are errors, in this order. A repeated option is dropped from the
parameters given before it is reported. -/
def accept (p : Param) (values : List String) : ReadArgs Unit := do
  if p.takesValue && values.isEmpty then throw (.invalidValue p "")
  if !p.takesValue then assign p ""
  if (← get).present.contains p then
    modify fun r => { r with present := r.present.erase p }
    throw (.repeated p)
  modify fun r => { r with present := r.present ++ [p], grouped := r.grouped || p.isOwn }
  assign p (values.headD "")

/-- Checks the values read but not yet checked, if any. -/
def settle : ReadArgs Unit := do
  match (← get).unchecked with
  | none => pure ()
  | some (p, values) =>
    modify fun r => { r with unchecked := none, waiting := false }
    accept p values

/-- Checks the values read so far, keeping what was recorded if that fails. -/
def settleQuietly : ReadArgs Unit := tryCatch settle fun _ => pure ()

/-- Starts an option whose value is the next argument. -/
def await (p : Param) : ReadArgs Unit := do
  settle
  modify fun r => { r with unchecked := some (p, []), waiting := true }

/-- An argument `--name` or `--name=value`. -/
def longOption (name : String) (value? : Option String) : ReadArgs Unit := do
  match Param.ofLong? name with
  | some p =>
    if p.takesValue then
      match value? with
      | some v =>
        settle
        accept p [v]
      | none => await p
    else
      match value? with
      | some v =>
        let r ← get
        throw (.unexpectedValue v p (r.present.filter (· ≠ .config) ++ [p]) r.grouped)
      | none =>
        settle
        accept p []
  | none =>
    settleQuietly
    let suggestion := Text.closest name (Param.named.filterMap (·.long?))
    let present := (← get).present
    let used := match suggestion.bind Param.ofLong? with
      | some q => if present.contains q then present else present ++ [q]
      | none => present
    throw (.unknownArgument ("--" ++ name) (suggestion.map ("--" ++ ·)) suggestion.isNone used)

/-- An argument `-x`, `-xvalue` or `-x=value`. Only its first letter is read
as an option: every flag of this command stops the reading. -/
def shortOption (c : Char) (rest : List Char) : ReadArgs Unit := do
  match Param.ofShort? c with
  | none =>
    settleQuietly
    throw (.unknownArgument ("-" ++ c.toString) none true [])
  | some p =>
    if !p.takesValue then
      settle
      accept p []
    else if rest.isEmpty then await p
    else
      let v := if rest.head? = some '=' then rest.tail else rest
      settle
      accept p [String.ofList v]

/-- A plain value: the path, or one too many. -/
def plainValue (arg : String) : ReadArgs Unit := do
  if !(← get).pathTaken then
    settle
    modify fun r => { r with unchecked := some (.config, [arg]), pathTaken := true }
  else
    settleQuietly
    throw (.unknownArgument arg none false [])

/-- The name and the value of a long option, split at the first `=`. -/
def splitLong (body : String) : String × Option String :=
  match body.splitOn "=" with
  | [] => (body, none)
  | [name] => (name, none)
  | name :: rest => (name, some ("=".intercalate rest))

/-- Reads one argument. -/
def readArg (arg : String) : ReadArgs Unit := do
  let r ← get
  let cs := arg.toList
  if r.plainOnly then plainValue arg
  else if arg = "--" then modify fun r => { r with plainOnly := true }
  else if cs.take 2 = ['-', '-'] then
    let (name, value?) := splitLong (String.ofList (cs.drop 2))
    longOption name value?
  else
    match cs with
    | '-' :: c :: rest => shortOption c rest
    | _ =>
      if r.waiting then
        modify fun r => { r with
          unchecked := r.unchecked.map (fun (q, vs) => (q, vs ++ [arg])), waiting := false }
      else plainValue arg

/-- Reads all arguments, then checks that the path was given. -/
def readAll (args : List String) : ReadArgs Invocation := do
  args.forM readArg
  settle
  let r ← get
  match r.given.config with
  | none => throw (.missingConfig (r.present ++ [.config]))
  | some path =>
    pure { config := path, format := r.given.format.getD .text, seed := r.given.seed,
           logLevel := r.given.logLevel.getD .warn }

/-- What a command line asks for, or why it cannot be read. -/
def parseInvocation (args : List String) : Except ArgError Invocation :=
  ((readAll args).run.run {}).1

end ArithQuiz.Command
