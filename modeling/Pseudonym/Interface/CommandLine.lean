import Pseudonym.Files.Path
import Pseudonym.Settings.Check
import Pseudonym.Text.Quoted

/-!
# The command line

A command line holds at most one project and a few flags. A flag may be shortened as long as it stays
unique, and its value may follow a sign of equality. Two hyphens alone end the flags. All words are
sorted into flags and values first; then they are taken in order, and the first problem or the first
flag that asks for information ends the reading.
-/

namespace Pseudonym.Interface

open Files Text

/-! ## Flags -/

/-- A flag. -/
inductive Flag where
  | help
  | target
  | output
  | logLevel
  | logFile
  | version
deriving DecidableEq, Repr, Inhabited

namespace Flag

/-- The spellings of a flag. -/
def spellings : Flag → List String
  | .help => ["-h", "--help"]
  | .target => ["--target"]
  | .output => ["--output"]
  | .logLevel => ["--log-level"]
  | .logFile => ["--log-file"]
  | .version => ["--version"]

/-- All flags. -/
def all : List Flag := [.help, .target, .output, .logLevel, .logFile, .version]

/-- Every spelling with its flag. -/
def table : List (String × Flag) := all.flatMap fun f => f.spellings.map fun s => (s, f)

/-- The flag of a full spelling. -/
def ofSpelling? (s : String) : Option Flag := (table.find? (·.1 = s)).map (·.2)

/-- Whether a flag has a value. -/
def takesValue : Flag → Bool
  | .help => false
  | .version => false
  | _ => true

/-- The flag in a message. -/
def title (f : Flag) : String := "/".intercalate f.spellings

end Flag

/-! ## Words -/

/-- What a word of the command line is. -/
inductive Word where
  | value (text : String)
  /-- The two hyphens that end the flags. -/
  | separator
  /-- A flag, with the value that is attached to it. -/
  | flag (flag : Flag) (spelling : String) (attached : Option String)
  /-- A word that looks like a flag and is none. -/
  | unknown (text : String)
deriving DecidableEq, Repr, Inhabited

/-- The word as it was written, for words that are not understood. -/
def Word.text : Word → String
  | .value t => t
  | .separator => "--"
  | .flag _ spelling _ => spelling
  | .unknown t => t

/-- How a command line ends without a result. -/
inductive Ending where
  | help
  | version
  | usage (message : String)
deriving DecidableEq, Repr

/-- Whether all of a list are digits, and there is one. -/
def isDigits (cs : List Char) : Bool := !cs.isEmpty && cs.all fun c => category c = .decimalNumber

/-- Whether a text is a negative number; a line break may end it. -/
def isNegativeNumber (s : String) : Bool :=
  match s.toList with
  | '-' :: rest =>
    let body := if rest.getLast? = some '\n' then rest.dropLast else rest
    let whole := body.takeWhile (· ≠ '.')
    match body.drop whole.length with
    | [] => isDigits whole
    | _ :: fraction => (whole.isEmpty || isDigits whole) && isDigits fraction
  | _ => false

/-- A text cut at its first sign of equality. -/
def splitAttached (s : String) : String × Option String :=
  let front := s.toList.takeWhile (· ≠ '=')
  match s.toList.drop front.length with
  | [] => (s, none)
  | _ :: rest => (String.ofList front, some (String.ofList rest))

/-- The flags that a shortened spelling may mean. -/
def shortened (s : String) : List (Flag × String × Option String) :=
  if s.startsWith "--" then
    let (start, attached) := splitAttached s
    (Flag.table.filter fun (spelling, _) => spelling.startsWith start).map fun (spelling, f) =>
      (f, spelling, attached)
  else
    Flag.table.filterMap fun (spelling, f) =>
      if spelling = String.ofList (s.toList.take 2) then
        some (f, spelling, some (String.ofList (s.toList.drop 2)))
      else if spelling.startsWith s then some (f, spelling, none)
      else none

/-- What a word before the separator is. -/
def classify (s : String) : Except Ending Word :=
  if !s.startsWith "-" then .ok (.value s)
  else match Flag.ofSpelling? s with
    | some f => .ok (.flag f s none)
    | none =>
      if s = "-" then .ok (.value s)
      else
        let (spelling, attached) := splitAttached s
        match Flag.ofSpelling? spelling, attached with
        | some f, some v => .ok (.flag f spelling (some v))
        | _, _ =>
          match shortened s with
          | [] =>
            if isNegativeNumber s || s.toList.contains ' ' then .ok (.value s)
            else .ok (.unknown s)
          | [(f, spelling, attached)] => .ok (.flag f spelling attached)
          | several =>
            let matching := ", ".intercalate (several.map fun (_, spelling, _) => spelling)
            .error (.usage ("ambiguous option: " ++ s ++ " could match " ++ matching))

/-- Sorts the words of a command line; after the separator all are values. -/
def sortWords : List String → Except Ending (List Word)
  | [] => .ok []
  | s :: rest =>
    if s = "--" then .ok (.separator :: rest.map .value)
    else do
      let w ← classify s
      return w :: (← sortWords rest)

/-! ## Reading -/

/-- Where the log is written unless told otherwise. -/
def defaultLogFile : Path := Path.ofText "logs/shuffler.log"

/-- A command line that was understood. -/
structure CommandLine where
  project : Option Path := none
  target : Option Path := none
  output : Option Path := none
  logLevel : String := "INFO"
  logFile : Path := defaultLogFile
deriving DecidableEq, Repr

/-- A problem with a flag. -/
def flagProblem (f : Flag) (text : String) : Ending :=
  .usage ("argument " ++ f.title ++ ": " ++ text)

/-- Gives a flag a value. -/
def CommandLine.set (c : CommandLine) (f : Flag) (v : String) : Except Ending CommandLine :=
  match f with
  | .help => .error .help
  | .version => .error .version
  | .target => .ok { c with target := some (Path.ofText v) }
  | .output => .ok { c with output := some (Path.ofText v) }
  | .logFile => .ok { c with logFile := Path.ofText v }
  | .logLevel =>
    let level := upper v
    if logLevels.contains level then .ok { c with logLevel := level }
    else .error (flagProblem f ("invalid choice: " ++ quoted level ++ " (choose from " ++
      ", ".intercalate (logLevels.map quoted) ++ ")"))

/-- How a flag without a value ends the reading. What is attached to a single letter has to be more
such letters. -/
def ending (f : Flag) (spelling : String) : List Char → Ending
  | [] => if f = .version then .version else .help
  | cs =>
    let ignored := flagProblem f ("ignored explicit argument " ++ quoted (String.ofList cs))
    if spelling.startsWith "--" then ignored
    else match cs with
      | c :: rest =>
        match Flag.ofSpelling? (String.ofList ['-', c]) with
        | some f => ending f (String.ofList ['-', c]) rest
        | none => ignored
      | [] => ignored

/-- How a flag without a value ends the reading, given what is attached to it. -/
def endingOf (f : Flag) (spelling : String) : Option String → Ending
  | none => if f = .version then .version else .help
  | some "" => flagProblem f ("ignored explicit argument " ++ quoted "")
  | some attached => ending f spelling attached.toList

/-- Takes words in order. The project is the first value; whatever else is not understood is kept. -/
def takeWords : List Word → (taken : Bool) → List String → CommandLine →
    Except Ending (List String × CommandLine)
  | [], _, extras, c => .ok (extras, c)
  | .unknown t :: rest, taken, extras, c => takeWords rest taken (extras ++ [t]) c
  | .value v :: rest, false, extras, c =>
    let c := { c with project := some (Path.ofText v) }
    match rest with
    | .separator :: rest => takeWords rest true extras c
    | rest => takeWords rest true extras c
  | .separator :: rest, false, extras, c =>
    match rest with
    | .value v :: rest => takeWords rest true extras { c with project := some (Path.ofText v) }
    | rest => takeWords rest true extras c
  | .value v :: rest, true, extras, c => takeWords rest true (extras ++ [v]) c
  | .separator :: rest, true, extras, c => takeWords rest true (extras ++ ["--"]) c
  | .flag f spelling attached :: rest, taken, extras, c =>
    if !f.takesValue then .error (endingOf f spelling attached)
    else match attached, rest with
      | some v, rest => do takeWords rest taken extras (← c.set f v)
      | none, .value v :: rest => do takeWords rest taken extras (← c.set f v)
      | none, _ => .error (flagProblem f "expected one argument")

/-- Reads a command line. -/
def parseCommandLine (words : List String) : Except Ending CommandLine := do
  let (extras, c) ← takeWords (← sortWords words) false [] {}
  if extras.isEmpty then return c
  else throw (.usage ("unrecognized arguments: " ++ " ".intercalate extras))

/-- The line that tells the version. -/
def versionLine : String := "shuffler-gui 0.1.0\n"

/-- The status with which a program ends. -/
def Ending.status : Ending → Nat
  | .usage _ => 2
  | _ => 0

end Pseudonym.Interface
