import Pseudonym.Files.Disk
import Pseudonym.Settings.Check

/-!
# Logs

Loggers form a hierarchy by their dotted names, below one root without a name. A record goes to the
handlers of its logger and, as long as it is passed on, to those of the loggers above. Setting up a
logger gives it a level and one handler for the console; asking for a logger sets it up only if
nothing above it would handle its records.
-/

namespace Pseudonym.Log

open Files Text

/-! ## Loggers -/

/-- Where a handler writes. -/
inductive HandlerKind where
  | console
  | file
deriving DecidableEq, Repr, Inhabited

/-- The form of the lines that a handler writes. -/
def HandlerKind.format : HandlerKind → String
  | .console => "%(levelname)s: %(message)s"
  | .file => "%(asctime)s - %(name)s - %(levelname)s - %(filename)s:%(lineno)d - %(message)s"

/-- A handler with the level from which on it writes. -/
structure Handler where
  kind : HandlerKind
  level : String
deriving DecidableEq, Repr, Inhabited

/-- A logger. Without a level of its own the one above counts. -/
structure Logger where
  level : Option String := none
  /-- Whether records are passed on to the logger above. -/
  propagate : Bool := true
  handlers : List Handler := []
deriving DecidableEq, Repr, Inhabited

/-- Whether a logger has a handler of a kind. -/
def Logger.has (l : Logger) (kind : HandlerKind) : Bool := l.handlers.any (·.kind = kind)

/-- All loggers. -/
structure Registry where
  root : Logger := { level := some "WARNING" }
  loggers : List (String × Logger) := []
deriving DecidableEq, Repr, Inhabited

/-- Why a logger is not set up. -/
inductive LogError where
  | badLevel (level : String)
  | file (error : FileError)
deriving DecidableEq, Repr

/-- The text of an error. -/
def LogError.message : LogError → String
  | .badLevel level =>
    "Invalid log level: " ++ level ++ ". Must be one of " ++ Json.displayTexts logLevels
  | .file e => e.message

/-- A level in any letter case. -/
def checkLevel (level : String) : Except LogError String :=
  if logLevels.contains (upper level) then .ok (upper level) else .error (.badLevel level)

namespace Registry

/-- Whether a name stands for the root. -/
def isRoot (name : String) : Bool := name = "" || name = "root"

/-- The logger of a name, if it has been asked for. -/
def find? (r : Registry) (name : String) : Option Logger :=
  if isRoot name then some r.root else (r.loggers.find? (·.1 = name)).map (·.2)

/-- The logger of a name; a new one is bare. -/
def get (r : Registry) (name : String) : Logger := (r.find? name).getD {}

/-- Replaces the logger of a name in a list. -/
def assign (name : String) (l : Logger) : List (String × Logger) → List (String × Logger)
  | [] => [(name, l)]
  | (n, old) :: rest => if n = name then (n, l) :: rest else (n, old) :: assign name l rest

/-- Replaces the logger of a name. -/
def set (r : Registry) (name : String) (l : Logger) : Registry :=
  if isRoot name then { r with root := l } else { r with loggers := assign name l r.loggers }

/-- Makes sure that there is a logger of a name. -/
def touch (r : Registry) (name : String) : Registry := r.set name (r.get name)

/-! ## The hierarchy -/

/-- The names above a dotted name, the nearest first. -/
def namesAbove (name : String) : List String :=
  let parts := name.splitOn "."
  (((List.range parts.length).drop 1).reverse.map fun n =>
    ".".intercalate (parts.take n)).takeWhile (· ≠ "")

/-- The loggers that a record of a logger meets, from its own to the root, as long as it is passed
on. -/
def passed : List Logger → List Logger
  | [] => []
  | l :: rest => if l.propagate then l :: passed rest else [l]

/-- The loggers from a name up to the root. -/
def chain (r : Registry) (name : String) : List Logger :=
  if isRoot name then [r.root]
  else (name :: namesAbove name).filterMap (fun n => if isRoot n then none else r.find? n) ++ [r.root]

/-- Whether some handler gets the records of a logger. -/
def isHandled (r : Registry) (name : String) : Bool :=
  (passed (r.chain name)).any fun l => !l.handlers.isEmpty

/-! ## Operations -/

/-- Gives a logger a level. -/
def setLevel (r : Registry) (name level : String) : Except LogError Registry := do
  let level ← checkLevel level
  return r.set name { r.get name with level := some level }

/-- Adds a handler. -/
def addHandler (r : Registry) (name : String) (h : Handler) : Registry :=
  let l := r.get name
  r.set name { l with handlers := l.handlers ++ [h] }

/-- Adds a handler for the console. -/
def addConsole (r : Registry) (name level : String) : Except LogError Registry := do
  return r.addHandler name ⟨.console, ← checkLevel level⟩

/-- Opens a log file for appending, together with the folders above it. -/
def openFile (d : Disk) (p : Path) : Except FileError Disk := do
  let d ← d.ensureFolder p.parent
  let p := p.clean
  let content := match d.read p with
    | .ok content => content
    | .error _ => ByteArray.empty
  d.write p content

/-- Adds a handler for a file, which is created at once. -/
def addFile (r : Registry) (d : Disk) (name : String) (p : Path) (level : String) :
    Except LogError (Registry × Disk) := do
  let level ← checkLevel level
  match openFile d p with
  | .error e => .error (.file e)
  | .ok d => return (r.addHandler name ⟨.file, level⟩, d)

/-- Sets up a logger: a level, one handler for the console and, if wanted, one for a file. What was
done before a failure stays done. -/
def setup (r : Registry) (d : Disk) (name level : String) (file : Option Path) :
    Option LogError × Registry × Disk :=
  match r.setLevel name level with
  | .error e => (some e, r, d)
  | .ok r =>
    let r := if (r.get name).has .console then r
      else (r.addConsole name level).toOption.getD r
    match file with
    | none => (none, r, d)
    | some p =>
      if (r.get name).has .file then (none, r, d)
      else match r.addFile d name p "DEBUG" with
        | .ok (r, d) => (none, r, d)
        | .error e => (some e, r, d)

/-- Looks for handlers on the names above, in turn; every name that is looked at becomes a logger. -/
def searchAbove (r : Registry) : List String → Bool × Registry
  | [] => (false, r)
  | name :: rest =>
    let r := r.touch name
    if (r.get name).handlers.isEmpty then searchAbove r rest else (true, r)

/-- Asks for a logger. -/
def ask (r : Registry) (name : String) : Registry :=
  let r := r.touch name
  if r.isHandled name then r
  else
    let (found, r) := r.searchAbove (namesAbove name)
    if found || !r.root.handlers.isEmpty then r
    else (r.setup {} name "INFO" none).2.1

/-- The level that counts for a logger: its own, or the nearest one above. -/
def effectiveLevel? (r : Registry) (name : String) : Option String :=
  (r.chain name).findSome? (·.level)

end Registry

/-- The folder of the log files. -/
def logFolder : Path := Path.ofText "logs"

end Pseudonym.Log
