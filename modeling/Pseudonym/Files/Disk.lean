import Pseudonym.Files.Path
import Pseudonym.Text.Quoted

/-!
# Directory trees

A disk is a tree of folders and files. A path is followed from the top one component at a time:
every component but the last has to be a folder, and a double dot leads back to the folder above.
An operation that cannot be carried out names its cause and leaves the disk as it was.
-/

namespace Pseudonym.Files

/-! ## Trees -/

/-- A file with its bytes, or a folder with its entries. -/
inductive Node where
  | file (content : ByteArray)
  | folder (entries : List (String × Node))

namespace Node

instance : Inhabited Node := ⟨.folder []⟩

/-- The entry of a name. -/
def child? (name : String) : List (String × Node) → Option Node
  | [] => none
  | (n, node) :: rest => if n = name then some node else child? name rest

/-- Puts an entry in place of the one of its name, or at the end. -/
def setEntry (name : String) (node : Node) : List (String × Node) → List (String × Node)
  | [] => [(name, node)]
  | (n, old) :: rest => if n = name then (n, node) :: rest else (n, old) :: setEntry name node rest

/-- The node that a list of names leads to. -/
def get? : List String → Node → Option Node
  | [], node => some node
  | _ :: _, .file _ => none
  | name :: rest, .folder entries => (child? name entries).bind (get? rest)

/-- Puts a node at a place whose folder exists. -/
def put (new : Node) : List String → Node → Node
  | [], _ => new
  | _ :: _, .file content => .file content
  | name :: rest, .folder entries =>
    .folder (setEntry name (put new rest ((child? name entries).getD (.folder []))) entries)

/-- Whether a node is a folder. -/
def isFolder : Node → Bool
  | .folder _ => true
  | .file _ => false

mutual

/-- All files below a node by their names on the way, except below skipped folders. -/
def files (skip : String → Bool) : Node → List (List String)
  | .file _ => [[]]
  | .folder entries => filesIn skip entries

/-- All files below the entries of a folder. -/
def filesIn (skip : String → Bool) : List (String × Node) → List (List String)
  | [] => []
  | (name, node) :: rest =>
    let below := if node.isFolder && skip name then [] else files skip node
    below.map (name :: ·) ++ filesIn skip rest

end

end Node

/-! ## Disks -/

/-- A right that may be denied. -/
inductive Access where
  | read
  | write
deriving DecidableEq, Repr

/-- A tree and the rights that are denied on it. -/
structure Disk where
  top : Node := .folder []
  denied : List (Path × Access) := []
deriving Inhabited

/-- Why a file operation fails. -/
inductive FileCause where
  | missing
  | occupied
  | notFolder
  | isFolder
deriving DecidableEq, Repr

/-- The text of a cause, with its number. -/
def FileCause.text : FileCause → String
  | .missing => "[Errno 2] No such file or directory"
  | .occupied => "[Errno 17] File exists"
  | .notFolder => "[Errno 20] Not a directory"
  | .isFolder => "[Errno 21] Is a directory"

/-- A file operation that failed. -/
structure FileError where
  cause : FileCause
  path : Path
deriving DecidableEq, Repr

/-- The text of a failure. -/
def FileError.message (e : FileError) : String :=
  e.cause.text ++ ": " ++ Text.quoted e.path.text

/-- Where a path leads. -/
inductive Place where
  /-- To a node, with the names on the way to it. -/
  | taken (names : List String) (node : Node)
  /-- Into a folder that has no such entry. -/
  | free (names : List String)
  /-- Through a folder that is not there. -/
  | lost
  /-- Through a file. -/
  | blocked

/-- Follows names from a place that was reached. -/
def follow (top : Node) (reached : List String) : List String → Place
  | [] =>
    match top.get? reached with
    | some node => .taken reached node
    | none => .lost
  | name :: rest =>
    match top.get? reached with
    | none => .lost
    | some (.file _) => .blocked
    | some (.folder entries) =>
      if name = ".." then follow top reached.dropLast rest
      else match Node.child? name entries with
        | some _ => follow top (reached ++ [name]) rest
        | none => if rest.isEmpty then .free (reached ++ [name]) else .lost

namespace Disk

/-- Where a path leads on a disk. -/
def place (d : Disk) (p : Path) : Place := follow d.top [] p.parts

/-- The node at a path. -/
def node? (d : Disk) (p : Path) : Option Node :=
  match d.place p with
  | .taken _ node => some node
  | _ => none

/-- Whether there is anything at a path. -/
def contains (d : Disk) (p : Path) : Bool := (d.node? p).isSome

/-- Whether there is a folder at a path. -/
def isFolder (d : Disk) (p : Path) : Bool := ((d.node? p).map Node.isFolder).getD false

/-- Whether there is a file at a path. -/
def isFile (d : Disk) (p : Path) : Bool := ((d.node? p).map fun n => !n.isFolder).getD false

/-- Whether a right on an existing path is granted. -/
def grants (d : Disk) (p : Path) (a : Access) : Bool :=
  match d.place p with
  | .taken names _ => !(d.denied.any fun (q, b) => q.parts = names && b = a)
  | _ => false

/-! ## Operations -/

/-- The bytes of a file. -/
def read (d : Disk) (p : Path) : Except FileError ByteArray :=
  match d.place p with
  | .taken _ (.file content) => .ok content
  | .taken _ (.folder _) => .error ⟨.isFolder, p⟩
  | .blocked => .error ⟨.notFolder, p⟩
  | _ => .error ⟨.missing, p⟩

/-- Writes a file, new or not; its folder has to be there. -/
def write (d : Disk) (p : Path) (content : ByteArray) : Except FileError Disk :=
  match d.place p with
  | .taken _ (.folder _) => .error ⟨.isFolder, p⟩
  | .taken names (.file _) => .ok { d with top := Node.put (.file content) names d.top }
  | .free names => .ok { d with top := Node.put (.file content) names d.top }
  | .blocked => .error ⟨.notFolder, p⟩
  | .lost => .error ⟨.missing, p⟩

/-- Makes a folder inside an existing one. -/
def makeFolder (d : Disk) (p : Path) : Except FileError Disk :=
  match d.place p with
  | .taken _ _ => .error ⟨.occupied, p⟩
  | .free names => .ok { d with top := Node.put (.folder []) names d.top }
  | .blocked => .error ⟨.notFolder, p⟩
  | .lost => .error ⟨.missing, p⟩

/-- Makes a folder unless it is there. -/
def makeFolderOnce (d : Disk) (p : Path) : Except FileError Disk :=
  match d.makeFolder p with
  | .ok d => .ok d
  | .error e => if e.cause ≠ .missing && d.isFolder p then .ok d else .error e

/-- Makes a folder with all the folders above it. -/
def ensureFolder (d : Disk) (p : Path) : Except FileError Disk :=
  match d.makeFolderOnce p with
  | .ok d => .ok d
  | .error e =>
    if e.cause = .missing ∧ p.parts ≠ [] then do
      let d ← ensureFolder d p.parent
      d.makeFolderOnce p
    else .error e
termination_by p.parts.length
decreasing_by
  rename_i h
  have := List.length_pos_iff.2 h.2
  simp only [Path.parent, List.length_dropLast]
  omega

/-- Copies a file; into a folder it is copied under its own name. -/
def copy (d : Disk) (p q : Path) : Except FileError Disk := do
  let target := if d.isFolder q then q.child p.name else q
  let content ← d.read p
  d.write target content

/-! ## Discovery -/

/-- Folders that hold no sources of their own. -/
def excludedFolders : List String :=
  [".git", ".hg", ".svn", ".tox", ".nox", ".venv", "venv", "env", "__pycache__", ".mypy_cache",
   ".pytest_cache", "build", "dist", "node_modules", ".eggs"]

/-- Whether a folder is passed over: it is excluded by name, or hidden. -/
def isSkipped (excluded : List String) (name : String) : Bool :=
  excluded.contains name || name.startsWith "."

/-- Whether a file name ends with one of the suffixes, in any letter case; without a filter every
name does. -/
def hasSuffix (suffixes : Option (List String)) (name : String) : Bool :=
  match suffixes with
  | none => true
  | some suffixes => suffixes.any fun suffix => (Text.lower name).endsWith suffix

/-- Whether the suffix of a single file is one of the suffixes. -/
def isSuffixOf (suffixes : Option (List String)) (p : Path) : Bool :=
  match suffixes with
  | none => true
  | some suffixes => suffixes.contains (Text.lower p.suffix)

/-- The files below a folder, sorted; a single file stands for itself. -/
def collect (d : Disk) (root : Path) (excluded : List String)
    (suffixes : Option (List String)) : List Path :=
  match d.node? root with
  | none => []
  | some (.file _) => if isSuffixOf suffixes root then [root] else []
  | some (.folder entries) =>
    Path.sort (((Node.filesIn (isSkipped excluded) entries).filter fun names =>
      hasSuffix suffixes (names.getLast?.getD "")).map fun names => ⟨root.root, root.parts ++ names⟩)

/-- The suffixes of source files. -/
def sourceSuffixes : List String := [".py", ".pyw"]

/-- All files of a project. -/
def projectFiles (d : Disk) (root : Path) : List Path := d.collect root excludedFolders none

/-- All source files of a project. -/
def sourceFiles (d : Disk) (root : Path) : List Path :=
  d.collect root excludedFolders (some sourceSuffixes)

/-- Whether there is a source file at a path. -/
def isSourceFile (d : Disk) (p : Path) : Bool :=
  d.isFile p && sourceSuffixes.contains (Text.lower p.suffix)

end Disk

end Pseudonym.Files
