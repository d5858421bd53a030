import Pseudonym.Json.Display
import Pseudonym.Name.Style
import Pseudonym.Renaming.Cascade

/-!
# Settings

The settings of a run are read from untyped data: every setting holds a value of any shape until the
settings are checked. Reading never fails on a value, only on data that is no object. A setting
that is not given has its default; a key that is no setting is ignored.
-/

namespace Pseudonym

/-! ## The settings -/

/-- A setting. -/
inductive Setting where
  | name
  | version
  | renamePrivate
  | renameProtected
  | renamePackageDefault
  | renameDefaultMethods
  | renamePublic
  | includeLibraries
  | ignoreMarkers
  | serializationMarkers
  | maxAttempts
  | scope
  | accessorPolicy
  | convention
  | maxTokens
  | seed
  | workers
  | libraryPaths
  | stripComments
  | inlineConstants
  | overloading
  | logLevel
deriving DecidableEq, Repr, Inhabited

namespace Setting

/-- All settings in the order in which they are written. -/
def all : List Setting :=
  [.name, .version, .renamePrivate, .renameProtected, .renamePackageDefault, .renameDefaultMethods,
   .renamePublic, .includeLibraries, .ignoreMarkers, .serializationMarkers, .maxAttempts, .scope,
   .accessorPolicy, .convention, .maxTokens, .seed, .workers, .libraryPaths, .stripComments,
   .inlineConstants, .overloading, .logLevel]

/-- The key under which a setting is written. -/
def key : Setting → String
  | .name => "name"
  | .version => "version"
  | .renamePrivate => "rename_private"
  | .renameProtected => "rename_protected"
  | .renamePackageDefault => "rename_package_default"
  | .renameDefaultMethods => "rename_default_interface_method"
  | .renamePublic => "rename_public"
  | .includeLibraries => "include_external_library_sources"
  | .ignoreMarkers => "ignore_markers"
  | .serializationMarkers => "serialization_markers"
  | .maxAttempts => "max_rename_attempts"
  | .scope => "operation_scope"
  | .accessorPolicy => "accessor_policy"
  | .convention => "naming_convention"
  | .maxTokens => "max_name_tokens"
  | .seed => "random_seed"
  | .workers => "training_workers"
  | .libraryPaths => "library_paths"
  | .stripComments => "strip_comments"
  | .inlineConstants => "inline_private_constants"
  | .overloading => "allow_overloading"
  | .logLevel => "log_level"

/-- Further keys that are read for a setting. -/
def otherKeys : List (String × Setting) :=
  [("renamePrivate", .renamePrivate),
   ("renameProtected", .renameProtected),
   ("renamePackage", .renamePackageDefault),
   ("renamePackageDefault", .renamePackageDefault),
   ("renameDefault", .renameDefaultMethods),
   ("renameDefaultInterfaceMethod", .renameDefaultMethods),
   ("renamePublic", .renamePublic),
   ("includeLibraries", .includeLibraries),
   ("includeExternalLibrarySources", .includeLibraries),
   ("ignoreMarkers", .ignoreMarkers),
   ("ignoreMarkerAnnotations", .ignoreMarkers),
   ("serializationMarkers", .serializationMarkers),
   ("maxRenameAttempts", .maxAttempts),
   ("refactoringAttempts", .maxAttempts),
   ("operationScope", .scope),
   ("accessorPolicy", .accessorPolicy),
   ("namingConvention", .convention),
   ("maxNameTokens", .maxTokens),
   ("randomSeed", .seed),
   ("trainingWorkers", .workers),
   ("libraryPaths", .libraryPaths),
   ("stripComments", .stripComments),
   ("inlinePrivateConstants", .inlineConstants),
   ("allowOverloading", .overloading),
   ("logLevel", .logLevel)]

/-- The setting that a key stands for. -/
def ofKey? (key : String) : Option Setting :=
  match otherKeys.find? fun k => k.1 = key with
  | some (_, s) => some s
  | none => all.find? fun s => s.key = key

end Setting

/-! ## Defaults -/

/-- The version of the settings format. -/
def settingsVersion : String := "1.0"

/-- Decorators and bases whose members are looked up by name at run time. -/
def defaultIgnoreMarkers : List String :=
  ["builtins.property", "functools.cached_property", "functools.singledispatchmethod",
   "typing.overload", "abc.abstractproperty", "dataclasses.*", "attr.*", "attrs.*", "pydantic.*",
   "sqlalchemy.*", "marshmallow.*", "django.*", "pytest.*", "click.*"]

/-- Types whose field names are part of a serialised form. -/
def defaultSerializationMarkers : List String :=
  ["typing.NamedTuple", "typing.TypedDict", "typing_extensions.TypedDict",
   "collections.namedtuple", "enum.*", "json.JSONEncoder", "pickle.*"]

/-- The part of a project whose declarations are renamed. -/
inductive OperationScope where
  /-- A single file. -/
  | file
  /-- The files directly inside a directory. -/
  | directory
  /-- A package directory and everything below it. -/
  | module
  /-- Every file of the project. -/
  | program
deriving DecidableEq, Repr, Inhabited

namespace OperationScope

/-- All scopes. -/
def all : List OperationScope := [.file, .directory, .module, .program]

/-- The word for a scope. -/
def word : OperationScope → String
  | .file => "file"
  | .directory => "directory"
  | .module => "module"
  | .program => "program"

/-- The scope that a word names. -/
def ofWord? (s : String) : Option OperationScope := all.find? (·.word = s)

end OperationScope

/-- The value of a setting that is not given. -/
def Setting.defaultValue : Setting → Json
  | .name => .string "Default"
  | .version => .string settingsVersion
  | .renamePrivate => .bool true
  | .renameProtected => .bool true
  | .renamePackageDefault => .bool false
  | .renameDefaultMethods => .bool false
  | .renamePublic => .bool false
  | .includeLibraries => .bool false
  | .ignoreMarkers => .ofTexts defaultIgnoreMarkers
  | .serializationMarkers => .ofTexts defaultSerializationMarkers
  | .maxAttempts => .int 5
  | .scope => .string OperationScope.program.word
  | .accessorPolicy => .string AccessorPolicy.skipAccessor.word
  | .convention => .string Name.Convention.snake.word
  | .maxTokens => .int 8
  | .seed => .null
  | .workers => .int 4
  | .libraryPaths => .array []
  | .stripComments => .bool true
  | .inlineConstants => .bool false
  | .overloading => .bool false
  | .logLevel => .string "INFO"

/-! ## Reading and writing -/

/-- A value for every setting, not yet checked. -/
structure Settings where
  value : Setting → Json

namespace Settings

/-- All settings at their defaults. -/
def default : Settings := ⟨Setting.defaultValue⟩

instance : Inhabited Settings := ⟨default⟩

/-- Gives a setting a value. -/
def set (s : Settings) (setting : Setting) (v : Json) : Settings :=
  ⟨fun t => if t = setting then v else s.value t⟩

/-- Takes over one field; a key that is no setting changes nothing. -/
def setField (s : Settings) (field : String × Json) : Settings :=
  match Setting.ofKey? field.1 with
  | some setting => s.set setting field.2
  | none => s

/-- Takes over fields in turn, so that a later one wins. -/
def ofFields (fields : List (String × Json)) : Settings := fields.foldl setField default

/-- Reads settings; only an object holds any. -/
def ofJson? : Json → Option Settings
  | .object fields => some (ofFields fields)
  | _ => none

/-- All settings as fields, in order. -/
def toFields (s : Settings) : List (String × Json) :=
  Setting.all.map fun setting => (setting.key, s.value setting)

/-- All settings as an object. -/
def toJson (s : Settings) : Json := .object s.toFields

end Settings

end Pseudonym
