import Pseudonym.Renaming.Eligibility
import Pseudonym.Settings.Basic

/-!
# Checked settings

Checking turns raw settings into typed options. The checks run in a fixed order and the first one
that fails decides the answer.
-/

namespace Pseudonym

open Text

/-! ## Faults -/

/-- What is wrong with the settings. -/
inductive SettingsFault where
  /-- The data is no object. -/
  | notMapping (data : Json)
  | version (value : Json)
  | blankName
  | notBoolean (setting : Setting)
  | notTexts (setting : Setting)
  | badMarker (marker : String)
  | notInteger (setting : Setting)
  | belowOne (setting : Setting)
  | tokenRange
  | badSeed
  | badChoice (setting : Setting) (value : Json)
  /-- A list or an object where one of a few words is wanted. -/
  | notComparable (value : Json)
  | badLevel (value : Json)

/-- The words that a setting may be, sorted. -/
def Setting.choices : Setting → List String
  | .scope => MarkerSet.sortTexts (OperationScope.all.map (·.word))
  | .accessorPolicy => MarkerSet.sortTexts (AccessorPolicy.all.map (·.word))
  | .convention => MarkerSet.sortTexts (Name.Convention.all.map (·.word))
  | _ => []

/-- The levels of a log, from the least to the most severe. -/
def logLevels : List String := ["DEBUG", "INFO", "WARNING", "ERROR", "CRITICAL"]

namespace SettingsFault

/-- The text of a fault. -/
def message : SettingsFault → String
  | .notMapping data => "Configuration must be a mapping, got " ++ data.typeWord
  | .version v => "Invalid version: " ++ v.displayAlone ++ ". Expected '" ++ settingsVersion ++ "'"
  | .blankName => "Option 'name' must be a non-empty string"
  | .notBoolean s => "Option '" ++ s.key ++ "' must be a boolean"
  | .notTexts s => "Option '" ++ s.key ++ "' must be a list of strings"
  | .badMarker m => "Invalid marker '" ++ m ++ "'. Use a qualified name or 'package.*'"
  | .notInteger s => "Option '" ++ s.key ++ "' must be an integer"
  | .belowOne s => "Option '" ++ s.key ++ "' must be at least 1"
  | .tokenRange => "Option 'max_name_tokens' must be between 1 and 64"
  | .badSeed => "Option 'random_seed' must be an integer or None"
  | .badChoice s v =>
    "Invalid " ++ s.key ++ ": " ++ v.displayAlone ++ ". Expected one of " ++
      Json.displayTexts s.choices
  | .notComparable v => "unhashable type: '" ++ v.typeWord ++ "'"
  | .badLevel v =>
    "Invalid log_level: " ++ v.displayAlone ++ ". Expected one of " ++ Json.displayTexts logLevels

/-- Whether a fault is one of shape rather than of value: it is found before any comparison. -/
def isShape : SettingsFault → Bool
  | .notComparable _ => true
  | _ => false

end SettingsFault

/-! ## Options -/

/-- Settings that passed every check. -/
structure Options where
  name : String
  filter : Filter
  includeLibraries : Bool
  maxAttempts : Nat
  scope : OperationScope
  accessorPolicy : AccessorPolicy
  convention : Name.Convention
  maxTokens : Nat
  /-- The seed; a run without one is not reproducible. -/
  seed : Option Int
  workers : Nat
  libraryPaths : List String
  stripComments : Bool
  inlineConstants : Bool
  overloading : Bool
  logLevel : String
deriving Repr, Inhabited

/-! ## Single checks -/

/-- The texts of a list that holds nothing else. -/
def Json.texts? : Json → Option (List String)
  | .array items => items.mapM Json.string?
  | _ => none

namespace Settings

/-- A truth value. -/
def checkBool (s : Settings) (setting : Setting) : Except SettingsFault Bool :=
  match (s.value setting).bool? with
  | some b => .ok b
  | none => .error (.notBoolean setting)

/-- A list of texts. -/
def checkTexts (s : Settings) (setting : Setting) : Except SettingsFault (List String) :=
  match (s.value setting).texts? with
  | some texts => .ok texts
  | none => .error (.notTexts setting)

/-- An integer. -/
def checkInt (s : Settings) (setting : Setting) : Except SettingsFault Int :=
  match (s.value setting).int? with
  | some n => .ok n
  | none => .error (.notInteger setting)

/-- An integer of at least one. -/
def checkCount (s : Settings) (setting : Setting) : Except SettingsFault Nat := do
  let n ← s.checkInt setting
  if n < 1 then .error (.belowOne setting) else .ok n.toNat

/-- One of a few words. -/
def checkChoice (s : Settings) (setting : Setting) (ofWord? : String → Option α) :
    Except SettingsFault α :=
  match s.value setting with
  | .string word =>
    match ofWord? word with
    | some a => .ok a
    | none => .error (.badChoice setting (.string word))
  | .array items => .error (.notComparable (.array items))
  | .object fields => .error (.notComparable (.object fields))
  | v => .error (.badChoice setting v)

/-- The version has to be the current one. -/
def checkVersion (s : Settings) : Except SettingsFault Unit :=
  match s.value .version with
  | .string v => if v = settingsVersion then .ok () else .error (.version (.string v))
  | v => .error (.version v)

/-- A name that is not blank. -/
def checkName (s : Settings) : Except SettingsFault String :=
  match s.value .name with
  | .string name => if isBlankText name then .error .blankName else .ok name
  | _ => .error .blankName

/-- Whether a marker is a qualified name or a package with a wildcard. -/
def isMarker (marker : String) : Bool :=
  let entry := trim marker
  let body := (MarkerSet.package? entry).getD entry
  body ≠ "" && !body.toList.contains '*'

/-- Markers of the right form. -/
def checkMarkers (markers : List String) : Except SettingsFault Unit :=
  match markers.find? fun m => !isMarker m with
  | some m => .error (.badMarker m)
  | none => .ok ()

/-- The seed, perhaps none. -/
def checkSeed (s : Settings) : Except SettingsFault (Option Int) :=
  match s.value .seed with
  | .null => .ok none
  | v =>
    match v.int? with
    | some n => .ok (some n)
    | none => .error .badSeed

/-- A log level in any letter case. -/
def checkLevel (s : Settings) : Except SettingsFault String :=
  match s.value .logLevel with
  | .string level =>
    if logLevels.contains (upper level) then .ok level else .error (.badLevel (.string level))
  | v => .error (.badLevel v)

/-- The limit on the words of a name. -/
def checkTokens (s : Settings) : Except SettingsFault Nat := do
  let n ← s.checkInt .maxTokens
  if 1 ≤ n ∧ n ≤ 64 then .ok n.toNat else .error .tokenRange

/-! ## All checks -/

/-- Checks every setting. -/
def check (s : Settings) : Except SettingsFault Options := do
  s.checkVersion
  let name ← s.checkName
  let renamePrivate ← s.checkBool .renamePrivate
  let renameProtected ← s.checkBool .renameProtected
  let renamePackageDefault ← s.checkBool .renamePackageDefault
  let renameDefaultMethods ← s.checkBool .renameDefaultMethods
  let renamePublic ← s.checkBool .renamePublic
  let includeLibraries ← s.checkBool .includeLibraries
  let stripComments ← s.checkBool .stripComments
  let inlineConstants ← s.checkBool .inlineConstants
  let overloading ← s.checkBool .overloading
  let ignoreMarkers ← s.checkTexts .ignoreMarkers
  let serializationMarkers ← s.checkTexts .serializationMarkers
  let libraryPaths ← s.checkTexts .libraryPaths
  checkMarkers (ignoreMarkers ++ serializationMarkers)
  let maxAttempts ← s.checkCount .maxAttempts
  let maxTokens ← s.checkTokens
  let workers ← s.checkCount .workers
  let seed ← s.checkSeed
  let scope ← s.checkChoice .scope OperationScope.ofWord?
  let accessorPolicy ← s.checkChoice .accessorPolicy AccessorPolicy.ofWord?
  let convention ← s.checkChoice .convention Name.Convention.ofWord?
  let logLevel ← s.checkLevel
  let filter : Filter :=
    { ignoreMarkers := MarkerSet.ofList ignoreMarkers
      serializationMarkers := MarkerSet.ofList serializationMarkers
      renamePrivate, renameProtected, renamePackageDefault, renameDefaultMethods, renamePublic }
  return {
    name := name
    filter, includeLibraries, maxAttempts, scope, accessorPolicy, convention, maxTokens, seed
    workers, libraryPaths, stripComments, inlineConstants, overloading, logLevel }

/-- Reads and checks settings. -/
def load (data : Json) : Except SettingsFault (Settings × Options) :=
  match ofJson? data with
  | none => .error (.notMapping data)
  | some s => do
    let options ← s.check
    return (s, options)

/-- The rules on what may be renamed, without a check of the other settings. -/
def filter (s : Settings) : Except SettingsFault Filter := do
  let ignoreMarkers ← s.checkTexts .ignoreMarkers
  let serializationMarkers ← s.checkTexts .serializationMarkers
  return {
    ignoreMarkers := MarkerSet.ofList ignoreMarkers
    serializationMarkers := MarkerSet.ofList serializationMarkers
    renamePrivate := ← s.checkBool .renamePrivate
    renameProtected := ← s.checkBool .renameProtected
    renamePackageDefault := ← s.checkBool .renamePackageDefault
    renameDefaultMethods := ← s.checkBool .renameDefaultMethods
    renamePublic := ← s.checkBool .renamePublic }

end Settings

end Pseudonym
