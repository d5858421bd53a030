import Pseudonym.Settings.Check

/-!
# Presets

Three sets of settings that come with the library. The name of a preset is read in any letter case
and with blanks around it.
-/

namespace Pseudonym

open Text

/-- A preset. -/
inductive Preset where
  | conservative
  | balanced
  | aggressive
deriving DecidableEq, Repr, Inhabited

/-- There is no preset of a name. -/
structure UnknownPreset where
  name : String
deriving DecidableEq, Repr

namespace Preset

/-- All presets. -/
def all : List Preset := [.conservative, .balanced, .aggressive]

/-- The name of a preset. -/
def title : Preset → String
  | .conservative => "Conservative"
  | .balanced => "Balanced"
  | .aggressive => "Aggressive"

/-- The settings that a preset gives. -/
def fields : Preset → List (Setting × Json)
  | .conservative =>
    [(.name, .string "Conservative Profile"), (.renamePrivate, .bool true),
     (.renameProtected, .bool false), (.renamePackageDefault, .bool false),
     (.renameDefaultMethods, .bool false), (.renamePublic, .bool false),
     (.accessorPolicy, .string AccessorPolicy.skipCascade.word), (.stripComments, .bool true),
     (.inlineConstants, .bool false)]
  | .balanced =>
    [(.name, .string "Balanced Profile"), (.renamePrivate, .bool true),
     (.renameProtected, .bool true), (.renamePackageDefault, .bool false),
     (.renameDefaultMethods, .bool false), (.renamePublic, .bool false),
     (.accessorPolicy, .string AccessorPolicy.skipAccessor.word), (.stripComments, .bool true),
     (.inlineConstants, .bool false)]
  | .aggressive =>
    [(.name, .string "Aggressive Profile"), (.renamePrivate, .bool true),
     (.renameProtected, .bool true), (.renamePackageDefault, .bool true),
     (.renameDefaultMethods, .bool true), (.renamePublic, .bool true),
     (.accessorPolicy, .string AccessorPolicy.proceed.word), (.stripComments, .bool true),
     (.inlineConstants, .bool true), (.maxAttempts, .int 10)]

/-- The settings of a preset. -/
def settings (p : Preset) : Settings :=
  p.fields.foldl (fun s (setting, v) => s.set setting v) Settings.default

/-- The preset of a name. -/
def ofName? (name : String) : Except UnknownPreset Preset :=
  match all.find? fun p => p.title = Text.title (trim name) with
  | some p => .ok p
  | none => .error ⟨name⟩

end Preset

/-- The text for a name without a preset. -/
def UnknownPreset.message (e : UnknownPreset) : String :=
  "Invalid preset name: " ++ e.name ++ ". Valid presets: " ++
    Json.displayTexts (Preset.all.map Preset.title)

end Pseudonym
