import Pseudonym.Files.Disk
import Pseudonym.Json.Reader
import Pseudonym.Json.Writer
import Pseudonym.Settings.Check

/-!
# Profiles

A profile is a file that holds checked settings as indented text. Only settings that pass every
check are saved, and only such settings are loaded. An integer of a setting can be too long to be
written or read; a text that is being written then breaks off before it.
-/

namespace Pseudonym

open Files

/-- Why a profile is not saved or not loaded. -/
inductive ProfileError where
  /-- The settings to be saved fail a check. -/
  | unsaved (fault : SettingsFault)
  /-- The file cannot be written. -/
  | unwritten (error : FileError)
  /-- A number has too many digits to be written. -/
  | longNumber
  /-- There is no file. -/
  | absent (path : Path)
  /-- The file cannot be read. -/
  | unread (error : FileError)
  /-- The file is not UTF-8. -/
  | notText
  /-- The file is no data. -/
  | notData
  /-- A number in the file has too many digits to be read. -/
  | unreadNumber (digits : Nat)
  /-- The settings in the file fail a check. -/
  | refused (fault : SettingsFault)

/-- The start of an error about a number that is too long. -/
def longNumberText : String :=
  "Exceeds the limit (" ++ toString Number.maxDigits ++ " digits) for integer string conversion"

/-- The end of an error about a number that is too long. -/
def raiseLimitText : String := "; use sys.set_int_max_str_digits() to increase the limit"

/-- The text of an error. -/
def ProfileError.message : ProfileError → String
  | .unsaved f =>
    (if f.isShape then "Failed to serialize configuration: "
      else "Configuration validation failed: ") ++ f.message
  | .unwritten e => "Failed to write profile file: " ++ e.message
  | .longNumber => longNumberText ++ raiseLimitText
  | .absent p => "Profile file not found: " ++ p.text
  | .unread e => e.message
  | .notText => ""
  | .notData => "Invalid JSON format in profile file"
  | .unreadNumber digits =>
    longNumberText ++ ": value has " ++ toString digits ++ " digits" ++ raiseLimitText
  | .refused f =>
    (if f.isShape then "Invalid option in profile: " else "Profile validation failed: ") ++ f.message

namespace Settings

/-- Settings as the text of a profile. -/
def profileText (s : Settings) : String := s.toJson.pretty 0

/-- Whether a value is an integer with too many digits to be written. -/
def isLong : Json → Bool
  | .number (.integer n) => Number.maxDigits < (toString n.natAbs).length
  | _ => false

/-- What is written of settings, and whether that is all of them. -/
def written (s : Settings) : String × Bool :=
  match s.toFields.span fun f => !isLong f.2 with
  | (_, []) => (s.profileText, true)
  | (done, (key, _) :: _) => ("\x7b" ++ Json.prettyFieldsBefore 1 key done, false)

/-- Reads the text of a profile. -/
def ofProfileText (text : String) : Except ProfileError (Settings × Options) :=
  match Json.parse text with
  | .error .malformed => .error .notData
  | .error (.longInteger digits) => .error (.unreadNumber digits)
  | .ok data =>
    match load data with
    | .ok loaded => .ok loaded
    | .error f => .error (.refused f)

/-- Saves a profile, together with the folders above it. The disk is the one that is left, also where
saving fails. -/
def saveProfile (s : Settings) (d : Disk) (p : Path) : Except ProfileError Unit × Disk :=
  match s.check with
  | .error f => (.error (.unsaved f), d)
  | .ok _ =>
    match d.ensureFolder p.parent with
    | .error e => (.error (.unwritten e), d)
    | .ok d =>
      match d.write p s.written.1.toUTF8 with
      | .error e => (.error (.unwritten e), d)
      | .ok d => (if s.written.2 then .ok () else .error .longNumber, d)

/-- Loads a profile. -/
def loadProfile (d : Disk) (p : Path) : Except ProfileError (Settings × Options) :=
  if !d.contains p then .error (.absent p)
  else match d.read p with
    | .error e => .error (.unread e)
    | .ok bytes =>
      match String.fromUTF8? bytes with
      | none => .error .notText
      | some text => ofProfileText text

/-- Whether a profile can be loaded; a file that is no text, or that has a number too long to be read,
is an error. -/
def isProfile (d : Disk) (p : Path) : Except ProfileError Bool :=
  match loadProfile d p with
  | .ok _ => .ok true
  | .error .notText => .error .notText
  | .error (.unreadNumber digits) => .error (.unreadNumber digits)
  | .error _ => .ok false

end Settings

end Pseudonym
