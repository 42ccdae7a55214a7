import SpecReview.FileTree
import SpecReview.Settings
import SpecReview.Toml.Document

/-! The settings file of a project: a TOML document that names its version. -/

namespace SpecReview

/-- Why there are no settings in a file. -/
inductive SettingsError where
  | unreadable (cause : ReadError)
  | malformed
  deriving DecidableEq

namespace SettingsError

def message : SettingsError → String
  | .unreadable cause => "Failed to read config file: " ++ cause.message
  | .malformed => "Failed to parse config file"

end SettingsError

namespace Settings

/-- The version of settings files. -/
def version : String := "1"

/-- A length, if a document sets it. -/
def length? (key : String) (es : Toml.Entries) : Except SettingsError (Option Nat) :=
  match es.lookup key with
  | none => .ok none
  | some (.integer (.ofNat n)) => .ok (some n)
  | some _ => .error .malformed

/-- A switch, which is off unless a document sets it. -/
def switch (key : String) (es : Toml.Entries) : Except SettingsError Bool :=
  match es.lookup key with
  | none => .ok false
  | some (.boolean b) => .ok b
  | some _ => .error .malformed

/-- The settings that a document holds. It has to name the version, and entries of other keys
do not matter. -/
def ofEntries (es : Toml.Entries) : Except SettingsError Settings := do
  match es.lookup "_version" with
  | some (.text v) => if v = version then pure () else .error .malformed
  | _ => .error .malformed
  let least ← length? "min_purpose_length" es
  let greatest ← length? "max_requirement_length" es
  let strict ← switch "strict" es
  pure ⟨least.getD standard.minPurposeLength, greatest, strict⟩

/-- The settings in the text of a file. -/
def ofText (text : String) : Except SettingsError Settings :=
  match Toml.Entries.ofText? text with
  | some es => ofEntries es
  | none => .error .malformed

/-- The settings in a file. -/
def load (t : FileTree) (path : Path) : Except SettingsError Settings :=
  match t.read path with
  | .ok text => ofText text
  | .error cause => .error (.unreadable cause)

/-- The settings of a project, which are the standard ones unless it has a settings file that
can be read. -/
def ofProject (t : FileTree) (root : Path) : Settings :=
  match load t (root.join "config.toml") with
  | .ok s => s
  | .error _ => standard

end Settings

end SpecReview
