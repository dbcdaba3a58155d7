import StartupConfig.Setting

/-!
# Records that are being read

A draft has some of the settings. It becomes a record when it has all of them; the first that is missing is
named.
-/
namespace StartupConfig

/-- What a record is read as: the record itself, or the values to fall back to. -/
inductive Role
  | configuration
  | defaults
  deriving DecidableEq, Repr

/-- The name of a role in messages. -/
def Role.name : Role → String
  | .configuration => "OperatorConfig"
  | .defaults => "ConfigDefaults"

/-- Some of the settings of a record. -/
structure Draft where
  templateFile : Option String
  initImage : Option String
  deliveryImage : Option String
  maxTries : Option Long
  deriving DecidableEq, Repr

namespace Draft

/-- A draft without settings. -/
def empty : Draft := ⟨none, none, none, none⟩

/-- Does the draft have a setting? -/
def has (d : Draft) : Setting → Bool
  | .templateFile => d.templateFile.isSome
  | .initImage => d.initImage.isSome
  | .deliveryImage => d.deliveryImage.isSome
  | .maxTries => d.maxTries.isSome

/-- The record of a draft that has every setting, or the first setting that it lacks. -/
def complete (d : Draft) : Except Setting Record :=
  match d.templateFile, d.initImage, d.deliveryImage, d.maxTries with
  | none, _, _, _ => .error .templateFile
  | _, none, _, _ => .error .initImage
  | _, _, none, _ => .error .deliveryImage
  | _, _, _, none => .error .maxTries
  | some t, some i, some m, some n => .ok ⟨t, i, m, n⟩

end Draft

end StartupConfig
