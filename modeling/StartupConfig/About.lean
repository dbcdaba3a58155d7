import StartupConfig.Format

/-!
# The program's name and version
-/
namespace StartupConfig

/-- The name that the program is run by. -/
def programName : String := "training-operator-config"

/-- The version of the program. -/
def programVersion : String := "0.1.0"

/-- Name and version as a tree. -/
def versionTree : Tree := .record [("name", .text programName), ("version", .text programVersion)]

/-- Name and version in a format. -/
def versionOutput (f : Format) : Output :=
  f.output (.plain (programName.toList ++ ' ' :: programVersion.toList ++ ['\n'])) versionTree

end StartupConfig
