import BucketMap.Config.Build
import BucketMap.Document.Read

/-!
# Settings

What the environment decides: the ports assumed for nodes that list none, and how much is logged.
-/

namespace BucketMap

/-- The environment variables that are set, with their bytes. -/
abbrev Environment := List (Text × Bytes)

/-- What the environment decides. -/
structure Settings where
  dataPort : Int
  managementPort : Int
  debug : Bool
  /-- The name of the level from which on records are shown. -/
  logLevel : Text
  /-- The capability without which a bucket that lists capabilities is ephemeral. -/
  capability : Text

namespace Settings

/-- The value of a variable, or a default. -/
def valueOf (environment : Environment) (name default : String) : Text :=
  match environment.find? fun v => v.1 = Text.ofString name with
  | some (_, value) => Escaped.decode value
  | none => Text.ofString default

/-- The integer value of a variable. -/
def port (environment : Environment) (name default : String) : Except Failure Int :=
  match integerOfText (valueOf environment name default) with
  | .ok n => .ok n
  | .error fault => .error (.integer fault)

/-- The settings in an environment. -/
def ofEnvironment (environment : Environment) : Except Failure Settings := do
  let dataPort ← port environment "BUCKET_TOPOLOGY_DATA_PORT" "11210"
  let managementPort ← port environment "BUCKET_TOPOLOGY_MGMT_PORT" "8091"
  let debug := Text.lower (valueOf environment "BUCKET_TOPOLOGY_DEBUG" "false")
  let logLevel := valueOf environment "BUCKET_TOPOLOGY_LOG_LEVEL" "INFO"
  return ⟨dataPort, managementPort, debug = Text.ofString "true", logLevel,
    BucketConfig.persistenceCapability⟩

/-- The ports of nodes that do not list any. -/
def ports (s : Settings) : PortDefaults := ⟨s.dataPort, s.managementPort⟩

end Settings

end BucketMap
