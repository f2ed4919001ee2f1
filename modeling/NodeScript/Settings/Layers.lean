/-
  Where the settings come from.

  On top of the defaults come, in this order, a settings file if one is asked
  for, the environment, and the command line. Before the environment is asked,
  the variables of a dotenv file are added to it; they never replace a variable
  that is set, and a variable that an environment cannot hold is not added.

  What the content of a file stands for is up to decoders. All else is the same
  whichever decoders are used.
-/
import NodeScript.Files.Disk
import NodeScript.Invocation.Options
import NodeScript.Settings.Dotenv
import NodeScript.Settings.Toml
import NodeScript.Settings.Yaml
import NodeScript.Text.Quoted

namespace NodeScript

/-- Why the settings could not be put together. -/
inductive SettingsMistake where
  /-- The settings file cannot be read. -/
  | unreadable (why : Refusal)
  /-- The settings file has an extension that stands for no format. -/
  | unsupported (path extension : Bytes)
  /-- The settings file cannot be decoded as what its extension says. -/
  | undecodable (path : Bytes) (why : DecodeFailure)
  /-- The dotenv file cannot be read. -/
  | unloadable (path : Bytes) (why : Refusal)
  /-- The dotenv file has a mistake in it. -/
  | unparsable (path : Bytes)
  deriving DecidableEq

namespace SettingsMistake

/-- What was being done when the mistake was met, without its cause. -/
def summary : SettingsMistake → Bytes
  | .unreadable why => utf8 "reading config: " ++ why.message
  | .unsupported path extension =>
    utf8 "config " ++ path ++ utf8 ": unsupported format " ++ doubleQuoted extension
  | .undecodable path _ => utf8 "decoding " ++ path
  | .unloadable path _ | .unparsable path => utf8 "loading " ++ path

/-- The wording of a mistake. -/
def message : SettingsMistake → Bytes
  | m@(.unloadable _ why) => m.summary ++ utf8 ": " ++ why.message
  | m => m.summary

/-- Whether a mistake is one that no run of the program outlives. -/
def isFatal : SettingsMistake → Bool
  | .undecodable _ .incomparable => true
  | _ => false

end SettingsMistake

/-- What the contents of files are taken for. -/
structure Decoders where
  toml : Toml.Version → Bytes → Option Assignment
  yaml : Bytes → Except DecodeFailure Assignment
  dotenv : Bytes → Option Environment

/-- The decoders of the formats. Tables of TOML may be gone through in any
order. -/
def Decoders.standard (order : Toml.Order := .asWritten) : Decoders where
  toml v content := Toml.decode v content order
  yaml := Yaml.decode
  dotenv := Dotenv.decode

namespace Settings

/-- A text unless it is empty. -/
def nonEmpty (s : Bytes) : Option Bytes := if s.isEmpty then none else some s

/-! ### The settings file -/

/-- The formats of settings files. -/
inductive FileFormat where
  | toml
  | yaml
  deriving DecidableEq

/-- The format that an extension in lower case stands for. -/
def FileFormat.ofExtension? (extension : Bytes) : Option FileFormat :=
  if extension = utf8 ".toml" then some .toml
  else if extension = utf8 ".yaml" ∨ extension = utf8 ".yml" then some .yaml
  else none

/-- The variable that, whatever its value, asks for the later version of TOML. -/
def tomlVariable : Bytes := utf8 "BURNTSUSHI_TOML_110"

/-- The version of TOML that the environment asks for. -/
def tomlVersion (env : Environment) : Toml.Version :=
  if (env.get? tomlVariable).isSome then .v11 else .v10

/-- What a text in a format says about the settings. -/
def FileFormat.decode (decoders : Decoders) (env : Environment) (content : Bytes) :
    FileFormat → Except DecodeFailure Assignment
  | .toml => (decoders.toml (tomlVersion env) content).elim (.error .mistaken) .ok
  | .yaml => decoders.yaml content

/-- What a settings file says. It has to be there before its format matters. -/
def fileLayer (d : Disk) (env : Environment) (path : Bytes) (decoders : Decoders := .standard) :
    Except SettingsMistake Assignment :=
  match d.read path with
  | .error why => .error (.unreadable why)
  | .ok content =>
    let extension := lowerCase (Path.extension path)
    match FileFormat.ofExtension? extension with
    | none => .error (.unsupported path extension)
    | some format =>
      match format.decode decoders env content with
      | .error why => .error (.undecodable path why)
      | .ok a => .ok a

/-! ### The environment -/

/-- The path of the dotenv file. -/
def dotenvPath (env : Environment) : Bytes :=
  ((env.get? (utf8 "XDA_ENV_PATH")).bind nonEmpty).getD (utf8 ".env")

/-- The environment with the variables of the dotenv file, which need not be
there. -/
def extendEnvironment (d : Disk) (env : Environment) (decoders : Decoders := .standard) :
    Except SettingsMistake Environment :=
  let path := dotenvPath env
  match d.read path with
  | .error why => if why.isMissing then .ok env else .error (.unloadable path why)
  | .ok content =>
    match decoders.dotenv content with
    | none => .error (.unparsable path)
    | some vars => .ok (env.extend vars)

/-- What the environment says. An empty variable says nothing. -/
def environmentLayer (env : Environment) : Assignment :=
  let var (name : String) := (env.get? (utf8 name)).bind nonEmpty
  { dir := var "XDA_DIR"
    logFile := var "XDA_LOG_FILE"
    level := var "XDA_LOG_LEVEL"
    format := var "XDA_LOG_FORMAT" }

/-! ### The command line -/

/-- What the command line says. An empty value says nothing. -/
def optionsLayer (o : Options) : Assignment where
  dir := nonEmpty o.dir
  logFile := nonEmpty o.logFile
  level := nonEmpty o.logLevel

/-! ### All layers -/

/-- The settings before the command line is asked, and the extended
environment. -/
def load (d : Disk) (env : Environment) (path : Bytes) (decoders : Decoders := .standard) :
    Except SettingsMistake (Settings × Environment) := do
  let file ← if path.isEmpty then pure {} else fileLayer d env path decoders
  let env ← extendEnvironment d env decoders
  return ((({} : Settings).assign file).assign (environmentLayer env), env)

/-- The settings in effect, and the extended environment. -/
def inEffect (d : Disk) (env : Environment) (o : Options) (decoders : Decoders := .standard) :
    Except SettingsMistake (Settings × Environment) := do
  let (s, env) ← load d env o.config decoders
  return (s.assign (optionsLayer o), env)

end Settings

end NodeScript
