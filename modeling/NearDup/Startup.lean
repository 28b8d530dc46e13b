import NearDup.App
import NearDup.Config.EnvFile

/-! The start of the application from the environment, what it writes meanwhile, and how it fails. -/

namespace NearDup

inductive StartupError
  | invalidConfiguration (cause : ConfigError)
  | notInitialized (cause : Error)

/-- An application that has started. -/
structure Startup where
  app : App
  storage : Storage
  config : Config

namespace StartupError

/-- What was being done. -/
def summary : StartupError → String
  | .invalidConfiguration _ => "invalid configuration"
  | .notInitialized _ => "failed to initialize service"

def cause : StartupError → Error
  | .invalidConfiguration e => .config e
  | .notInitialized e => e

/-- The wordings of the causes, from the nearest one on. -/
def causes (e : StartupError) : List String :=
  match e.cause with
  | .io cause => [e.cause.message, cause.message]
  | .json cause => [e.cause.message, cause.message]
  | _ => [e.cause.message]

/-- A text whose lines after the first one are moved in. -/
def indented (indent text : String) : String :=
  ("\n" ++ indent).intercalate (Text.splitAt '\n' text)

/-- Several causes are numbered. -/
def listing : List String → String
  | [cause] => "    " ++ indented "    " cause ++ "\n"
  | causes => String.join (causes.zipIdx.map fun (cause, index) =>
      "    " ++ toString index ++ ": " ++ indented "       " cause ++ "\n")

def report (e : StartupError) : String :=
  "Error: " ++ e.summary ++ "\n\nCaused by:\n" ++ listing e.causes

end StartupError

namespace Startup

/-- The file of assignments that is read first. -/
def envFile : Path := ⟨".env"⟩

/-- The variables that are set, with those that the file of assignments adds. -/
def environmentOf (files : Tree) (initial : Environment) : Environment :=
  match files.read envFile with
  | .ok bytes => EnvFile.load initial bytes
  | .error _ => initial

def config? (files : Tree) (initial : Environment) : Except StartupError Config :=
  (Config.ofVariables? (Config.lookupIn (environmentOf files initial))).mapError
    .invalidConfiguration

/-- The files that the application opens for a configuration. -/
def paths (c : Config) : List Path :=
  c.similarity.verbsPath.toList ++ [c.storage.dataDir.join Snapshot.fileName]

def start? (files : Tree) (initial : Environment) : Except StartupError Startup := do
  let config ← config? files initial
  let (app, storage) ← (App.ofConfig? files config).mapError .notInitialized
  return ⟨app, storage, config⟩

/-- What is logged when the application is ready, and when it listens. -/
def openingLines (s : Startup) : List String := [
  "artsim_server::state: initialized article service backend=" ++ s.config.storage.backend.name ++
    " threshold=" ++ Decimal.Layout.debugging.writeFloat s.config.similarity.threshold ++
    " scan_limit=" ++ toString s.config.storage.scanLimit,
  "artsim_server: Starting artsim-server on " ++ s.config.server.address]

/-- What is logged when the application is told to stop, and when it has. -/
def closingLines : List String := [
  "artsim_server: Shutdown signal received",
  "artsim_server: Server stopped cleanly"]

end Startup

/-- What a run of the program leaves behind. -/
structure Outcome where
  exit : Nat
  log : List String
  failure : String
deriving DecidableEq, Repr

/-- A start that fails, or a run that is told to stop. -/
def Outcome.ofStart : Except StartupError Startup → Outcome
  | .error e => ⟨1, [], e.report⟩
  | .ok s => ⟨0, s.openingLines ++ Startup.closingLines, ""⟩

end NearDup
