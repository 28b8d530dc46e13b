import NearDup.Decimal.Layout
import NearDup.Decimal.Numeral
import NearDup.Detector
import NearDup.Files.Tree
import NearDup.Text.Quoted

/-! What can be chosen about the program, the defaults, and the ranges of the choices. -/

namespace NearDup

/-- Where articles are kept. -/
inductive BackendKind
  | memory
  | file
deriving DecidableEq, Repr

def BackendKind.name : BackendKind → String
  | .memory => "memory"
  | .file => "file"

/-- What near duplicates are. A verb table by its path goes before the bundled one. -/
structure SimilarityConfig where
  threshold : Float
  verbsPath : Option Path
  bundledVerbs : Bool
  stopwords : List String

/-- Where articles are kept, and how many of them a listing holds at most. -/
structure StorageConfig where
  backend : BackendKind
  dataDir : Path
  scanLimit : Nat

/-- Where requests arrive, and after how many milliseconds they are given up. -/
structure ServerConfig where
  host : String
  port : Nat
  requestTimeout : Nat

structure Config where
  similarity : SimilarityConfig
  storage : StorageConfig
  server : ServerConfig

def SimilarityConfig.default : SimilarityConfig :=
  ⟨0.95, none, true, Normalizer.defaultStopwords⟩

def StorageConfig.default : StorageConfig :=
  ⟨.memory, ⟨"./data"⟩, 1000⟩

def ServerConfig.default : ServerConfig :=
  ⟨"0.0.0.0", 8080, 5000⟩

def Config.default : Config :=
  ⟨.default, .default, .default⟩

def ServerConfig.address (c : ServerConfig) : String :=
  c.host ++ ":" ++ toString c.port

/-- The variables that choices are read from. -/
inductive Variable
  | threshold
  | verbsPath
  | disableBundledVerbs
  | stopwords
  | backend
  | dataDir
  | scanLimit
  | host
  | port
  | requestTimeout
deriving DecidableEq, Repr

def Variable.name : Variable → String
  | .threshold => "ARTSIM_SIMILARITY_THRESHOLD"
  | .verbsPath => "ARTSIM_IRREGULAR_VERBS"
  | .disableBundledVerbs => "ARTSIM_DISABLE_BUNDLED_VERBS"
  | .stopwords => "ARTSIM_STOPWORDS"
  | .backend => "ARTSIM_STORAGE_BACKEND"
  | .dataDir => "ARTSIM_DATA_DIR"
  | .scanLimit => "ARTSIM_SCAN_LIMIT"
  | .host => "ARTSIM_HOST"
  | .port => "ARTSIM_PORT"
  | .requestTimeout => "ARTSIM_REQUEST_TIMEOUT_MS"

/-- Why a file of verbs could not be read. -/
inductive TableFault
  | io (error : IoError)
  | notText
deriving DecidableEq, Repr

/-- What is wrong with the choices. -/
inductive ConfigError
  | notANumber (var : Variable) (value : String) (fault : NumeralFault)
  | unknownBackend (name : String)
  | badThreshold (bad : BadThreshold)
  | zeroScanLimit
  | zeroRequestTimeout
  | unreadableTable (path : Path) (fault : TableFault)
  | malformedTable (row : MalformedRow)
  | other (message : String)

def TableFault.message : TableFault → String
  | .io e => e.message
  | .notText => "stream did not contain valid UTF-8"

def ConfigError.message : ConfigError → String
  | .notANumber var value fault =>
    "invalid " ++ var.name ++ "=" ++ Text.quoted value ++ ": " ++ fault.message
  | .unknownBackend name => "unknown storage backend: " ++ name
  | .badThreshold bad =>
    "similarity threshold must be within [0, 1], got " ++ Decimal.Layout.plain.writeFloat bad.value
  | .zeroScanLimit => "scan_limit must be greater than zero"
  | .zeroRequestTimeout => "request_timeout_ms must be greater than zero"
  | .unreadableTable path fault =>
    "failed to read verb table " ++ path.text ++ ": " ++ fault.message
  | .malformedTable row => row.message
  | .other message => message

/-- Whether every choice is in its range. -/
def Config.validate (c : Config) : Except ConfigError Unit :=
  if !isThreshold c.similarity.threshold then .error (.badThreshold ⟨c.similarity.threshold⟩)
  else if c.storage.scanLimit = 0 then .error .zeroScanLimit
  else if c.server.requestTimeout = 0 then .error .zeroRequestTimeout
  else .ok ()

end NearDup
