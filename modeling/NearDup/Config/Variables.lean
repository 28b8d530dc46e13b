import NearDup.Config.Basic
import NearDup.Verb.Bundled

/-! Choices read from variables. Each variable decides about one choice; a variable that is not
set leaves the default. -/

namespace NearDup

def BackendKind.ofName? (name : String) : Except ConfigError BackendKind :=
  match Text.lowercase (Text.trim name) with
  | "memory" | "mem" => .ok .memory
  | "file" | "json" => .ok .file
  | other => .error (.unknownBackend other)

/-- The words of a list with commas between them. -/
def stopwordsOf (list : String) : List String :=
  ((Text.splitAt ',' list).map fun word => Text.lowercase (Text.trim word)).filter (! ·.isEmpty)

namespace Config

/-- The value of a variable, if it is set. -/
abbrev Lookup := Variable → Option String

/-- The number that a variable is set to, or else `default`. -/
def numberOr {α : Type} (lookup : Lookup) (var : Variable) (default : α)
    (read : String → Except NumeralFault α) : Except ConfigError α :=
  match lookup var with
  | none => .ok default
  | some value => (read (Text.trim value)).mapError (.notANumber var value)

/-- The choices that the variables make, before their ranges are looked at. -/
def read (lookup : Lookup) : Except ConfigError Config := do
  let threshold ← numberOr lookup .threshold SimilarityConfig.default.threshold Numeral.float
  let backend ← match lookup .backend with
    | none => .ok StorageConfig.default.backend
    | some name => BackendKind.ofName? name
  let scanLimit ←
    numberOr lookup .scanLimit StorageConfig.default.scanLimit (Numeral.natural UInt64.size)
  let port ← numberOr lookup .port ServerConfig.default.port (Numeral.natural UInt16.size)
  let requestTimeout ←
    numberOr lookup .requestTimeout ServerConfig.default.requestTimeout (Numeral.natural UInt64.size)
  return {
    similarity := {
      threshold
      verbsPath := (lookup .verbsPath).map Path.mk
      bundledVerbs := (lookup .disableBundledVerbs).isNone
      stopwords := ((lookup .stopwords).map stopwordsOf).getD SimilarityConfig.default.stopwords }
    storage := {
      backend
      dataDir := ((lookup .dataDir).map Path.mk).getD StorageConfig.default.dataDir
      scanLimit }
    server := {
      host := (lookup .host).getD ServerConfig.default.host
      port
      requestTimeout } }

/-- The choices that the variables make. -/
def ofVariables? (lookup : Lookup) : Except ConfigError Config := do
  let config ← read lookup
  config.validate
  return config

def lookupIn (environment : List (String × String)) : Lookup := fun var =>
  environment.lookup var.name

end Config

def VerbTable.load? (files : Tree) (path : Path) : Except ConfigError VerbTable :=
  match files.read path with
  | .error e => .error (.unreadableTable path (.io e))
  | .ok bytes =>
    match Text.decode? bytes with
    | none => .error (.unreadableTable path .notText)
    | some text => (VerbTable.ofCsv? text).mapError .malformedTable

def SimilarityConfig.verbs? (c : SimilarityConfig) (files : Tree) : Except ConfigError VerbTable :=
  match c.verbsPath with
  | some path => VerbTable.load? files path
  | none =>
    if c.bundledVerbs then VerbTable.bundled?.mapError .malformedTable else .ok .empty

def SimilarityConfig.detector? (c : SimilarityConfig) (files : Tree) :
    Except ConfigError Detector := do
  let verbs ← c.verbs? files
  (Detector.ofThreshold? c.threshold (.ofWords c.stopwords verbs)).mapError .badThreshold

end NearDup
