import NearDup.Config.Basic
import NearDup.Json.Decode

/-! Choices read from JSON. -/

namespace NearDup

open Json (Decoder Field Shape)

namespace Json

def Decoder.path : Decoder Path := fun node => return ⟨← Decoder.stringAs "path string" node⟩

end Json

def BackendKind.ofJson : Decoder BackendKind :=
  Decoder.choice [("memory", .memory), ("file", .file)]

/-- The path of a verb table may be null, or left out of an object. -/
def SimilarityConfig.shape : Shape SimilarityConfig where
  name := "SimilarityConfig"
  blank := { SimilarityConfig.default with verbsPath := none }
  fields := [
    ⟨"threshold", .never, fun node c => return { c with threshold := ← Decoder.float node }⟩,
    ⟨"irregular_verbs_path", .named, fun node c =>
      return { c with verbsPath := ← Decoder.nullable Decoder.path node }⟩,
    ⟨"bundled_verbs", .never, fun node c => return { c with bundledVerbs := ← Decoder.boolean node }⟩,
    ⟨"stopwords", .never, fun node c =>
      return { c with stopwords := ← Decoder.list Decoder.string node }⟩]

def StorageConfig.shape : Shape StorageConfig where
  name := "StorageConfig"
  blank := StorageConfig.default
  fields := [
    ⟨"backend", .never, fun node c => return { c with backend := ← BackendKind.ofJson node }⟩,
    ⟨"data_dir", .never, fun node c => return { c with dataDir := ← Decoder.path node }⟩,
    ⟨"scan_limit", .never, fun node c =>
      return { c with scanLimit := ← Decoder.natural UInt64.size "usize" node }⟩]

def ServerConfig.shape : Shape ServerConfig where
  name := "ServerConfig"
  blank := ServerConfig.default
  fields := [
    ⟨"host", .never, fun node c => return { c with host := ← Decoder.string node }⟩,
    ⟨"port", .never, fun node c => return { c with port := ← Decoder.natural UInt16.size "u16" node }⟩,
    ⟨"request_timeout_ms", .never, fun node c =>
      return { c with requestTimeout := ← Decoder.natural UInt64.size "u64" node }⟩]

def Config.shape : Shape Config where
  name := "ArtsimConfig"
  blank := Config.default
  fields := [
    ⟨"similarity", .never, fun node c =>
      return { c with similarity := ← SimilarityConfig.shape.decode node }⟩,
    ⟨"storage", .never, fun node c =>
      return { c with storage := ← StorageConfig.shape.decode node }⟩,
    ⟨"server", .never, fun node c =>
      return { c with server := ← ServerConfig.shape.decode node }⟩]

/-- The choices that a text writes; their ranges are not looked at. -/
def Config.ofText? (text : String) : Except Json.Error Config :=
  (Json.Document.ofText text).decode Config.shape.decode

end NearDup
