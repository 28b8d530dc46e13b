import NearDup.Article
import NearDup.Config.Basic
import NearDup.Json.Error

/-! What can go wrong, and how it is told. -/

namespace NearDup

/-- Why a storage refused a call. -/
inductive StorageError
  | alreadyExists (id : ArticleId)
  /-- The storage was not reached when the named call was made. -/
  | connectionReset (call : String)
  | other (message : String)
deriving DecidableEq, Repr

def StorageError.message : StorageError → String
  | .alreadyExists id => "article " ++ toString id ++ " already exists"
  | .connectionReset call => call ++ ": connection reset"
  | .other message => message

inductive Error
  | notFound (id : ArticleId)
  | storage (cause : StorageError)
  | config (cause : ConfigError)
  | io (cause : IoError)
  | json (cause : Json.Error)
  /-- Some other failure, with a text about what was being done. -/
  | other (message : String) (context : Option String)

namespace Error

/-- The wording of an error. The context of a failure stands for it. -/
def message : Error → String
  | .notFound id => "Article not found: " ++ toString id
  | .storage cause => "Storage error: " ++ cause.message
  | .config cause => "Configuration error: " ++ cause.message
  | .io cause => "IO error: " ++ cause.message
  | .json cause => "Serialization error: " ++ cause.message
  | .other message context => context.getD message

def isNotFound : Error → Bool
  | .notFound _ => true
  | _ => false

def isStorageFailure : Error → Bool
  | .storage _ | .io _ | .json _ | .other _ _ => true
  | .notFound _ | .config _ => false

end Error

end NearDup
