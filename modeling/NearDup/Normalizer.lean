import NearDup.Verb.Table

/-! Texts as sequences of words in a normal form: without punctuation, in small letters, without
stopwords, and with the irregular forms of verbs replaced by their infinitives. -/

namespace NearDup

/-- The words that are left out, and the verbs whose forms are replaced. -/
structure Normalizer where
  stopwords : List String
  verbs : VerbTable

namespace Normalizer

/-- The articles of English. -/
def defaultStopwords : List String := ["a", "an", "the"]

/-- A normalizer that leaves out the small forms of the given words. -/
def ofWords (stopwords : List String) (verbs : VerbTable) : Normalizer :=
  ⟨stopwords.map Text.lowercase, verbs⟩

def isStopword (n : Normalizer) (token : String) : Bool :=
  n.stopwords.contains token

/-- Whether cleaning keeps a character. -/
def isKept (c : Char) : Bool :=
  c.isAlphanum || Text.isBlank c

/-- A text without anything but ASCII letters, ASCII digits and blanks, in small letters. -/
def clean (text : String) : String :=
  String.ofList ((text.toList.filter isKept).map Char.toLower)

def normalize (n : Normalizer) (text : String) : List String :=
  ((Text.words (clean text)).filter (! n.isStopword ·)).map n.verbs.toInfinitive

end Normalizer

end NearDup
