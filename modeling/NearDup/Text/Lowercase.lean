import NearDup.Text.CharClass.CaseIgnorable
import NearDup.Text.CharClass.Cased
import NearDup.Text.Lowercase.Table

/-! Small letters, in ASCII and in all of Unicode. A capital sigma at the end of a word has a small
form of its own. -/

namespace NearDup.Text

/-- The text with each ASCII capital replaced by its small form. -/
def asciiLowercase (text : String) : String :=
  String.ofList (text.toList.map Char.toLower)

/-- The small form of a letter, whatever stands beside it. -/
def smallForm (c : Char) : List Char :=
  if c.toNat < 0x80 then [c.toLower]
  else if c == 'İ' then ['i', '\u0307']
  else
    match caseRuns.find? (·.contains c.toNat) with
    | some run => [Char.ofNat (c.toNat + run.shift).toNat]
    | none => [c]

/-- Whether the next character that case rules do not look past is a letter in a case. -/
def startsCased (cs : List Char) : Bool :=
  match cs.dropWhile caseIgnorable.contains with
  | c :: _ => cased.contains c
  | [] => false

/-- Small forms of the characters of a text. `afterCased` tells whether the last character before
them that case rules do not look past is a letter in a case: a sigma after such a letter and
before none ends its word. -/
def lowercaseFrom (afterCased : Bool) : List Char → List Char
  | [] => []
  | c :: cs =>
    let small :=
      if c == 'Σ' then
        if afterCased && !startsCased cs then ['ς'] else ['σ']
      else smallForm c
    small ++ lowercaseFrom (if caseIgnorable.contains c then afterCased else cased.contains c) cs

def lowercase (text : String) : String :=
  String.ofList (lowercaseFrom false text.toList)

end NearDup.Text
