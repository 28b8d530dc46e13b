import NearDup.Text.CharClass.GraphemeExtend
import NearDup.Text.CharClass.Unprintable

/-! A text in quotation marks, with everything that could mislead a reader of a message written as
an escape. -/

namespace NearDup.Text

/-- The digits of `n` in base sixteen, in small letters. -/
def hexDigits (n : Nat) : String :=
  String.ofList (Nat.toDigits 16 n)

/-- A character by its code point. -/
def codePointEscape (c : Char) : String :=
  "\\u\x7b" ++ hexDigits c.toNat ++ "\x7d"

/-- A character between quotation marks: itself, a short escape, or its code point if it has no
form of its own. -/
def quotedChar (c : Char) : String :=
  match c with
  | '\x00' => "\\0"
  | '\t' => "\\t"
  | '\r' => "\\r"
  | '\n' => "\\n"
  | '\\' => "\\\\"
  | '"' => "\\\""
  | c =>
    if c.toNat < 0x7F && 0x20 ≤ c.toNat then c.toString
    else if graphemeExtend.contains c || unprintable.contains c then codePointEscape c
    else c.toString

def quoted (text : String) : String :=
  "\"" ++ String.join (text.toList.map quotedChar) ++ "\""

end NearDup.Text
