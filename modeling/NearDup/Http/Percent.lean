import NearDup.Text.Utf8

/-! Bytes that are written as a percent sign and two digits in base sixteen. -/

namespace NearDup.Http.Percent

def digit? (byte : UInt8) : Option UInt8 :=
  if '0'.toUInt8 ≤ byte ∧ byte ≤ '9'.toUInt8 then some (byte - '0'.toUInt8)
  else if 'a'.toUInt8 ≤ byte ∧ byte ≤ 'f'.toUInt8 then some (byte - 'a'.toUInt8 + 10)
  else if 'A'.toUInt8 ≤ byte ∧ byte ≤ 'F'.toUInt8 then some (byte - 'A'.toUInt8 + 10)
  else none

/-- The bytes that are meant. A percent sign without its digits stands for itself. -/
def decode : Bytes → Bytes
  | [] => []
  | [byte] => [byte]
  | [byte, byte'] => [byte, byte']
  | byte :: high :: low :: rest =>
    if byte = '%'.toUInt8 then
      match digit? high, digit? low with
      | some h, some l => (16 * h + l) :: decode rest
      | _, _ => byte :: decode (high :: low :: rest)
    else byte :: decode (high :: low :: rest)

end NearDup.Http.Percent
