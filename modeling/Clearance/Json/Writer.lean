import Clearance.Number.Digits
import Clearance.Value

/-!
# Writing values as JSON text

The compact form: no blanks, fields in the order in which the object lists them, and in strings
only what has to be escaped is escaped.
-/

set_option autoImplicit false

namespace Clearance
namespace Json

def escapedChar (c : Char) : List Char :=
  match c with
  | '"' => ['\\', '"']
  | '\\' => ['\\', '\\']
  | '\n' => ['\\', 'n']
  | '\r' => ['\\', 'r']
  | '\t' => ['\\', 't']
  | _ => if c.toNat < 0x20 then ['\\', 'u'] ++ Number.padded 4 (Nat.toDigits 16 c.toNat) else [c]

def writeString (s : String) : String :=
  String.ofList ('"' :: s.toList.flatMap escapedChar ++ ['"'])

mutual

def write : Value → String
  | .null => "null"
  | .bool true => "true"
  | .bool false => "false"
  | .number n => n.text
  | .text s => writeString s
  | .list items => "[" ++ writeItems items ++ "]"
  | .object fields => "\x7b" ++ writeFields fields ++ "\x7d"

def writeItems : List Value → String
  | [] => ""
  | [item] => write item
  | item :: other :: rest => write item ++ "," ++ writeItems (other :: rest)

def writeFields : List (String × Value) → String
  | [] => ""
  | [(key, held)] => writeString key ++ ":" ++ write held
  | (key, held) :: other :: rest =>
      writeString key ++ ":" ++ write held ++ "," ++ writeFields (other :: rest)

end

end Json
end Clearance
