import Clearance.Text.Hidden

/-!
# Quoted text

The form in which log events and rule descriptions show a name: between quotes, with the quote
and the backslash escaped, five control characters by a letter or `0`, and every other
character that does not show by its code point in lower-case hexadecimal.
-/

set_option autoImplicit false

namespace Clearance
namespace Text

def hexadecimal (n : Nat) : List Char := Nat.toDigits 16 n

def quotedChar (c : Char) : List Char :=
  match c with
  | '"' => ['\\', '"']
  | '\\' => ['\\', '\\']
  | '\t' => ['\\', 't']
  | '\n' => ['\\', 'n']
  | '\r' => ['\\', 'r']
  | '\x00' => ['\\', '0']
  | _ =>
    if isHidden c then ['\\', 'u', '\x7b'] ++ hexadecimal c.toNat ++ ['\x7d'] else [c]

def quoted (text : String) : String :=
  String.ofList ('"' :: text.toList.flatMap quotedChar ++ ['"'])

/-- A text that may be missing: `None`, or the quoted text in `Some(...)`. -/
def quotedOption : Option String → String
  | none => "None"
  | some text => "Some(" ++ quoted text ++ ")"

end Text
end Clearance
