import Clearance.Toml.Scalar

/-!
# Reading strings of TOML

A string is read from the characters after its opening quotes. Basic strings have escapes; in
literal ones every character stands for itself. Over several lines a string may hold up to two
quotes in a row anywhere, before the closing ones too, and a backslash at the end of a line joins
it to the next character that is not blank. **Line breaks inside a string stay as they are
written**, a carriage return included; one without a line feed is an error.

The readers carry fuel, one for each character of the text.
-/

set_option autoImplicit false

namespace Clearance
namespace Toml

/-- Characters that stand nowhere in a document but as line breaks and tabs. -/
def isForbidden (c : Char) : Bool := (c.toNat < 0x20 && c != '\t') || c.toNat == 0x7F

/-- A line break: a line feed, with or without a carriage return before it. -/
def newline? : List Char → Option (List Char)
  | '\n' :: rest => some rest
  | '\r' :: '\n' :: rest => some rest
  | _ => none

/-- The character of `count` hexadecimal digits; halves of surrogate pairs are none. -/
def codePoint? (count : Nat) (text : List Char) : Option (Char × List Char) :=
  (Number.exactly? (Number.inBase? 16) count text).bind fun (code, rest) =>
    if code.isValidChar then some (Char.ofNat code, rest) else none

/-- The character of an escape, whose backslash is read already. -/
def escape? : List Char → Option (Char × List Char)
  | 'b' :: rest => some ('\x08', rest)
  | 't' :: rest => some ('\t', rest)
  | 'n' :: rest => some ('\n', rest)
  | 'f' :: rest => some ('\x0c', rest)
  | 'r' :: rest => some ('\r', rest)
  | 'e' :: rest => some ('\x1b', rest)
  | '"' :: rest => some ('"', rest)
  | '\\' :: rest => some ('\\', rest)
  | 'x' :: rest => codePoint? 2 rest
  | 'u' :: rest => codePoint? 4 rest
  | 'U' :: rest => codePoint? 8 rest
  | _ => none

def basic? : Nat → List Char → Option (List Char × List Char)
  | _, '"' :: rest => some ([], rest)
  | fuel + 1, '\\' :: rest => do
      let (c, rest) ← escape? rest
      let (inside, rest) ← basic? fuel rest
      return (c :: inside, rest)
  | fuel + 1, c :: rest => do
      if isForbidden c then none
      let (inside, rest) ← basic? fuel rest
      return (c :: inside, rest)
  | _, _ => none

def literal? : List Char → Option (List Char × List Char)
  | '\x27' :: rest => some ([], rest)
  | c :: rest => do
      if isForbidden c then none
      let (inside, rest) ← literal? rest
      return (c :: inside, rest)
  | [] => none

def skipBreaks : List Char → List Char
  | ' ' :: rest => skipBreaks rest
  | '\t' :: rest => skipBreaks rest
  | '\n' :: rest => skipBreaks rest
  | '\r' :: '\n' :: rest => skipBreaks rest
  | text => text

/-- What follows the blanks after a backslash at the end of a line. -/
def joinLine? (text : List Char) : Option (List Char) :=
  (newline? (Text.skipSpaces text)).map skipBreaks

/-- What follows the closing quotes, with the quotes before them that are part of the string.
Fewer than three quotes close nothing. -/
def closing? (quote : Char) (text : List Char) : Option (List Char × List Char) :=
  let run := (text.takeWhile (· == quote)).length
  if run < 3 then none
  else
    let kept := min (run - 3) 2
    some (List.replicate kept quote, text.drop (kept + 3))

/-- The rest of a string over several lines. -/
def severalLines? (quote : Char) (hasEscapes : Bool) : Nat → List Char → Option (List Char × List Char)
  | 0, _ => none
  | fuel + 1, text =>
      match closing? quote text, text with
      | some closed, _ => some closed
      | none, '\r' :: '\n' :: rest => do
          let (inside, rest) ← severalLines? quote hasEscapes fuel rest
          return ('\r' :: '\n' :: inside, rest)
      | none, c :: rest =>
          if hasEscapes && c == '\\' then
            match joinLine? rest with
            | some rest => severalLines? quote hasEscapes fuel rest
            | none => do
                let (escaped, rest) ← escape? rest
                let (inside, rest) ← severalLines? quote hasEscapes fuel rest
                return (escaped :: inside, rest)
          else if isForbidden c && c != '\n' then none
          else do
            let (inside, rest) ← severalLines? quote hasEscapes fuel rest
            return (c :: inside, rest)
      | none, [] => none

/-- The inside of a string over several lines, less a line break right at its start. -/
def multiline? (quote : Char) (hasEscapes : Bool) (text : List Char) :
    Option (List Char × List Char) :=
  let text := (newline? text).getD text
  severalLines? quote hasEscapes (text.length + 1) text

/-- A string of any kind; `none` also where no string begins. -/
def string? : List Char → Option (String × List Char)
  | '"' :: '"' :: '"' :: rest => finish (multiline? '"' true rest)
  | '\x27' :: '\x27' :: '\x27' :: rest => finish (multiline? '\x27' false rest)
  | '"' :: rest => finish (basic? rest.length rest)
  | '\x27' :: rest => finish (literal? rest)
  | _ => none
where
  finish (read : Option (List Char × List Char)) : Option (String × List Char) :=
    read.map fun (inside, rest) => (String.ofList inside, rest)

end Toml
end Clearance
