import Clearance.Number.Digits

/-!
# Strings in TOML

TOML has four kinds of string: on one line or over several, with escapes or literal. A string is
written in the first kind that shows its characters as they are, and with escapes only if none
does; `Quoting.of` makes that choice.

A string over several lines begins on the line after its opening quotes, because a line break
right there is not part of the string.
-/

set_option autoImplicit false

namespace Clearance
namespace Toml

/-- Characters that no kind of string holds as they are, tab and line break aside. -/
def isControl (c : Char) : Bool :=
  (c.toNat < 0x20 && c != '\t' && c != '\n') || c.toNat == 0x7F

/-- Whether a character occurs three times in a row or more. -/
def hasTriple (c : Char) : List Char → Bool
  | x :: y :: z :: rest => (x == c && y == c && z == c) || hasTriple c (y :: z :: rest)
  | _ => false

inductive Quoting where
  | basic
  | literal
  | multilineBasic
  | multilineLiteral
  /-- Escapes throughout, over several lines if there are any. -/
  | escaped

/-- Whether a kind of string shows a text without escapes. A tab is escaped in basic strings
and does not count. -/
def Quoting.fits (text : List Char) : Quoting → Bool
  | .basic => text.all fun c => !isControl c && c != '\n' && c != '\\' && c != '"'
  | .literal => text.all fun c => !isControl c && c != '\n' && c != '\x27'
  | .multilineBasic => text.all (fun c => !isControl c && c != '\\') && !hasTriple '"' text
  | .multilineLiteral => text.all (fun c => !isControl c) && !hasTriple '\x27' text
  | .escaped => true

/-- The kind of string that a text is written in. -/
def Quoting.of (text : List Char) : Quoting :=
  ([.basic, .literal, .multilineBasic, .multilineLiteral].find? (·.fits text)).getD .escaped

/-- The escape of a character, where it has to have one: a letter, or four upper-case hexadecimal
digits. -/
def escapeOf (c : Char) : List Char :=
  match c with
  | '\x08' => ['\\', 'b']
  | '\t' => ['\\', 't']
  | '\n' => ['\\', 'n']
  | '\x0c' => ['\\', 'f']
  | '\r' => ['\\', 'r']
  | '\\' => ['\\', '\\']
  | '"' => ['\\', '"']
  | _ =>
      if isControl c then
        ['\\', 'u'] ++ Number.padded 4 ((Nat.toDigits 16 c.toNat).map Char.toUpper)
      else [c]

/-- The inside of a basic string over several lines, after so many quotes in a row. Line breaks
stay, and of a run of quotes every third is escaped. -/
def escapeLines : Nat → List Char → List Char
  | _, [] => []
  | quotes, '"' :: rest =>
      if quotes = 2 then escapeOf '"' ++ escapeLines 0 rest
      else '"' :: escapeLines (quotes + 1) rest
  | _, '\n' :: rest => '\n' :: escapeLines 0 rest
  | _, c :: rest => escapeOf c ++ escapeLines 0 rest

/-- Three quotes around an inside, which begins on a new line if there are several. -/
def triple (quote : Char) (isMultiline : Bool) (inside : List Char) : List Char :=
  let quotes := List.replicate 3 quote
  quotes ++ (if isMultiline then ['\n'] else []) ++ inside ++ quotes

/-- A tab is escaped wherever escapes are. -/
def escapeTabs (text : List Char) : List Char :=
  text.flatMap fun c => if c == '\t' then ['\\', 't'] else [c]

def writeString (s : String) : String :=
  let text := s.toList
  let isMultiline := text.contains '\n'
  String.ofList <| match Quoting.of text with
    | .basic => '"' :: escapeTabs text ++ ['"']
    | .literal => '\x27' :: text ++ ['\x27']
    | .multilineBasic => triple '"' isMultiline (escapeTabs text)
    | .multilineLiteral => triple '\x27' isMultiline text
    | .escaped =>
        if isMultiline then triple '"' true (escapeLines 0 text)
        else '"' :: text.flatMap escapeOf ++ ['"']

end Toml
end Clearance
