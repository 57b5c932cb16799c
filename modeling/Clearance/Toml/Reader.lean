import Clearance.Toml.Quotes
import Clearance.Toml.Tree

/-!
# Reading TOML documents

A document is read line by line into a tree of tables under construction (`Toml/Tree.lean`). A
line is a header, a key with its value, a comment or nothing; values that are written inline may
go over several lines and have comments between their parts.

Every step takes a character at least. The readers that call themselves for parts of a value
carry fuel for the length of the text, which `read?` supplies. Beside that, **nesting is limited**:
to `deepest` levels of lists and inline tables, and to as many parts of a key.
-/

set_option autoImplicit false

namespace Clearance
namespace Toml

/-- How deep values may be nested, and how many parts a key may have. -/
def deepest : Nat := 80

/-! ## Blanks and comments -/

/-- What follows the line of a comment, up to its line break; a forbidden character in it is an
error. A carriage return belongs to the line break. -/
def comment? : List Char → Option (List Char)
  | '\r' :: '\n' :: rest => some ('\n' :: rest)
  | '\n' :: rest => some ('\n' :: rest)
  | c :: rest => if isForbidden c then none else comment? rest
  | [] => some []

/-- What follows blanks, comments and line breaks. -/
def skipLines? : Nat → List Char → Option (List Char)
  | 0, _ => none
  | fuel + 1, text =>
      match Text.skipSpaces text with
      | '#' :: rest => (comment? rest).bind (skipLines? fuel)
      | rest => match newline? rest with
        | some rest => skipLines? fuel rest
        | none => some rest

/-- What follows the end of a line, where nothing but a comment may stand before it. -/
def endLine? (text : List Char) : Option (List Char) :=
  match Text.skipSpaces text with
  | [] => some []
  | '#' :: rest => (comment? rest).bind fun rest =>
      if rest = [] then some [] else newline? rest
  | rest => newline? rest

/-! ## Keys -/

def isBareKeyChar (c : Char) : Bool := c.isAlphanum || c == '_' || c == '-'

/-- One part of a key: bare, or a string on one line. -/
def keyPart? (text : List Char) : Option (String × List Char) :=
  match text with
  | '"' :: rest => string?.finish (basic? rest.length rest)
  | '\x27' :: rest => string?.finish (literal? rest)
  | text => match text.takeWhile isBareKeyChar with
    | [] => none
    | part => some (String.ofList part, text.dropWhile isBareKeyChar)

/-- A key of so many parts at most: parts with dots between them, blanks around the dots allowed.
Blanks after the key are taken as well. -/
def keyUpTo? : Nat → List Char → Option (List String × List Char)
  | 0, _ => none
  | room + 1, text => do
      let (part, rest) ← keyPart? (Text.skipSpaces text)
      match Text.skipSpaces rest with
      | '.' :: rest => do
          let (parts, rest) ← keyUpTo? room rest
          return (part :: parts, rest)
      | rest => return ([part], rest)

def key? (text : List Char) : Option (List String × List Char) := keyUpTo? deepest text

/-! ## Values -/

def isWordChar (c : Char) : Bool :=
  c.isAlphanum || c == '_' || c == '-' || c == '+' || c == '.' || c == ':'

/-- A word. A blank is part of it between a date and a time. -/
def word (text : List Char) : List Char × List Char :=
  let first := text.takeWhile isWordChar
  let rest := text.dropWhile isWordChar
  match (date? first).map (·.2), rest with
  | some [], ' ' :: c :: after =>
      if c.isDigit then
        (first ++ ' ' :: (c :: after).takeWhile isWordChar, (c :: after).dropWhile isWordChar)
      else (first, rest)
  | _, _ => (first, rest)

def assign (key : List String) (setting : Setting) (fields : NodeFields) : Option NodeFields :=
  key.getLast?.bind fun last => Node.addDotted last setting key.dropLast fields

mutual

/-- A value with room for so many levels of lists and inline tables. -/
def value? : Nat → Nat → List Char → Option (Setting × List Char)
  | 0, _, _ => none
  | fuel + 1, room, text =>
      match text with
      | '[' :: rest =>
          if room = 0 then none
          else (items? fuel (room - 1) rest).map fun (items, rest) => (.list items, rest)
      | '\x7b' :: rest =>
          if room = 0 then none
          else (pairs? fuel (room - 1) [] rest).map fun (fields, rest) =>
            (.table (Node.toFields fields), rest)
      | text =>
          if text.head? = some '"' ∨ text.head? = some '\x27' then
            (string? text).map fun (s, rest) => (.text s, rest)
          else
            let (word, rest) := word text
            (wordOf? word).map fun setting => (setting, rest)

/-- The items of a list up to its closing bracket; a comma may stand before that. -/
def items? : Nat → Nat → List Char → Option (List Setting × List Char)
  | 0, _, _ => none
  | fuel + 1, room, text => do
      match ← skipLines? (text.length + 1) text with
      | ']' :: rest => return ([], rest)
      | text => do
          let (item, rest) ← value? fuel room text
          match ← skipLines? (rest.length + 1) rest with
          | ']' :: rest => return ([item], rest)
          | ',' :: rest => do
              let (items, rest) ← items? fuel room rest
              return (item :: items, rest)
          | _ => none

/-- The keys and values of an inline table up to its closing brace; a comma may stand before
that, and line breaks and comments anywhere but inside a key. -/
def pairs? : Nat → Nat → NodeFields → List Char → Option (NodeFields × List Char)
  | 0, _, _, _ => none
  | fuel + 1, room, fields, text => do
      match ← skipLines? (text.length + 1) text with
      | '\x7d' :: rest => return (fields, rest)
      | text => do
          let (key, rest) ← key? text
          let rest ← Text.after? ['='] (← skipLines? (rest.length + 1) rest)
          let (setting, rest) ← value? fuel room (← skipLines? (rest.length + 1) rest)
          let fields ← assign key setting fields
          match ← skipLines? (rest.length + 1) rest with
          | '\x7d' :: rest => return (fields, rest)
          | ',' :: rest => pairs? fuel room fields rest
          | _ => none

end

/-! ## Documents -/

/-- A document up to some line: all of its tables, and the header of the open one. -/
structure Progress where
  root : NodeFields
  header : List String

namespace Progress

/-- After a header, whose last key names a new table or list item. -/
def opened (progress : Progress) (key : List String) (openLast : String → NodeFields →
    Option NodeFields) : Option Progress := do
  let last ← key.getLast?
  let root ← Node.within (openLast last) key.dropLast progress.root
  return ⟨root, key⟩

def assigned (progress : Progress) (key : List String) (setting : Setting) : Option Progress :=
  (Node.within (assign key setting) progress.header progress.root).map fun root =>
    ⟨root, progress.header⟩

end Progress

def line? (progress : Progress) (text : List Char) : Option (Progress × List Char) :=
  match text with
  | '[' :: '[' :: rest => do
      let (key, rest) ← key? rest
      let rest ← Text.after? [']', ']'] rest
      return (← progress.opened key Node.openItem, rest)
  | '[' :: rest => do
      let (key, rest) ← key? rest
      let rest ← Text.after? [']'] rest
      return (← progress.opened key Node.openTable, rest)
  | text => do
      let (key, rest) ← key? text
      let rest ← Text.after? ['='] rest
      let (setting, rest) ← value? (rest.length + 1) deepest (Text.skipSpaces rest)
      return (← progress.assigned key setting, rest)

def lines : Nat → Progress → List Char → Option Progress
  | 0, _, _ => none
  | fuel + 1, progress, text => do
      match ← skipLines? (text.length + 1) text with
      | [] => return progress
      | text => do
          let (progress, rest) ← line? progress text
          lines fuel progress (← endLine? rest)

/-- The table that a whole document is. A byte order mark in front of it does not matter. -/
def read? (document : String) : Option (List (String × Setting)) :=
  let text := Text.withoutMark document.toList
  (lines (text.length + 1) ⟨[], []⟩ text).map fun progress => Node.toFields progress.root

end Toml
end Clearance
