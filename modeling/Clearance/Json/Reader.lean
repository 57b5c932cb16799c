import Clearance.Number.Bounds
import Clearance.Number.Digits
import Clearance.Text.Split
import Clearance.Value

/-!
# Reading values from JSON text

A reader takes the characters that are left and gives what it read together with the rest. A
number literal without point and exponent is an integer as long as it fits 64 bits (unsigned, or
signed below zero); every other literal is a float, `-0` among them. Of two fields with one key
the later one stays.

The readers of nested text carry fuel. Each step of theirs takes at least one character, so the
length of the text is enough of it, and `read?` supplies that.
-/

set_option autoImplicit false

namespace Clearance
namespace Json

def skipBlanks (text : List Char) : List Char :=
  text.dropWhile fun c => c == ' ' || c == '\t' || c == '\n' || c == '\r'

/-! ## Numbers -/

/-- The parts of a number literal: digits before and after the point and the exponent. -/
structure Literal where
  negative : Bool
  whole : List Char
  fraction : Option (List Char)
  exponent : Option Int

namespace Literal

def naturalOf (digits : List Char) : Nat := Nat.ofDigitChars 10 digits 0

def double (l : Literal) : Double :=
  let fraction := l.fraction.getD []
  .ofDecimal l.negative (naturalOf (l.whole ++ fraction))
    (l.exponent.getD 0 - fraction.length)

/-- The number that a literal writes; a float beyond the largest double is none. -/
def number? (l : Literal) : Option Number :=
  let n := naturalOf l.whole
  let isInteger := l.fraction.isNone && l.exponent.isNone
  if isInteger && !l.negative && Number.fitsUnsigned n then some (.integer n)
  else if isInteger && l.negative && 0 < n && Number.fitsSigned (-n) then some (.integer (-n))
  else if l.double.isInfinite then none
  else some (.float l.double)

end Literal

def digits? (text : List Char) : Option (List Char × List Char) :=
  let digits := text.takeWhile Char.isDigit
  if digits = [] then none else some (digits, text.dropWhile Char.isDigit)

def fraction? : List Char → Option (Option (List Char) × List Char)
  | '.' :: rest => (digits? rest).map fun (digits, rest) => (some digits, rest)
  | text => some (none, text)

def exponent? : List Char → Option (Option Int × List Char)
  | c :: rest =>
      if c = 'e' ∨ c = 'E' then
        let (isNegative, rest) := Number.sign rest
        (digits? rest).map fun (digits, rest) =>
          (some (Number.signed isNegative (Literal.naturalOf digits)), rest)
      else some (none, c :: rest)
  | [] => some (none, [])

/-- A number; a whole part of several digits does not begin with a zero. -/
def number? (text : List Char) : Option (Number × List Char) := do
  let (negative, text) := match text with
    | '-' :: rest => (true, rest)
    | text => (false, text)
  let (whole, text) ← digits? text
  if whole.length > 1 && whole.head? == some '0' then none
  let (fraction, text) ← fraction? text
  let (exponent, text) ← exponent? text
  let number ← Literal.number? ⟨negative, whole, fraction, exponent⟩
  return (number, text)

/-! ## Strings -/

def escape? : Char → Option Char
  | '"' => some '"'
  | '\\' => some '\\'
  | '/' => some '/'
  | 'b' => some '\x08'
  | 'f' => some '\x0c'
  | 'n' => some '\n'
  | 'r' => some '\r'
  | 't' => some '\t'
  | _ => none

def codeUnit? (text : List Char) : Option (Nat × List Char) :=
  Number.exactly? (Number.inBase? 16) 4 text

/-- The character of a numeric escape, whose `\u` is already read: four hexadecimal digits, or
two halves of a surrogate pair. -/
def unicodeEscape? (text : List Char) : Option (Char × List Char) := do
  let (unit, rest) ← codeUnit? text
  if 0xDC00 ≤ unit && unit < 0xE000 then none
  else if 0xD800 ≤ unit && unit < 0xDC00 then
    match rest with
    | '\\' :: 'u' :: rest => do
        let (low, rest) ← codeUnit? rest
        if 0xDC00 ≤ low && low < 0xE000 then
          return (Char.ofNat (0x10000 + (unit - 0xD800) * 0x400 + (low - 0xDC00)), rest)
        else none
    | _ => none
  else return (Char.ofNat unit, rest)

/-- The rest of a string after its opening quote. -/
def string? : Nat → List Char → Option (List Char × List Char)
  | 0, _ => none
  | _ + 1, '"' :: rest => some ([], rest)
  | fuel + 1, '\\' :: 'u' :: rest => do
      let (c, rest) ← unicodeEscape? rest
      let (tail, rest) ← string? fuel rest
      return (c :: tail, rest)
  | fuel + 1, '\\' :: letter :: rest => do
      let c ← escape? letter
      let (tail, rest) ← string? fuel rest
      return (c :: tail, rest)
  | fuel + 1, c :: rest =>
      if c.toNat < 0x20 then none
      else do
        let (tail, rest) ← string? fuel rest
        return (c :: tail, rest)
  | _ + 1, [] => none

/-! ## Values -/

mutual

def value? : Nat → List Char → Option (Value × List Char)
  | 0, _ => none
  | fuel + 1, text =>
      match skipBlanks text with
      | 'n' :: rest => (Text.after? ['u', 'l', 'l'] rest).map fun rest => (.null, rest)
      | 't' :: rest => (Text.after? ['r', 'u', 'e'] rest).map fun rest => (.bool true, rest)
      | 'f' :: rest => (Text.after? ['a', 'l', 's', 'e'] rest).map fun rest => (.bool false, rest)
      | '"' :: rest =>
          (string? (rest.length + 1) rest).map fun (s, rest) => (.text (String.ofList s), rest)
      | '[' :: rest =>
          match skipBlanks rest with
          | ']' :: rest => some (.list [], rest)
          | rest => (items? fuel rest).map fun (items, rest) => (.list items, rest)
      | '\x7b' :: rest =>
          match skipBlanks rest with
          | '\x7d' :: rest => some (.object [], rest)
          | rest => (fields? fuel rest).map fun (fields, rest) => (.ofFields fields, rest)
      | text => (number? text).map fun (n, rest) => (.number n, rest)

/-- The items of a list up to its closing bracket, at least one. -/
def items? : Nat → List Char → Option (List Value × List Char)
  | 0, _ => none
  | fuel + 1, text => do
      let (item, rest) ← value? fuel text
      match skipBlanks rest with
      | ',' :: rest => do
          let (items, rest) ← items? fuel rest
          return (item :: items, rest)
      | ']' :: rest => return ([item], rest)
      | _ => none

/-- The fields of an object up to its closing brace, at least one. -/
def fields? : Nat → List Char → Option (List (String × Value) × List Char)
  | 0, _ => none
  | fuel + 1, text =>
      match skipBlanks text with
      | '"' :: rest => do
          let (key, rest) ← string? (rest.length + 1) rest
          match skipBlanks rest with
          | ':' :: rest => do
              let (held, rest) ← value? fuel rest
              let field := (String.ofList key, held)
              match skipBlanks rest with
              | ',' :: rest => do
                  let (fields, rest) ← fields? fuel rest
                  return (field :: fields, rest)
              | '\x7d' :: rest => return ([field], rest)
              | _ => none
          | _ => none
      | _ => none

end

/-- The value that a whole text writes, blanks around it allowed. -/
def read? (text : String) : Option Value :=
  match value? (text.length + 1) text.toList with
  | some (value, rest) => if skipBlanks rest = [] then some value else none
  | none => none

end Json
end Clearance
