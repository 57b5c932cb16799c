import Clearance.Config.Setting
import Clearance.Number.Digits
import Clearance.Number.Double
import Clearance.Text.Split

/-!
# Scalars in TOML

Numbers, truth values and dates are written without quotes, as one word each. A word is at most
one of them, so they are told apart by trying: **a word that is none of them is an error, never
text**. Digits may be separated by single underscores. A date or a time is kept as text, in a
normal spelling: `T` between date and time, `Z` for the zero offset of that name, and no zeros at
the end of a fraction.
-/

set_option autoImplicit false

namespace Clearance
namespace Toml

/-! ## Numbers -/

/-- Drops underscores that stand between two digits; any other stays and spoils the number. -/
def joinDigits (isDigit : Char → Bool) : List Char → List Char
  | a :: '_' :: b :: rest =>
      if isDigit a && isDigit b then a :: joinDigits isDigit (b :: rest)
      else a :: '_' :: joinDigits isDigit (b :: rest)
  | c :: rest => c :: joinDigits isDigit rest
  | [] => []

def decimal? (text : List Char) : Option Nat :=
  match text with
  | '0' :: _ :: _ => none
  | _ => Number.natural? text

/-- A number in a base that is named by a letter, underscores between the digits allowed. -/
def lettered? (base : Nat) (text : List Char) : Option Int :=
  (Number.inBase? base (joinDigits (fun c => (Number.digitValue? c).isSome) text)).map Int.ofNat

/-- An integer: decimal with or without a sign, or in one of three bases without. -/
def integer? (text : List Char) : Option Int :=
  match text with
  | '0' :: 'x' :: digits => lettered? 16 digits
  | '0' :: 'o' :: digits => lettered? 8 digits
  | '0' :: 'b' :: digits => lettered? 2 digits
  | text =>
      let (isNegative, digits) := Number.sign (joinDigits Char.isDigit text)
      (decimal? digits).map (Number.signed isNegative)

/-- A float: a decimal number with a fraction, an exponent or both. One that is too large is an
error, and the words for infinity and not-a-number are the only way to those. -/
def float? (text : List Char) : Option Double :=
  let (isNegative, body) := Number.sign (joinDigits Char.isDigit text)
  if body = ['i', 'n', 'f'] then some (.infinity isNegative)
  else if body = ['n', 'a', 'n'] then some .nan
  else
    let whole := body.takeWhile Char.isDigit
    let rest := body.dropWhile Char.isDigit
    let fraction? := match rest with
      | '.' :: rest =>
          match rest.takeWhile Char.isDigit with
          | [] => none
          | fraction => some (fraction, rest.dropWhile Char.isDigit)
      | rest => some ([], rest)
    do
      let _ ← decimal? whole
      let (fraction, rest) ← fraction?
      let exponent ← match rest with
        | [] => some 0
        | c :: rest =>
            if c = 'e' ∨ c = 'E' then
              let (isNegative, digits) := Number.sign rest
              (Number.natural? digits).map (Number.signed isNegative)
            else none
      let digits ← Number.natural? (whole ++ fraction)
      let d := Double.ofDecimal isNegative digits (exponent - fraction.length)
      if d.isInfinite then none else some d

/-! ## Dates and times -/

/-- A number of exactly `count` decimal digits, and what follows it. -/
def digits? (count : Nat) (text : List Char) : Option (Nat × List Char) :=
  Number.exactly? Number.natural? count text

def daysInMonth (year month : Nat) : Nat :=
  if month = 2 then
    if year % 4 = 0 ∧ (year % 100 ≠ 0 ∨ year % 400 = 0) then 29 else 28
  else if month = 4 ∨ month = 6 ∨ month = 9 ∨ month = 11 then 30
  else 31

def date? (text : List Char) : Option (List Char × List Char) := do
  let (year, rest) ← digits? 4 text
  let (month, rest) ← digits? 2 (← Text.after? ['-'] rest)
  let (day, rest) ← digits? 2 (← Text.after? ['-'] rest)
  if 1 ≤ month ∧ month ≤ 12 ∧ 1 ≤ day ∧ day ≤ daysInMonth year month then
    some (text.take 10, rest)
  else none

/-- The text of a fraction of a second: at most nine digits, no zeros at the end, one digit at
least. -/
def fractionText (digits : List Char) : List Char :=
  match ((digits.take 9).reverse.dropWhile (· == '0')).reverse with
  | [] => ['0']
  | digits => digits

/-- The text of the seconds of a time, which may be missing, and what follows. -/
def seconds? (text : List Char) : Option (List Char × List Char) :=
  match text with
  | ':' :: rest => do
      let (second, after) ← digits? 2 rest
      if 60 < second then none
      let shown := ':' :: rest.take 2
      match after with
      | '.' :: after =>
          match after.takeWhile Char.isDigit with
          | [] => none
          | digits => some (shown ++ '.' :: fractionText digits, after.dropWhile Char.isDigit)
      | after => some (shown, after)
  | text => some ([], text)

/-- The text of a time of day, and what follows it. -/
def time? (text : List Char) : Option (List Char × List Char) := do
  let (hour, rest) ← digits? 2 text
  let (minute, rest) ← digits? 2 (← Text.after? [':'] rest)
  if 23 < hour ∨ 59 < minute then none
  let (seconds, rest) ← seconds? rest
  return (text.take 5 ++ seconds, rest)

/-- The text of an offset from universal time, which may be missing. Nothing follows it. -/
def offset? : List Char → Option (List Char)
  | [] => some []
  | [c] => if c = 'Z' ∨ c = 'z' then some ['Z'] else none
  | c :: rest => do
      if c ≠ '+' ∧ c ≠ '-' then none
      let (hour, after) ← digits? 2 rest
      let (minute, after) ← digits? 2 (← Text.after? [':'] after)
      if 23 < hour ∨ 59 < minute ∨ after ≠ [] then none
      let shown := if hour = 0 ∧ minute = 0 then '+' else c
      return shown :: rest

/-- The text of a date, a time, or both with or without an offset. -/
def dateTime? (text : List Char) : Option (List Char) :=
  match date? text with
  | some (date, []) => some date
  | some (date, separator :: rest) => do
      if separator ≠ 'T' ∧ separator ≠ 't' ∧ separator ≠ ' ' then none
      let (time, rest) ← time? rest
      return date ++ 'T' :: time ++ (← offset? rest)
  | none =>
      match time? text with
      | some (time, []) => some time
      | _ => none

def wordOf? (text : List Char) : Option Setting :=
  if text = ['t', 'r', 'u', 'e'] then some (.flag true)
  else if text = ['f', 'a', 'l', 's', 'e'] then some (.flag false)
  else match integer? text, float? text, dateTime? text with
    | some n, _, _ => some (.integer n)
    | none, some d, _ => some (.float d)
    | none, none, some text => some (.text (String.ofList text))
    | none, none, none => none

end Toml
end Clearance
