import Spreadsheet.Binary.Reading
import Spreadsheet.Toml.Basic
import Spreadsheet.Toml.Quoted

/-!
# Bare values in TOML

Truth values, numbers and dates are written without quotes. An underscore may separate two digits
of a number, and a whole number has at most 64 bits.
-/

namespace Spreadsheet

namespace Toml

/-! ### Numbers -/

/-- Digits of one kind, single underscores between them allowed; gives the digits. -/
def digits? (isDigit : Char → Bool) : List Char → Option (List Char)
  | [] => none
  | [d] => if isDigit d then some [d] else none
  | d :: '_' :: cs => if isDigit d then (digits? isDigit cs).map (d :: ·) else none
  | d :: cs => if isDigit d then (digits? isDigit cs).map (d :: ·) else none

/-- The number that digits write in a base. -/
def inBase (base : Nat) (ds : List Char) : Nat :=
  ds.foldl (fun n d => base * n + (Json.hexValue? d).getD 0) 0

/-- A hexadecimal digit. -/
def isHexDigit (c : Char) : Bool :=
  (Json.hexValue? c).isSome

/-- An octal digit. -/
def isOctalDigit (c : Char) : Bool :=
  '0' ≤ c && c ≤ '7'

/-- A binary digit. -/
def isBinaryDigit (c : Char) : Bool :=
  c == '0' || c == '1'

/-- Decimal digits without a leading zero. -/
def wholeDigits? (cs : List Char) : Option (List Char) :=
  (digits? Char.isDigit cs).filter fun ds => ds.length = 1 || ds.head? != some '0'

/-- A number of 64 bits with a sign. -/
def word? (n : Int) : Option Int :=
  if -9223372036854775808 ≤ n ∧ n ≤ 9223372036854775807 then some n else none

/-- The whole number that the characters write. -/
def integer? : List Char → Option Int
  | '0' :: 'x' :: cs => (digits? isHexDigit cs).bind fun ds => word? (inBase 16 ds)
  | '0' :: 'o' :: cs => (digits? isOctalDigit cs).bind fun ds => word? (inBase 8 ds)
  | '0' :: 'b' :: cs => (digits? isBinaryDigit cs).bind fun ds => word? (inBase 2 ds)
  | '+' :: cs => (wholeDigits? cs).bind fun ds => word? (inBase 10 ds)
  | '-' :: cs => (wholeDigits? cs).bind fun ds => word? (-inBase 10 ds)
  | cs => (wholeDigits? cs).bind fun ds => word? (inBase 10 ds)

/-- The characters without a sign at their start. -/
def dropSign : List Char → List Char
  | '+' :: cs => cs
  | '-' :: cs => cs
  | cs => cs

/-- A character of the exponent mark. -/
def isExponentMark (c : Char) : Bool :=
  c == 'e' || c == 'E'

/-- The characters write one of the two words for numbers that are not finite. -/
def isSpecialFloat (written : List Char) : Bool :=
  let cs := dropSign written
  cs = "inf".toList || cs = "nan".toList

/-- The characters have the form of a floating-point number: a whole part, then a point with digits
or an exponent or both. -/
def hasFloatForm (written : List Char) : Bool :=
  let cs := dropSign written
  let mantissa := cs.takeWhile fun c => !isExponentMark c
  let exponentIsRight := match cs.dropWhile fun c => !isExponentMark c with
    | [] => mantissa.contains '.'
    | _ :: exponent => (digits? Char.isDigit (dropSign exponent)).isSome
  let fractionIsRight := match mantissa.dropWhile (· ≠ '.') with
    | [] => true
    | _ :: fraction => (digits? Char.isDigit fraction).isSome
  (wholeDigits? (mantissa.takeWhile (· ≠ '.'))).isSome && fractionIsRight && exponentIsRight

/-- The number that the characters of a floating-point number write, in double precision. -/
def floatValue? (written : List Char) : Option (Binary .double) :=
  Binary.read? (written.filter (· ≠ '_'))

/-- The characters write a floating-point number. Numbers too large for double precision are
refused when they are positive and kept when they are negative. -/
def isFloat (written : List Char) : Bool :=
  isSpecialFloat written || hasFloatForm written && floatValue? written != some (.infinite false)

/-! ### Dates and times -/

/-- A number of exactly `count` digits within bounds, and what follows it. -/
def field? (count low high : Nat) (cs : List Char) : Option (Nat × List Char) :=
  let ds := cs.take count
  let n := inBase 10 ds
  if ds.length = count ∧ ds.all Char.isDigit ∧ low ≤ n ∧ n ≤ high then some (n, cs.drop count)
  else none

/-- What follows a mark. -/
def after? (mark : Char) : List Char → Option (List Char)
  | c :: cs => if c = mark then some cs else none
  | [] => none

/-- A year with a twenty-ninth of February. -/
def isLeapYear (year : Nat) : Bool :=
  year % 4 == 0 && (year % 100 != 0 || year % 400 == 0)

/-- The number of days in a month. -/
def daysInMonth (year month : Nat) : Nat :=
  if month = 2 then if isLeapYear year then 29 else 28
  else if month ∈ [4, 6, 9, 11] then 30
  else 31

/-- What follows a date. -/
def afterDate? (cs : List Char) : Option (List Char) := do
  let (year, cs) ← field? 4 0 9999 cs
  let (month, cs) ← field? 2 1 12 (← after? '-' cs)
  let (_, cs) ← field? 2 1 (daysInMonth year month) (← after? '-' cs)
  return cs

/-- What follows the hours and minutes of a time or of an offset. -/
def afterMinutes? (cs : List Char) : Option (List Char) := do
  let (_, cs) ← field? 2 0 23 cs
  let (_, cs) ← field? 2 0 59 (← after? ':' cs)
  return cs

/-- What follows a time of day. -/
def afterTime? (cs : List Char) : Option (List Char) := do
  let (_, cs) ← field? 2 0 60 (← after? ':' (← afterMinutes? cs))
  match cs with
  | '.' :: rest =>
    if rest.takeWhile Char.isDigit = [] then none else some (rest.dropWhile Char.isDigit)
  | rest => some rest

/-- The characters are an offset from universal time, or nothing. -/
def isOffset : List Char → Bool
  | [] => true
  | ['Z'] => true
  | ['z'] => true
  | '+' :: cs => afterMinutes? cs == some []
  | '-' :: cs => afterMinutes? cs == some []
  | _ => false

/-- The characters write a date, a time of day, or both with an optional offset. -/
def isDate (cs : List Char) : Bool :=
  match afterDate? cs with
  | none => afterTime? cs == some []
  | some [] => true
  | some (mark :: rest) =>
    (mark == 'T' || mark == 't' || mark == ' ') && (afterTime? rest).any isOffset

/-! ### Bare values -/

/-- A character of a bare value. -/
def isBareValueChar (c : Char) : Bool :=
  c.isAlphanum || c == '_' || c == '+' || c == '-' || c == '.' || c == ':'

/-- The characters of a bare value; a date may be followed by a space and a time. -/
def bareChars (cs : List Char) : List Char :=
  let first := cs.takeWhile isBareValueChar
  match cs.dropWhile isBareValueChar with
  | ' ' :: d :: rest =>
    if afterDate? first = some [] ∧ d.isDigit then
      first ++ ' ' :: d :: rest.takeWhile isBareValueChar
    else first
  | _ => first

/-- The value that bare characters write. -/
def bareValue? (cs : List Char) : Option Toml :=
  if cs = "true".toList then some (.bool true)
  else if cs = "false".toList then some (.bool false)
  else match integer? cs with
    | some n => some (.integer n)
    | none =>
      if isFloat cs then some (.float (String.ofList cs))
      else if isDate cs then some (.date (String.ofList cs))
      else none

end Toml

end Spreadsheet
