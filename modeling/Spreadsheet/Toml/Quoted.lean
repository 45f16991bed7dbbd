import Spreadsheet.Json.Token

/-!
# Quoted texts in TOML

A text stands in double quotes, with escapes, or in single quotes, as it is. Three quotes allow
line breaks, drop one right behind the opening quotes, and allow one or two quotes within the text,
also in front of the closing ones. Each reader starts behind the opening quotes and gives the text
and what follows the closing ones.
-/

namespace Spreadsheet

namespace Toml

/-- A space or a tab. -/
def isSpace (c : Char) : Bool :=
  c == ' ' || c == '\t'

/-- A character that may stand in a line: a tab, or anything but controls. -/
def isPlain (c : Char) : Bool :=
  c == '\t' || 0x20 ≤ c.toNat && c.toNat ≠ 0x7F

/-- The character of a code point, unless it is a surrogate or too large. -/
def character? (point : Nat) : Option Char :=
  if h : point.isValidChar then some (Char.ofNatAux point h) else none

/-- The character that a one-letter escape stands for. -/
def escaped? : Char → Option Char
  | '"' => some '"'
  | '\\' => some '\\'
  | 'b' => some '\x08'
  | 'f' => some '\x0c'
  | 'n' => some '\n'
  | 'r' => some '\r'
  | 't' => some '\t'
  | _ => none

/-- A text in double quotes on one line. -/
def basicText (acc : List Char) : List Char → Option (List Char × List Char)
  | '"' :: cs => some (acc.reverse, cs)
  | '\\' :: 'u' :: a :: b :: c :: d :: cs =>
    match (Json.hexUnit? a b c d).bind character? with
    | some x => basicText (x :: acc) cs
    | none => none
  | '\\' :: 'U' :: a :: b :: c :: d :: e :: f :: g :: h :: cs =>
    match Json.hexUnit? a b c d, Json.hexUnit? e f g h with
    | some high, some low =>
      match character? (65536 * high + low) with
      | some x => basicText (x :: acc) cs
      | none => none
    | _, _ => none
  | '\\' :: c :: cs =>
    match escaped? c with
    | some x => basicText (x :: acc) cs
    | none => none
  | c :: cs => if isPlain c then basicText (c :: acc) cs else none
  | [] => none

/-- A text in single quotes on one line. -/
def literalText (acc : List Char) : List Char → Option (List Char × List Char)
  | '\x27' :: cs => some (acc.reverse, cs)
  | c :: cs => if isPlain c then literalText (c :: acc) cs else none
  | [] => none

/-- The characters start with a line break. -/
def startsLineBreak : List Char → Bool
  | '\n' :: _ => true
  | '\r' :: '\n' :: _ => true
  | _ => false

/-- A text in three double quotes. A backslash at the end of a line joins the next character that
is neither space nor line break; `joining` tells that it is looked for. -/
def longBasicText (acc : List Char) (joining : Bool) : List Char → Option (List Char × List Char)
  | '"' :: '"' :: '"' :: '"' :: '"' :: cs => some (('"' :: '"' :: acc).reverse, cs)
  | '"' :: '"' :: '"' :: '"' :: cs => some (('"' :: acc).reverse, cs)
  | '"' :: '"' :: '"' :: cs => some (acc.reverse, cs)
  | '\r' :: '\n' :: cs => longBasicText (if joining then acc else '\n' :: acc) joining cs
  | '\n' :: cs => longBasicText (if joining then acc else '\n' :: acc) joining cs
  | '\\' :: 'u' :: a :: b :: c :: d :: cs =>
    match (Json.hexUnit? a b c d).bind character? with
    | some x => longBasicText (x :: acc) false cs
    | none => none
  | '\\' :: 'U' :: a :: b :: c :: d :: e :: f :: g :: h :: cs =>
    match Json.hexUnit? a b c d, Json.hexUnit? e f g h with
    | some high, some low =>
      match character? (65536 * high + low) with
      | some x => longBasicText (x :: acc) false cs
      | none => none
    | _, _ => none
  | '\\' :: c :: cs =>
    if startsLineBreak ((c :: cs).dropWhile isSpace) then longBasicText acc true (c :: cs)
    else match escaped? c with
      | some x => longBasicText (x :: acc) false cs
      | none => none
  | c :: cs =>
    if joining && isSpace c then longBasicText acc true cs
    else if isPlain c then longBasicText (c :: acc) false cs
    else none
  | [] => none

/-- A text in three single quotes. -/
def longLiteralText (acc : List Char) : List Char → Option (List Char × List Char)
  | '\x27' :: '\x27' :: '\x27' :: '\x27' :: '\x27' :: cs =>
    some (('\x27' :: '\x27' :: acc).reverse, cs)
  | '\x27' :: '\x27' :: '\x27' :: '\x27' :: cs => some (('\x27' :: acc).reverse, cs)
  | '\x27' :: '\x27' :: '\x27' :: cs => some (acc.reverse, cs)
  | '\r' :: '\n' :: cs => longLiteralText ('\n' :: acc) cs
  | '\n' :: cs => longLiteralText ('\n' :: acc) cs
  | c :: cs => if isPlain c then longLiteralText (c :: acc) cs else none
  | [] => none

/-- The characters without a line break at their start. -/
def dropLineBreak : List Char → List Char
  | '\n' :: cs => cs
  | '\r' :: '\n' :: cs => cs
  | cs => cs

/-- A text with its quotes, of any of the four forms. -/
def quotedText : List Char → Option (List Char × List Char)
  | '"' :: '"' :: '"' :: cs => longBasicText [] false (dropLineBreak cs)
  | '"' :: cs => basicText [] cs
  | '\x27' :: '\x27' :: '\x27' :: cs => longLiteralText [] (dropLineBreak cs)
  | '\x27' :: cs => literalText [] cs
  | _ => none

end Toml

end Spreadsheet
