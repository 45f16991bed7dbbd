import Spreadsheet.Cell.Number
import Spreadsheet.Formula.Operator
import Spreadsheet.Grid.Address

/-!
# Tokens of formulas

A formula text is split into numbers, quoted texts, cell references, names and marks, with white
space between them. Every token remembers how many characters precede it, and the last token marks
the end of the text.
-/

namespace Spreadsheet

namespace Formula

/-- A token of a formula. -/
inductive Token where
  | number (value : Number)
  | text (content : String)
  | cell (address : Address)
  | name (word : String)
  | operator (op : BinaryOp)
  | openParen
  | closeParen
  | comma
  | colon
  | endOfText
deriving DecidableEq

/-- A token and the number of characters before it. -/
structure Placed where
  token : Token
  offset : Nat
deriving DecidableEq

/-- Why no token starts at some character. -/
inductive LexicalFault where
  | unknownCharacter (c : Char)
  | numberTooLarge (written : String)
  | openText
deriving DecidableEq

/-- The wording of a lexical fault. -/
def LexicalFault.message : LexicalFault → String
  | .unknownCharacter c => "unexpected character '" ++ String.singleton c ++ "'"
  | .numberTooLarge written => "invalid number '" ++ written ++ "'"
  | .openText => "unterminated string"

/-- How a token is quoted in messages. -/
def Token.display : Token → String
  | .number value => value.display
  | .text content => "\"" ++ content ++ "\""
  | .cell address => address.text
  | .name word => word
  | .operator op => op.symbol
  | .openParen => "("
  | .closeParen => ")"
  | .comma => ","
  | .colon => ":"
  | .endOfText => "end of input"

namespace Token

/-! ### Numbers, texts and words -/

/-- An exponent mark with an optional sign, when a digit follows it, and the digits; otherwise
nothing. -/
def exponentPart : List Char → List Char
  | mark :: '+' :: d :: cs =>
    if (mark = 'e' ∨ mark = 'E') ∧ d.isDigit then mark :: '+' :: d :: cs.takeWhile Char.isDigit
    else []
  | mark :: '-' :: d :: cs =>
    if (mark = 'e' ∨ mark = 'E') ∧ d.isDigit then mark :: '-' :: d :: cs.takeWhile Char.isDigit
    else []
  | mark :: d :: cs =>
    if (mark = 'e' ∨ mark = 'E') ∧ d.isDigit then mark :: d :: cs.takeWhile Char.isDigit
    else []
  | _ => []

/-- The longest number at the start of the characters: digits, an optional point with further
digits, and an optional exponent. -/
def numberPart (cs : List Char) : List Char :=
  let whole := cs.takeWhile Char.isDigit
  match cs.dropWhile Char.isDigit with
  | '.' :: rest =>
    whole ++ '.' :: rest.takeWhile Char.isDigit ++ exponentPart (rest.dropWhile Char.isDigit)
  | rest => whole ++ exponentPart rest

/-- The content of a quoted text after its opening quote, where a doubled quote stands for one,
and how many characters it takes up to and including the closing quote. -/
def textPart (content : List Char) (taken : Nat) : List Char → Option (List Char × Nat)
  | '"' :: '"' :: cs => textPart ('"' :: content) (taken + 2) cs
  | '"' :: _ => some (content.reverse, taken + 1)
  | c :: cs => textPart (c :: content) (taken + 1) cs
  | [] => none

/-- A character that a name starts with. -/
def isNameStart (c : Char) : Bool :=
  c.isAlpha || c == '_'

/-- A character within a name. -/
def isNameChar (c : Char) : Bool :=
  c.isAlphanum || c == '_'

/-- A word is a cell reference when it is written like an address, and a name otherwise. -/
def ofWord (word : List Char) : Token :=
  match Address.read? word with
  | some address => .cell address
  | none => .name (String.ofList word)

/-! ### The first token -/

/-- The mark at the start of the characters, and how many characters it takes after its first. -/
def mark? (c : Char) (cs : List Char) : Option (Token × Nat) :=
  match c, cs with
  | '+', _ => some (.operator .add, 0)
  | '-', _ => some (.operator .subtract, 0)
  | '*', _ => some (.operator .multiply, 0)
  | '/', _ => some (.operator .divide, 0)
  | '&', _ => some (.operator .join, 0)
  | '=', _ => some (.operator (.compare .equal), 0)
  | '<', '=' :: _ => some (.operator (.compare .lessEqual), 1)
  | '<', '>' :: _ => some (.operator (.compare .notEqual), 1)
  | '<', _ => some (.operator (.compare .less), 0)
  | '>', '=' :: _ => some (.operator (.compare .greaterEqual), 1)
  | '>', _ => some (.operator (.compare .greater), 0)
  | '(', _ => some (.openParen, 0)
  | ')', _ => some (.closeParen, 0)
  | ',', _ => some (.comma, 0)
  | ':', _ => some (.colon, 0)
  | _, _ => none

/-- A number starts with a digit, or with a point before a digit. -/
def startsNumber (c : Char) (cs : List Char) : Bool :=
  c.isDigit || c == '.' && cs.head?.any Char.isDigit

/-- The token at the start of the characters `c :: cs`, and how many characters it takes after its
first. -/
def first (c : Char) (cs : List Char) : Except LexicalFault (Token × Nat) :=
  if startsNumber c cs then
    let written := numberPart (c :: cs)
    match (Decimal.read? written).map (Binary.ofDecimal false) with
    | some (.finite negative rank) => .ok (.number (.finite negative rank), written.length - 1)
    | _ => .error (.numberTooLarge (String.ofList written))
  else if isNameStart c then
    let rest := cs.takeWhile isNameChar
    .ok (ofWord (c :: rest), rest.length)
  else if c = '"' then
    match textPart [] 0 cs with
    | some (content, taken) => .ok (.text (String.ofList content), taken)
    | none => .error .openText
  else match mark? c cs with
    | some result => .ok result
    | none => .error (.unknownCharacter c)

end Token

/-! ### Splitting a text -/

/-- The tokens of the characters, which follow `offset` others, after the tokens of `acc` in
reverse. A fault comes with the offset of the token that it spoils. -/
def tokensAfter (acc : List Placed) (offset : Nat) (cs : List Char) :
    Except (Nat × LexicalFault) (List Placed) :=
  match cs with
  | [] => .ok (⟨.endOfText, offset⟩ :: acc).reverse
  | c :: rest =>
    if Text.isBlankChar c then tokensAfter acc (offset + 1) rest
    else match Token.first c rest with
      | .error fault => .error (offset, fault)
      | .ok (token, more) =>
        tokensAfter (⟨token, offset⟩ :: acc) (offset + 1 + more) (rest.drop more)
termination_by cs.length
decreasing_by
  · simp only [List.length_cons]
    omega
  · simp only [List.length_cons, List.length_drop]
    omega

/-- The tokens of a text, the end of the text last. -/
def tokens (s : String) : Except (Nat × LexicalFault) (List Placed) :=
  tokensAfter [] 0 s.toList

end Formula

end Spreadsheet
