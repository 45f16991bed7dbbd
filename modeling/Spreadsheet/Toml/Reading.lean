import Spreadsheet.Toml.Scalar
import Spreadsheet.Toml.Table

/-!
# Reading TOML

A document is a sequence of lines: table headers, entries and empty lines, each with an optional
comment. Every reader takes the characters from where its part starts and gives the part and the
characters behind it. Values nest up to a fixed depth, and a loop over items needs fewer `rounds`
than the document has characters, because every item takes one at least.
-/

namespace Spreadsheet

namespace Toml

/-- The characters without the spaces at their start. -/
def skipSpaces (cs : List Char) : List Char :=
  cs.dropWhile isSpace

/-- Skips spaces, comments and line breaks. -/
def skipGap (inComment : Bool) : List Char → Option (List Char)
  | [] => some []
  | '\n' :: cs => skipGap false cs
  | '\r' :: '\n' :: cs => skipGap false cs
  | c :: cs =>
    if inComment then if isPlain c then skipGap true cs else none
    else if isSpace c then skipGap false cs
    else if c = '#' then skipGap true cs
    else some (c :: cs)

/-! ### Keys -/

/-- A character of a bare key. -/
def isBareKeyChar (c : Char) : Bool :=
  c.isAlphanum || c == '_' || c == '-'

/-- One key: bare, or quoted on one line. -/
def key? : List Char → Option (String × List Char)
  | '"' :: cs => (basicText [] cs).map fun (key, rest) => (String.ofList key, rest)
  | '\x27' :: cs => (literalText [] cs).map fun (key, rest) => (String.ofList key, rest)
  | cs =>
    let key := cs.takeWhile isBareKeyChar
    if key = [] then none else some (String.ofList key, cs.dropWhile isBareKeyChar)

/-- Keys joined by points, after those of `acc` in reverse. -/
def keys? (acc : List String) : Nat → List Char → Option (List String × List Char)
  | 0, _ => none
  | rounds + 1, cs => do
    let (key, rest) ← key? (skipSpaces cs)
    match skipSpaces rest with
    | '.' :: more => keys? (key :: acc) rounds more
    | more => some ((key :: acc).reverse, more)

/-- How many arrays and inline tables stand around one another at most, and how many keys a dotted
key joins at most. -/
def deepest : Nat := 79

/-- A dotted key. -/
def path? (rounds : Nat) (cs : List Char) : Option (List String × List Char) :=
  (keys? [] rounds cs).filter fun (keys, _) => keys.length ≤ deepest

/-! ### Values -/

/-- A reader of values. -/
abbrev ValueReader := List Char → Option (Toml × List Char)

/-- The items of an array behind its opening bracket, after those of `acc` in reverse. -/
def items? (value : ValueReader) (acc : List Toml) : Nat → List Char → Option (Toml × List Char)
  | 0, _ => none
  | rounds + 1, cs => do
    match ← skipGap false cs with
    | ']' :: rest => return (.array acc.reverse, rest)
    | cs =>
      let (v, rest) ← value cs
      match ← skipGap false rest with
      | ',' :: rest => items? value (v :: acc) rounds rest
      | ']' :: rest => return (.array (v :: acc).reverse, rest)
      | _ => none

/-- An entry: a dotted key, an equals sign and a value. -/
def entry? (value : ValueReader) (rounds : Nat) (cs : List Char) :
    Option ((List String × Toml) × List Char) := do
  let (path, rest) ← path? rounds cs
  match rest with
  | '=' :: rest => do
    let (v, rest) ← value (skipSpaces rest)
    return ((path, v), rest)
  | _ => none

/-- The entries of an inline table behind its opening brace, after those of `acc` in reverse. -/
def entries? (value : ValueReader) (acc : List (List String × Toml)) :
    Nat → List Char → Option (Toml × List Char)
  | 0, _ => none
  | rounds + 1, cs => do
    let (entry, rest) ← entry? value (rounds + 1) (skipSpaces cs)
    match skipSpaces rest with
    | ',' :: rest => entries? value (entry :: acc) rounds rest
    | '\x7d' :: rest => do
      let table ← ofEntries? (entry :: acc).reverse
      return (.table table, rest)
    | _ => none

/-- An inline table behind its opening brace. -/
def inlineTable? (value : ValueReader) (rounds : Nat) (cs : List Char) :
    Option (Toml × List Char) :=
  match skipSpaces cs with
  | '\x7d' :: rest => some (.table [], rest)
  | cs => entries? value [] rounds cs

/-- A value that holds no others. -/
def scalar? (cs : List Char) : Option (Toml × List Char) :=
  match cs with
  | '"' :: _ => (quotedText cs).map fun (s, rest) => (.string (String.ofList s), rest)
  | '\x27' :: _ => (quotedText cs).map fun (s, rest) => (.string (String.ofList s), rest)
  | cs =>
    let bare := bareChars cs
    (bareValue? bare).map fun v => (v, cs.drop bare.length)

/-- A value with at most `depth` arrays and inline tables around one another. -/
def value? (rounds depth : Nat) (cs : List Char) : Option (Toml × List Char) :=
  match depth, cs with
  | depth + 1, '[' :: rest => items? (value? rounds depth) [] rounds rest
  | depth + 1, '\x7b' :: rest => inlineTable? (value? rounds depth) rounds rest
  | _, cs => scalar? cs

/-! ### Documents -/

/-- The statement at the start of a line. -/
def statement? (rounds : Nat) : List Char → Option (Statement × List Char)
  | '[' :: '[' :: cs => do
    let (path, rest) ← path? rounds cs
    match rest with
    | ']' :: ']' :: rest => return (.arrayHeader path, rest)
    | _ => none
  | '[' :: cs => do
    let (path, rest) ← path? rounds cs
    match rest with
    | ']' :: rest => return (.header path, rest)
    | _ => none
  | cs => do
    let ((path, v), rest) ← entry? (value? rounds deepest) rounds cs
    return (.entry path v, rest)

/-- What follows the end of a line: an optional comment and a line break, or the end. -/
def endLine? (cs : List Char) : Option (List Char) :=
  let rest := match skipSpaces cs with
    | '#' :: comment => comment.dropWhile isPlain
    | rest => rest
  if rest = [] ∨ startsLineBreak rest then some (dropLineBreak rest) else none

/-- The statements of a document, after those of `acc` in reverse. -/
def statements? (acc : List Statement) : Nat → List Char → Option (List Statement)
  | 0, _ => none
  | rounds + 1, cs => do
    match ← skipGap false cs with
    | [] => return acc.reverse
    | cs =>
      let (s, rest) ← statement? (rounds + 1) cs
      statements? (s :: acc) rounds (← endLine? rest)

/-- The entries that a document gives; a byte-order mark in front is dropped. -/
def ofText? (s : String) : Option (List (String × Toml)) := do
  let cs := match s.toList with
    | '\uFEFF' :: cs => cs
    | cs => cs
  ofStatements? (← statements? [] (cs.length + 1) cs)

end Toml

end Spreadsheet
