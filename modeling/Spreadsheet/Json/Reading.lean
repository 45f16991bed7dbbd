import Spreadsheet.Json.Basic
import Spreadsheet.Json.Token

/-!
# Reading JSON

A value is built from the tokens of a text one by one. The state between two tokens is a stack of
the arrays and objects that are still open, and what may come next.
-/

namespace Spreadsheet

namespace Json

/-- The members of an object so far, latest first; nothing once a name was half of a surrogate
pair. -/
abbrev Members := Option (List (String × Json))

/-- The members with one more. -/
def Members.add (members : Members) (name : Option String) (value : Json) : Members := do
  return (← name, value) :: (← members)

/-- The object of complete members. -/
def Members.toJson : Members → Json
  | some members => .object members.reverse
  | none => .halfPair

/-- An open array or object with what it holds so far, latest first. -/
inductive Frame where
  | array (items : List Json)
  | object (members : Members) (name : Option String)

/-- What may come next. -/
inductive Awaiting where
  | value
  | firstItem
  | firstName
  | nextName (members : Members)
  | colon (members : Members) (name : Option String)
  | separator (last : Json)

/-- The state between two tokens. -/
structure Progress where
  frames : List Frame
  awaiting : Awaiting

/-- The value of a token that is a value by itself. -/
def Token.scalar? : Token → Option Json
  | .null => some .null
  | .bool b => some (.bool b)
  | .number written => some (.number written)
  | .string (some content) => some (.string content)
  | .string none => some .halfPair
  | _ => none

/-- A value begins. -/
def Progress.begin (frames : List Frame) (token : Token) : Option Progress :=
  match token with
  | .openArray => some ⟨frames, .firstItem⟩
  | .openObject => some ⟨frames, .firstName⟩
  | token => token.scalar?.map fun value => ⟨frames, .separator value⟩

/-- A member's name is read. -/
def Progress.name (frames : List Frame) (members : Members) (token : Token) : Option Progress :=
  match token with
  | .string name => some ⟨frames, .colon members name⟩
  | _ => none

/-- Takes one more token. -/
def Progress.take (p : Progress) (token : Token) : Option Progress :=
  match p.awaiting with
  | .value => begin p.frames token
  | .firstItem =>
    if token = .closeArray then some ⟨p.frames, .separator (.array [])⟩
    else begin (.array [] :: p.frames) token
  | .firstName =>
    if token = .closeObject then some ⟨p.frames, .separator (.object [])⟩
    else name p.frames (some []) token
  | .nextName members => name p.frames members token
  | .colon members n =>
    if token = .colon then some ⟨.object members n :: p.frames, .value⟩ else none
  | .separator last =>
    match p.frames, token with
    | .array items :: frames, .comma => some ⟨.array (last :: items) :: frames, .value⟩
    | .array items :: frames, .closeArray =>
      some ⟨frames, .separator (.array (last :: items).reverse)⟩
    | .object members n :: frames, .comma => some ⟨frames, .nextName (members.add n last)⟩
    | .object members n :: frames, .closeObject =>
      some ⟨frames, .separator (members.add n last).toJson⟩
    | _, _ => none

/-- The value that a JSON text writes. -/
def ofText? (s : String) : Option Json := do
  let final ← (← tokens? s).foldlM Progress.take ⟨[], .value⟩
  match final with
  | ⟨[], .separator value⟩ => some value
  | _ => none

end Json

end Spreadsheet
