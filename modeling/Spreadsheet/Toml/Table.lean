import Spreadsheet.Toml.Basic

/-!
# Building tables from statements

A table is opened once by its header, or grows from dotted keys. Headers may open tables below
tables of either kind, and below the latest table of an array of tables. Dotted keys extend only
tables that no header opened, and a key is given once.
-/

namespace Spreadsheet

namespace Toml

/-- A part of a document under construction. -/
inductive Part where
  | value (v : Toml)
  /-- A table; `opened` by a header, or grown from `dotted` keys. -/
  | table (opened dotted : Bool) (parts : List (String × Part))
  /-- An array of tables, latest first. -/
  | tables (parts : List (List (String × Part)))

/-- The parts of a table by name. -/
abbrev Parts := List (String × Part)

/-- The parts with one of them replaced or added. -/
def Parts.set (parts : Parts) (name : String) (part : Part) : Parts :=
  if parts.any fun p => p.1 == name then
    parts.map fun p => if p.1 == name then (name, part) else p
  else parts ++ [(name, part)]

/-- Changes the table below `parts` that a path leads to. Missing tables on the way are added. The
change is told whether its table grew from dotted keys. -/
def Parts.descend (viaDots : Bool) (change : Bool → Parts → Option Parts) :
    List String → Bool → Parts → Option Parts
  | [], grown, parts => change grown parts
  | name :: path, _, parts =>
    match parts.lookup name with
    | none => do
      let inner ← descend viaDots change path viaDots []
      return parts.set name (.table false viaDots inner)
    | some (.table opened dotted inner) =>
      if viaDots && opened then none
      else do
        let inner ← descend viaDots change path dotted inner
        return parts.set name (.table opened dotted inner)
    | some (.tables (latest :: earlier)) => do
      let latest ← descend viaDots change path false latest
      return parts.set name (.tables (latest :: earlier))
    | some _ => none

/-- Adds a value under a dotted key. -/
def Parts.insert (path : List String) (v : Toml) (parts : Parts) (grown : Bool) : Option Parts :=
  match path.getLast? with
  | none => none
  | some name =>
    let above := path.dropLast
    let add (dotted : Bool) (parts : Parts) : Option Parts :=
      if dotted = above.isEmpty ∨ (parts.lookup name).isSome then none
      else some (parts ++ [(name, .value v)])
    parts.descend true add above grown

/-- Opens a table by its header. -/
def Parts.openTable (path : List String) (parts : Parts) : Option Parts :=
  match path.getLast? with
  | none => none
  | some name =>
    let opening (_ : Bool) (parts : Parts) : Option Parts :=
      match parts.lookup name with
      | none => some (parts ++ [(name, .table true false [])])
      | some (.table false false inner) => some (parts.set name (.table true false inner))
      | some _ => none
    parts.descend false opening path.dropLast false

/-- Opens the next table of an array of tables by its header. -/
def Parts.openNext (path : List String) (parts : Parts) : Option Parts :=
  match path.getLast? with
  | none => none
  | some name =>
    let opening (_ : Bool) (parts : Parts) : Option Parts :=
      match parts.lookup name with
      | none => some (parts ++ [(name, .tables [[]])])
      | some (.tables earlier) => some (parts.set name (.tables ([] :: earlier)))
      | some _ => none
    parts.descend false opening path.dropLast false

mutual

/-- The value of a part. -/
def Part.toToml : Part → Toml
  | .value v => v
  | .table _ _ parts => .table (partsToToml parts)
  | .tables parts => .array (tablesToToml parts).reverse

/-- The entries of a table. -/
def partsToToml : List (String × Part) → List (String × Toml)
  | [] => []
  | (name, part) :: parts => (name, part.toToml) :: partsToToml parts

/-- The tables of an array of tables. -/
def tablesToToml : List (List (String × Part)) → List Toml
  | [] => []
  | parts :: others => .table (partsToToml parts) :: tablesToToml others

end

/-! ### Statements -/

/-- A line of a document. -/
inductive Statement where
  | header (path : List String)
  | arrayHeader (path : List String)
  | entry (path : List String) (v : Toml)

/-- A document under construction: its parts, and the path of the table that entries go to. -/
structure Draft where
  parts : Parts
  current : List String

/-- Takes one more statement. -/
def Draft.take (d : Draft) : Statement → Option Draft
  | .header path => (d.parts.openTable path).map fun parts => ⟨parts, path⟩
  | .arrayHeader path => (d.parts.openNext path).map fun parts => ⟨parts, path⟩
  | .entry path v =>
    let add (grown : Bool) (parts : Parts) : Option Parts := parts.insert path v grown
    (d.parts.descend false add d.current false).map fun parts => { d with parts }

/-- The entries that the statements of a document give. -/
def ofStatements? (statements : List Statement) : Option (List (String × Toml)) := do
  let draft ← statements.foldlM Draft.take ⟨[], []⟩
  return partsToToml draft.parts

/-- The entries of an inline table, which may have dotted keys. -/
def ofEntries? (entries : List (List String × Toml)) : Option (List (String × Toml)) := do
  let parts ← entries.foldlM (fun parts (path, v) => Parts.insert path v parts false) []
  return partsToToml parts

end Toml

end Spreadsheet
