import Spreadsheet.Grid.Address
import Spreadsheet.Text.Blank
import Spreadsheet.Text.Utf8

/-!
# Reading comma-separated values

Records end with a line feed, a carriage return or both; fields are separated by commas. A field
that starts with a quote runs to the next single quote, a doubled quote standing for one, and what
follows the closing quote still belongs to the field. Empty lines are no records, an open quote
runs to the end, and a byte-order mark in front is dropped.

A record lies in the row of the line that its first byte is on, lines being counted by line feeds
alone, also by those within quotes. Behind a byte-order mark the first record lies in row one.
-/

namespace Spreadsheet

namespace Csv

/-- A record: its row, and the line and byte at which the search for it began. -/
structure Record where
  row : Nat
  line : Nat
  byte : Nat
  fields : List (List UInt8)
deriving DecidableEq

/-- Where the next byte falls. -/
inductive Place where
  | betweenRecords
  | fieldStart
  | plain
  | quoted
  /-- Behind a quote within quotes: the closing one, or the first of two. -/
  | afterQuote
deriving DecidableEq

/-- A text read up to some byte; lists hold the latest element first. -/
structure Scan where
  records : List Record
  fields : List (List UInt8)
  field : List UInt8
  place : Place
  /-- The row of the record under way. -/
  row : Nat
  /-- Line and byte at which the search for the record under way began. -/
  line : Nat
  byte : Nat
  /-- Bytes and line feeds read so far. -/
  offset : Nat
  lineFeeds : Nat
  /-- Only a byte-order mark and line breaks were read so far. -/
  marked : Bool

/-- The comma between fields. -/
def comma : UInt8 := 44

/-- The quote around fields. -/
def quote : UInt8 := 34

/-- The carriage return. -/
def carriageReturn : UInt8 := 13

/-- The line feed. -/
def lineFeed : UInt8 := 10

/-- A byte that ends a line. -/
def isLineBreak (b : UInt8) : Bool :=
  b == lineFeed || b == carriageReturn

/-- The bytes of a byte-order mark. -/
def byteOrderMark : List UInt8 := [0xEF, 0xBB, 0xBF]

namespace Scan

/-- Before the first byte. -/
def start (marked : Bool) : Scan where
  records := []
  fields := []
  field := []
  place := .betweenRecords
  row := 1
  line := 1
  byte := 0
  offset := if marked then byteOrderMark.length else 0
  lineFeeds := 0
  marked := marked

/-- Counts a byte as read. -/
def count (s : Scan) (b : UInt8) : Scan :=
  { s with
    offset := s.offset + 1
    lineFeeds := if b = lineFeed then s.lineFeeds + 1 else s.lineFeeds }

/-- Adds a byte to the field under way. -/
def add (s : Scan) (b : UInt8) (place : Place) : Scan :=
  { s with field := b :: s.field, place }

/-- Ends the field under way. -/
def endField (s : Scan) : Scan :=
  { s with fields := s.field.reverse :: s.fields, field := [], place := .fieldStart }

/-- Ends the record under way, with its last field. -/
def endRecord (s : Scan) : Scan :=
  let fields := (s.field.reverse :: s.fields).reverse
  { s with
    records := ⟨s.row, s.line, s.byte, fields⟩ :: s.records
    fields := []
    field := []
    place := .betweenRecords
    line := s.lineFeeds + 1
    byte := s.offset }

/-- A byte where a field starts. -/
def stepFieldStart (s : Scan) (b : UInt8) : Scan :=
  if b = quote then { s with place := .quoted }
  else if b = comma then s.endField
  else if isLineBreak b then s.endRecord
  else s.add b .plain

/-- Takes one more byte, which is already counted. -/
def stepCounted (s : Scan) (b : UInt8) : Scan :=
  match s.place with
  | .betweenRecords =>
    if isLineBreak b then s
    else
      let row := if s.marked then 1 else s.lineFeeds + 1
      { s with row, marked := false }.stepFieldStart b
  | .fieldStart => s.stepFieldStart b
  | .plain =>
    if b = comma then s.endField
    else if isLineBreak b then s.endRecord
    else s.add b .plain
  | .quoted =>
    if b = quote then { s with place := .afterQuote }
    else s.add b .quoted
  | .afterQuote =>
    if b = quote then s.add b .quoted
    else if b = comma then s.endField
    else if isLineBreak b then s.endRecord
    else s.add b .plain

/-- Takes one more byte. -/
def step (s : Scan) (b : UInt8) : Scan :=
  (s.count b).stepCounted b

/-- The records after the last byte. -/
def finish (s : Scan) : List Record :=
  if s.place = .betweenRecords then s.records.reverse else s.endRecord.records.reverse

end Scan

/-- The records of the bytes. -/
def records (bytes : List UInt8) : List Record :=
  if byteOrderMark.isPrefixOf bytes then
    ((bytes.drop byteOrderMark.length).foldl Scan.step (.start true)).finish
  else (bytes.foldl Scan.step (.start false)).finish

/-! ### Cells -/

/-- A field that is no text: its number and the number of well-formed bytes in it, and the record
with its number, line and byte. -/
structure Error where
  record : Nat
  line : Nat
  byte : Nat
  field : Nat
  index : Nat
deriving DecidableEq

/-- The wording of a bad field. -/
def Error.message (e : Error) : String :=
  s!"CSV parse error: record {e.record} (line {e.line}, field: {e.field}, byte: {e.byte}): " ++
    s!"invalid utf-8: invalid UTF-8 in field {e.field} near byte index {e.index}"

/-- The texts of a record's fields, or the first field that is no text. -/
def texts (number : Nat) (r : Record) : Except Error (List String) :=
  r.fields.zipIdx.mapM fun (field, i) =>
    (Text.Utf8.decode field).mapError fun index => ⟨number, r.line, r.byte, i, index⟩

/-- The cells of a row: trimmed texts that are not empty, in the columns of their fields. -/
def rowCells (row : Nat) (fields : List String) : List (Address × String) :=
  fields.zipIdx.filterMap fun (field, i) =>
    let value := Text.trim field
    if value = "" then none
    else (Address.ofNumbers? (i + 1) row).map fun a => (a, value)

/-- The cells that the bytes give, in the order of the bytes. -/
def read (bytes : List UInt8) : Except Error (List (Address × String)) := do
  let rows ← (records bytes).zipIdx.mapM fun (r, number) =>
    return rowCells r.row (← texts number r)
  return rows.flatten

end Csv

end Spreadsheet
