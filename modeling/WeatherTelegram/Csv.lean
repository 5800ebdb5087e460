import WeatherTelegram.Text.Digit

/-!
# `Csv` — tables as text

Commas part the fields of a record, and a line feed, a carriage return or both end it. A field that
starts with a double quote runs to the next one that stands alone, over commas and ends of lines; two
quotes in it stand for one. A blank line is a record without fields.

## Contents
- `CsvMode`, `CsvState`: where the reading of a table stands, and what it has read.
- `CsvState.step`: the next character.
- `CsvTable`, `csvTable`: the records of a whole table.
- `completeLines`: a text up to its last end of line.
-/

namespace WeatherTelegram

/-- Where the reading of a table stands. -/
inductive CsvMode where
  /-- At the start of a record. -/
  | record
  /-- After a carriage return, which a line feed may belong to. -/
  | afterReturn
  /-- At the start of a field. -/
  | field
  /-- In a field that does not start with a quote, or after the closing quote of one that does. -/
  | plain
  /-- Between the quotes of a field. -/
  | quoted
  /-- After a quote between the quotes of a field. -/
  | quote
deriving DecidableEq, Inhabited, Repr

/-- The state of reading: the field so far, last character first, with its length, the fields of the
    record so far and the records so far, each last first. -/
structure CsvState where
  mode : CsvMode
  field : Text
  size : Nat
  fields : List Text
  records : List (List Text)
deriving DecidableEq, Inhabited

/-- The most characters of a field. -/
def fieldLimit : Nat := 131072

/-- A field has more characters than the limit. -/
structure FieldTooLong where
deriving DecidableEq, Inhabited

/-- The message of a field that is too long. -/
def FieldTooLong.message (_ : FieldTooLong) : Text :=
  Text.ofString "field larger than field limit (" ++ Text.ofNat fieldLimit ++ [')']

namespace CsvState

/-- Nothing read. -/
def start : CsvState := ⟨.record, [], 0, [], []⟩

/-- Puts a character into the field. -/
def add (s : CsvState) (mode : CsvMode) (c : Char) : Except FieldTooLong CsvState :=
  if fieldLimit ≤ s.size then .error ⟨⟩
  else .ok { s with mode := mode, field := c :: s.field, size := s.size + 1 }

/-- Ends the field. -/
def endField (s : CsvState) (mode : CsvMode) : CsvState :=
  { s with mode := mode, field := [], size := 0, fields := s.field.reverse :: s.fields }

/-- Ends the record after its last field. -/
def endRecord (s : CsvState) (mode : CsvMode) : CsvState :=
  { s with mode := mode, fields := [], records := s.fields.reverse :: s.records }

/-- The mode after the character that ends a line. -/
def lineMode (c : Char) : CsvMode := if c = '\r' then .afterReturn else .record

/-- Whether a character ends a line. -/
def isLineEnd (c : Char) : Bool := c == '\n' || c == '\r'

/-- A character in a field that a comma or the end of its line ends. -/
def plainStep (s : CsvState) (c : Char) : Except FieldTooLong CsvState :=
  if isLineEnd c then .ok ((s.endField .record).endRecord (lineMode c))
  else if c = ',' then .ok (s.endField .field)
  else s.add .plain c

/-- A character at the start of a field. -/
def fieldStep (s : CsvState) (c : Char) : Except FieldTooLong CsvState :=
  if c = '"' then .ok { s with mode := .quoted } else s.plainStep c

/-- A character at the start of a record. -/
def recordStep (s : CsvState) (c : Char) : Except FieldTooLong CsvState :=
  if isLineEnd c then .ok (s.endRecord (lineMode c)) else s.fieldStep c

/-- The next character. -/
def step (s : CsvState) (c : Char) : Except FieldTooLong CsvState :=
  match s.mode with
  | .record => s.recordStep c
  | .afterReturn => if c = '\n' then .ok { s with mode := .record } else s.recordStep c
  | .field => s.fieldStep c
  | .plain => s.plainStep c
  | .quoted => if c = '"' then .ok { s with mode := .quote } else s.add .quoted c
  | .quote => if c = '"' then s.add .quoted c else s.plainStep c

/-- The state at the end of a table: a record that is open ends with it. -/
def finish (s : CsvState) : CsvState :=
  match s.mode with
  | .record | .afterReturn => s
  | _ => (s.endField .record).endRecord .record

end CsvState

/-- The records of a table as far as it could be read, and whether a field was too long to go on. -/
structure CsvTable where
  records : List (List Text)
  fault : Option FieldTooLong
deriving DecidableEq, Inhabited

/-- The table that a state and the rest of the text come to; without an `ending`, a record that is open
    at the end is left out. -/
def csvFrom (ending : Bool) (s : CsvState) : Text → CsvTable
  | [] => ⟨(if ending then s.finish else s).records.reverse, none⟩
  | c :: rest =>
    match s.step c with
    | .ok s => csvFrom ending s rest
    | .error fault => ⟨s.records.reverse, some fault⟩

/-- The records of a whole table. -/
def csvTable (t : Text) : CsvTable := csvFrom true .start t

/-- A text up to its last end of line; a carriage return at its very end may yet be half of one and
    does not count. -/
def completeLines (t : Text) : Text :=
  match t.reverse with
  | '\r' :: rest => (rest.dropWhile (!CsvState.isLineEnd ·)).reverse
  | rest => (rest.dropWhile (!CsvState.isLineEnd ·)).reverse

/-- The records of a table of which only the front could be read: those that end in a complete line. -/
def csvFront (t : Text) : CsvTable := csvFrom false .start (completeLines t)

end WeatherTelegram
