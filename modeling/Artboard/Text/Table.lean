import Artboard.Text.Blank
import Artboard.Text.Hex
import Artboard.Text.Search

/-!
# Tables of characters

A table says something of some characters by their codes.  Its rows are runs of
codes in ascending order that do not overlap, and it is written as a text of
words: `600-605` is a run, `100-12E/2` every second code of one, and behind a
colon stand the codes that a row assigns, with plus signs between them.  All
numbers are hexadecimal.
-/

namespace Artboard
namespace Text

/-- A row of a table: every `step`-th code from `first` to `last`, and the codes
that it assigns. -/
structure TableRow where
  first : Nat
  last : Nat
  step : Nat
  values : List Nat
  deriving DecidableEq, Repr

namespace TableRow

/-- Whether a code belongs to a row. -/
def holds (row : TableRow) (code : Nat) : Bool :=
  row.first ≤ code && code ≤ row.last && (code - row.first) % row.step == 0

/-- What a row assigns to a code when its first value follows the code. -/
def valuesAt (row : TableRow) (code : Nat) : List Nat :=
  match row.values with
  | [] => []
  | value :: others => (value + (code - row.first)) :: others

/-- Read a row. -/
def ofWord (word : List Char) : TableRow :=
  let (run, values) := cut ':' word
  let (codes, step) := cut '/' run
  let (first, last) := cut '-' codes
  { first := hexNumber first
    last := hexNumber (last.getD first)
    step := hexNumber (step.getD ['1'])
    values := (values.map fun text => (splitAt '+' text).map hexNumber).getD [] }

end TableRow

/-- A table of characters. -/
structure Table where
  rows : Array TableRow

namespace Table

def ofText (text : String) : Table :=
  ⟨((words text.toList).map TableRow.ofWord).toArray⟩

/-- The place of the first row, from `low` on and before `high`, that does not
end before a code; `high` if there is none. -/
def placeOf (table : Table) (code low high : Nat) : Nat :=
  if low < high then
    let middle := low + (high - low) / 2
    if (table.rows[middle]?).any (·.last < code) then table.placeOf code (middle + 1) high
    else table.placeOf code low middle
  else low
termination_by high - low

/-- The row that a code belongs to. -/
def find? (table : Table) (code : Nat) : Option TableRow :=
  (table.rows[table.placeOf code 0 table.rows.size]?).filter (·.holds code)

/-- Whether a table says something of a character. -/
def contains (table : Table) (c : Char) : Bool :=
  (table.find? c.toNat).isSome

end Table

end Text
end Artboard
