import LintServer.Text.Lines

/-!
# Tables of code points

What is known of characters stands in tables whose rows are ranges of code points in increasing
order. A long table is written as a text of words, one for each row: the first code point in base
sixteen, the last one behind `-` unless it is the same, and behind `>` the numbers that the table
has for the row, with `.` between them. With `=` in place of `-` only every second code point of
the range belongs to the row.
-/

namespace LintServer.Unicode

/-! ## Search -/

/-- The row whose range holds `n`, by halving the rows from `low` up to `high`. -/
def searchRows {α : Type} (bounds : α → Nat × Nat) (rows : Array α) (n : Nat) :
    (steps low high : Nat) → Option α
  | 0, _, _ => none
  | steps + 1, low, high =>
    if high ≤ low then none
    else
      let middle := (low + high) / 2
      match rows[middle]? with
      | none => none
      | some row =>
        if n < (bounds row).1 then searchRows bounds rows n steps low middle
        else if (bounds row).2 < n then searchRows bounds rows n steps (middle + 1) high
        else some row

/-- The row whose range holds `n`. -/
def findRow {α : Type} (bounds : α → Nat × Nat) (rows : Array α) (n : Nat) : Option α :=
  searchRows bounds rows n 32 0 rows.size

/-! ## Tables as text -/

structure Row where
  first : Nat
  last : Nat
  step : Nat := 1
  values : List Nat := []
  deriving Repr, DecidableEq

abbrev Table := Array Row

namespace Table

/-- The number with these digits in base sixteen; those above nine are capitals. -/
def hexNumber (digits : List Char) : Nat :=
  digits.foldl (fun n c =>
    16 * n + (if c.isDigit then c.toNat - '0'.toNat else c.toNat - 'A'.toNat + 10)) 0

def rowOf (word : List Char) : Row :=
  let range := word.takeWhile (· != '>')
  let values := (Text.pieces '.' (word.drop (range.length + 1))).filter (!·.isEmpty)
  let first := range.takeWhile fun c => c != '-' && c != '='
  let last := range.drop (first.length + 1)
  { first := hexNumber first
    last := hexNumber (if last.isEmpty then first else last)
    step := if range.contains '=' then 2 else 1
    values := values.map hexNumber }

def ofText (text : String) : Table :=
  let line := text.toList.map fun c => if c = '\n' then ' ' else c
  (((Text.pieces ' ' line).filter (!·.isEmpty)).map rowOf).toArray

/-- The row of a character. -/
def find? (table : Table) (c : Char) : Option Row :=
  (findRow (fun row => (row.first, row.last)) table c.toNat).filter fun row =>
    (c.toNat - row.first) % row.step == 0

def contains (table : Table) (c : Char) : Bool := (table.find? c).isSome

end Table

end LintServer.Unicode
