import DerivedFields.Table.Config

/-!
# Lookup tables

A line holds cells separated by commas. Between double quotes a comma is part of the cell, and two
double quotes are one. A table keeps its rows by their keys. The first row with a key counts, and a
row that is too short to have a key does not.
-/

namespace DerivedFields

/-- Puts a character in front of the first cell. -/
def addToFirst (c : Char) : List (List Char) → List (List Char)
  | [] => [[c]]
  | cell :: cells => (c :: cell) :: cells

/-- The cells of the rest of a line; the truth value tells that a quote is open. -/
def cellsFrom : Bool → List Char → List (List Char)
  | _, [] => [[]]
  | true, '"' :: '"' :: rest => addToFirst '"' (cellsFrom true rest)
  | true, '"' :: rest => cellsFrom false rest
  | true, c :: rest => addToFirst c (cellsFrom true rest)
  | false, '"' :: rest => cellsFrom true rest
  | false, ',' :: rest => [] :: cellsFrom false rest
  | false, c :: rest => addToFirst c (cellsFrom false rest)

/-- The cells of a line. -/
def parseCells (line : List Char) : List String := (cellsFrom false line).map String.ofList

/-- A table with its rows by normalized key, each key once. -/
structure LookupTable where
  config : TableConfig
  rows : List (String × List String)
  deriving DecidableEq

namespace LookupTable

/-- Rows with one added under a key that is not there yet. -/
def addRow (rows : List (String × List String)) (key : String) (row : List String) :
    List (String × List String) :=
  if (rows.lookup key).isSome then rows else rows ++ [(key, row)]

/-- Rows with those of further lines added. -/
def addLines (config : TableConfig) (rows : List (String × List String))
    (lines : List (List Char)) : List (String × List String) :=
  lines.foldl (fun rows line =>
    let row := parseCells line
    match row[config.keyColumn - 1]? with
    | some key => addRow rows (config.normalizeKey key) row
    | none => rows) rows

/-- Reads the rows of a table. A table without a single line is no table. -/
def parse (config : TableConfig) (text : String) : Except TableFault LookupTable :=
  match Text.lines text with
  | [] => .error .noRows
  | first :: rest => .ok ⟨config, addLines config [] (if config.hasHeader then rest else first :: rest)⟩

/-- The number of distinct keys. -/
def size (table : LookupTable) : Nat := table.rows.length

/-- The row whose key is `key` in normalized form. -/
def findRow? (table : LookupTable) (key : String) : Option (List String) :=
  table.rows.lookup (table.config.normalizeKey key)

/-- A cell by key and column, columns being counted from one. -/
def cell? (table : LookupTable) (key : String) (column : Nat) : Option String := do
  let row ← table.findRow? key
  if column = 0 then none else row[column - 1]?

end LookupTable

end DerivedFields
