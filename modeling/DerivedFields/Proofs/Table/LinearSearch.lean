import Mathlib.Data.Finset.Card
import DerivedFields.Proofs.Function.Denotation
import DerivedFields.Proofs.Table.Agreement
import DerivedFields.Proofs.Text.Lined

/-!
# Tables as lines to be searched

A table keeps one row for each key, and finds it without looking at the lines again. It answers as if
it looked through the lines of its text behind the header from the first to the last: the row of a key
is the first line with that key, whatever lines with the same key follow, and a line too short to have
a key is passed over. The keys that are kept are distinct, so there are as many rows as keys.
-/

namespace DerivedFields

/-- The cell at a column; columns are counted from one. -/
def cellAt? (row : List String) : ℕ → Option String
  | 0 => none
  | column + 1 => row[column]?

namespace TableConfig

variable {config : TableConfig} {lines : List (List Char)} {text : String}

/-- The lines of a text that are rows: all but the header. -/
def rowLines (config : TableConfig) (text : String) : List (List Char) :=
  (Text.lines text).drop (if config.hasHeader then 1 else 0)

/-- The key of a line, in the form in which keys are compared. -/
def lineKey? (config : TableConfig) (line : List Char) : Option String :=
  (cellAt? (parseCells line) config.keyColumn).map config.normalizeKey

/-- The cells of the first line with a key. -/
def search? (config : TableConfig) (text key : String) : Option (List String) :=
  ((config.rowLines text).find? fun line =>
    decide (config.lineKey? line = some (config.normalizeKey key))).map parseCells

/-- The keys of all lines. -/
def lineKeys (config : TableConfig) (text : String) : List String :=
  (config.rowLines text).filterMap config.lineKey?

/-- A configuration that is read has a column of keys. -/
theorem keyColumn_pos {properties : String} (configured : parse properties = .ok config) :
    1 ≤ config.keyColumn := by
  unfold parse at configured
  dsimp only at configured
  split at configured
  · cases configured
  · split at configured
    · cases configured
    · next column _ =>
      split at configured
      · cases configured
      · next large =>
        cases configured
        change 1 ≤ column.toNat
        omega

end TableConfig

/-! ## Adding rows -/

namespace LookupTable

open TableConfig

variable {config : TableConfig} {rows : List (String × List String)} {key other : String}
  {row : List String}

private theorem addRow_of_present (present : (rows.lookup key).isSome) : addRow rows key row = rows :=
  if_pos present

private theorem addRow_of_absent (absent : rows.lookup key = none) :
    addRow rows key row = rows ++ [(key, row)] := by
  rw [addRow, absent]
  rfl

/-- The first row with a key stays. -/
theorem lookup_addRow (rows : List (String × List String)) (key other : String) (row : List String) :
    (addRow rows key row).lookup other =
      (rows.lookup other).or (if key = other then some row else none) := by
  cases found : rows.lookup key with
  | some old =>
    rw [addRow_of_present (by rw [found]; rfl)]
    by_cases same : key = other
    · rw [← same, found]
      rfl
    · rw [if_neg same, Option.or_none]
  | none =>
    rw [addRow_of_absent found, List.lookup_append, List.lookup_cons, List.lookup_nil]
    by_cases same : key = other
    · rw [if_pos same, beq_iff_eq.mpr same.symm]
    · rw [if_neg same, beq_false_of_ne (Ne.symm same)]

private theorem mem_keys_iff : key ∈ rows.map Prod.fst ↔ (rows.lookup key).isSome = true := by
  rw [List.lookup_isSome_iff, List.mem_map]
  exact exists_congr fun row => and_congr_right fun _ => eq_comm.trans beq_iff_eq.symm

private theorem nodup_addRow (distinct : (rows.map Prod.fst).Nodup) :
    ((addRow rows key row).map Prod.fst).Nodup := by
  cases found : rows.lookup key with
  | some old => rwa [addRow_of_present (by rw [found]; rfl)]
  | none =>
    have absent : key ∉ rows.map Prod.fst := by
      rw [mem_keys_iff, found]
      exact Bool.false_ne_true
    rw [addRow_of_absent found, List.map_append, List.map_singleton, ← List.concat_eq_append]
    exact distinct.concat absent

/-! ## Adding lines -/

section

variable (keyed : 1 ≤ config.keyColumn)

include keyed

private theorem addLines_cons (rows : List (String × List String)) (line : List Char)
    (lines : List (List Char)) :
    addLines config rows (line :: lines) =
      addLines config (match config.lineKey? line with
        | some key => addRow rows key (parseCells line)
        | none => rows) lines := by
  obtain ⟨column, same⟩ := Nat.exists_eq_add_of_le' keyed
  have cell : (parseCells line)[config.keyColumn - 1]? = cellAt? (parseCells line) config.keyColumn := by
    rw [same]
    rfl
  rw [addLines, List.foldl_cons, lineKey?]
  dsimp only
  rw [cell]
  cases cellAt? (parseCells line) config.keyColumn <;> rfl

/-- What is found under a key is the row that was there before, or the first line with the key. -/
theorem lookup_addLines (lines : List (List Char)) (rows : List (String × List String))
    (key : String) :
    (addLines config rows lines).lookup key = (rows.lookup key).or
      ((lines.find? fun line => decide (config.lineKey? line = some key)).map parseCells) := by
  induction lines generalizing rows with
  | nil => exact (Option.or_none).symm
  | cons line lines ih =>
    rw [addLines_cons keyed, ih, List.find?_cons]
    cases found : config.lineKey? line with
    | none => rfl
    | some first =>
      dsimp only
      rw [lookup_addRow, Option.or_assoc]
      by_cases same : first = key
      · rw [if_pos same, same, decide_eq_true rfl]
        rfl
      · rw [if_neg same, decide_eq_false (mt Option.some.inj same)]
        rfl

private theorem nodup_addLines (lines : List (List Char)) (distinct : (rows.map Prod.fst).Nodup) :
    ((addLines config rows lines).map Prod.fst).Nodup := by
  induction lines generalizing rows with
  | nil => exact distinct
  | cons line lines ih =>
    rw [addLines_cons keyed]
    refine ih ?_
    cases config.lineKey? line with
    | none => exact distinct
    | some key => exact nodup_addRow distinct

end

/-! ## The table of a text -/

variable {text : String}

/-- A text with at least one line is a table, made of the lines behind the header. -/
theorem parse_eq (config : TableConfig) (lined : Text.lines text ≠ []) :
    parse config text = .ok ⟨config, addLines config [] (config.rowLines text)⟩ := by
  rw [parse, rowLines]
  cases lines : Text.lines text with
  | nil => exact absurd lines lined
  | cons first rest => cases config.hasHeader <;> rfl

section

variable {table : LookupTable} (keyed : 1 ≤ config.keyColumn)
  (made : table = ⟨config, addLines config [] (config.rowLines text)⟩)

include keyed made

private theorem findRow?_eq_search? (key : String) : table.findRow? key = config.search? text key := by
  rw [findRow?, made]
  exact lookup_addLines keyed _ [] _

private theorem cell?_eq_cellAt? (key : String) (column : ℕ) :
    table.cell? key column = (config.search? text key).bind (cellAt? · column) := by
  rw [← findRow?_eq_search? keyed made]
  change (table.findRow? key).bind _ = _
  congr 1
  funext row
  cases column with
  | zero => rfl
  | succ column => rfl

/-- The keys of the rows are those of the lines. -/
theorem mem_keys_table (key : String) :
    key ∈ table.rows.map Prod.fst ↔ key ∈ config.lineKeys text := by
  rw [mem_keys_iff, made, lookup_addLines keyed, lineKeys, List.mem_filterMap, List.lookup_nil,
    Option.none_or, Option.isSome_map, List.find?_isSome]
  simp only [decide_eq_true_eq]

private theorem size_eq_card : table.size = (config.lineKeys text).toFinset.card := by
  have distinct : (table.rows.map Prod.fst).Nodup := by
    rw [made]
    exact nodup_addLines keyed _ List.nodup_nil
  have same : (table.rows.map Prod.fst).toFinset = (config.lineKeys text).toFinset := by
    ext key
    rw [List.mem_toFinset, List.mem_toFinset, mem_keys_table keyed made]
  rw [← same, List.toFinset_card_of_nodup distinct, List.length_map, size]

end

end LookupTable

/-! ## How many cells a line has -/

private theorem length_addToFirst_le (c : Char) (cells : List (List Char)) :
    (addToFirst c cells).length ≤ max cells.length 1 := by
  cases cells with
  | nil => exact le_rfl
  | cons cell cells => exact le_max_left _ _

/-- A line has at most one cell more than it has characters. -/
theorem length_cellsFrom_le (isOpen : Bool) (line : List Char) :
    (cellsFrom isOpen line).length ≤ line.length + 1 := by
  fun_induction cellsFrom isOpen line
  all_goals grind [length_addToFirst_le]

/-- A column beyond 64 bits is none of a text that is not as long. -/
theorem cellAt?_saturated {config : TableConfig} {text key : String} {row : List String} {column : ℤ}
    (found : config.search? text key = some row)
    (reachable : column ≤ 0x7fffffffffffffff ∨ text.length + 1 < 0x7fffffffffffffff) :
    cellAt? row (saturated column).toNat = cellAt? row column.toNat := by
  obtain ⟨line, first, rfl⟩ := Option.map_eq_some_iff.mp found
  have inside : line ∈ Text.lines text :=
    (List.drop_sublist _ _).subset (List.mem_of_find?_eq_some first)
  have short : (parseCells line).length ≤ text.length + 1 := by
    rw [parseCells, List.length_map]
    exact (length_cellsFrom_le false line).trans
      (Nat.succ_le_succ (Text.length_le_of_mem_lines inside))
  rw [saturated]
  rcases le_or_gt column 0x7fffffffffffffff with fits | beyond
  · congr 1
    omega
  · have small := reachable.resolve_left (not_le.mpr beyond)
    have outside (place : ℕ) (large : text.length + 1 < place) :
        cellAt? (parseCells line) place = none := by
      cases place with
      | zero => rfl
      | succ place => exact List.getElem?_eq_none (by omega)
    rw [outside _ (by omega), outside _ (by omega)]

/-! ## Looking up -/

section

variable {source : TableSource} {tables : TableCache} {arguments : Arguments}
  {name key properties text : String} {default : Option String} {config : TableConfig}
  {table : LookupTable} {column : ℤ}

private theorem TableSource.load_eq_ok (configured : TableConfig.parse properties = .ok config)
    (made : LookupTable.parse config text = .ok table) (settings : source.config name = .text properties)
    (rows : source.rows name = .text text) : source.load name = .ok table := by
  rw [load, settings, rows]
  simp only [Resource.read]
  change (TableConfig.parse properties).mapError _ >>= _ = _
  rw [configured]
  change (LookupTable.parse config text).mapError _ = _
  rw [made]
  rfl

/-- A lookup in a table that is there is the cell, or else the default. -/
theorem lookup_fst (denote : arguments.Denote
      ([.text key, .text name, .integer column] ++ default.toList.map .text))
    (given : (tables.get name).1 = .ok table) :
    (lookup arguments tables).1 =
      .ok (.string ((table.cell? key (saturated column).toNat).getD (default.getD ""))) := by
  have otherwise : (arguments.optionalString 3).getD "" = default.getD "" := by
    cases default with
    | none => rw [denote.optionalString_none 3 rfl]
    | some default => rw [denote.optionalString_eq 3 rfl]
  rw [lookup, denote.string_eq 0 rfl, denote.string_eq 1 rfl, denote.index_eq 2 rfl]
  dsimp only
  rw [otherwise]
  split
  · next early =>
    have zero : (saturated column).toNat = 0 := by omega
    rw [zero, LookupTable.cell?]
    cases table.findRow? key <;> rfl
  · rcases got : tables.get name with ⟨answer, after⟩
    rw [got] at given
    obtain rfl : answer = .ok table := given
    rfl

/-- A table that is read from the texts of a configuration and of its rows answers like a search
through the lines of the rows, and has as many rows as there are keys in them. The function that
looks up in it gives the cell of the first line with the key, and the default for a column or a key
that is not there; a default that is not given is empty. -/
theorem LookupTable.parse_searched (configured : TableConfig.parse properties = .ok config)
    (lined : Text.lines text ≠ []) :
    ∃ table, parse config text = .ok table ∧
      (∀ key, table.findRow? key = config.search? text key) ∧
      (∀ key column, table.cell? key column = (config.search? text key).bind (cellAt? · column)) ∧
      table.size = (config.lineKeys text).toFinset.card ∧
      ∃ function, Registry.builtin.get? "Lookup" = some function ∧
        ∀ (source : TableSource) (tables : TableCache) (name key : String) (column : ℤ)
          (default : Option String) (values : List Value) (scope : Scope),
          source.config name = .text properties → source.rows name = .text text →
          tables.Serves source →
          column ≤ 0x7fffffffffffffff ∨ text.length + 1 < 0x7fffffffffffffff →
          List.Forall₂ Value.Denotes values
            ([.text key, .text name, .integer column] ++ default.toList.map .text) →
          (function.call scope values tables).1 = .ok (.string
            (((config.search? text key).bind (cellAt? · column.toNat)).getD (default.getD ""))) := by
  have keyed := TableConfig.keyColumn_pos configured
  have made := parse_eq config lined
  refine ⟨_, made, findRow?_eq_search? keyed rfl, cell?_eq_cellAt? keyed rfl, size_eq_card keyed rfl,
    ⟨"Lookup", .range 3 4, .lookup, .ofTables lookup⟩, rfl, ?_⟩
  intro source tables name key column default values scope settings rows serves reachable denote
  have accepts : (Arity.range 3 4).accepts values.length = true := by
    rw [denote.length_eq]
    cases default <;> rfl
  have given := (serves.get_fst name).trans (TableSource.load_eq_ok configured made settings rows)
  have answer := lookup_fst (show Arguments.Denote ⟨"Lookup", values⟩ _ from denote) given
  rw [Function.call, if_pos accepts]
  refine answer.trans ?_
  rw [cell?_eq_cellAt? keyed rfl]
  cases found : config.search? text key with
  | none => rfl
  | some row =>
    change Except.ok (Value.string ((cellAt? row (saturated column).toNat).getD _)) = _
    rw [cellAt?_saturated found reachable]
    rfl

/-- Two lines with the same key in other letters, one without a key, and one whose key has a quote. -/
theorem LookupTable.parse_searched_folded :
    let properties := "primaryKeyColumnIndex: 2\ncaseSensitive=no"
    let text := "id,name\n1\n7, Pen \n8,PEN\n9,\"In\"\"k\""
    let config : TableConfig := ⟨2, true, true, false⟩
    let source := TableSource.ofList [("goods", properties, text)]
    (TableConfig.parse properties = .ok config ∧ Text.lines text ≠ [] ∧
        source.config "goods" = .text properties ∧ source.rows "goods" = .text text ∧
        (TableCache.ofSource source).Serves source) ∧
      ∃ table, parse config text = .ok table ∧ table.findRow? "pen" = some ["7", " Pen "] ∧
        table.cell? "PEN " 1 = some "7" ∧ table.cell? "pen" 0 = none ∧ table.size = 2 ∧
        ∃ function, Registry.builtin.get? "Lookup" = some function ∧ ∀ scope,
          (function.call scope [.string "pen", .string "goods", .numeric (.ofInt 3), .boolean false]
            (.ofSource source)).1 = .ok (.string "false") := by
  intro properties text config source
  have configured : TableConfig.parse properties = .ok config := by decide +kernel
  have lined : Text.lines text ≠ [] := by decide +kernel
  have serves := TableCache.serves_ofSource source
  have pen : config.search? text "pen" = some ["7", " Pen "] := by decide +kernel
  have other : config.search? text "PEN " = some ["7", " Pen "] := by decide +kernel
  have keys : config.lineKeys text = ["pen", "pen", "in\"k"] := by decide +kernel
  obtain ⟨table, made, rows, cells, size, function, found, called⟩ := parse_searched configured lined
  refine ⟨⟨configured, lined, rfl, rfl, serves⟩, table, made, ?_, ?_, ?_, ?_, function, found, ?_⟩
  · rw [rows, pen]
  · rw [cells, other]
    rfl
  · rw [cells, pen]
    rfl
  · rw [size, keys]
    rfl
  · intro scope
    have denote : List.Forall₂ Value.Denotes
        [.string "pen", .string "goods", .numeric (.ofInt 3), .boolean false]
        ([.text "pen", .text "goods", .integer 3] ++ (some "false").toList.map .text) :=
      .cons rfl (.cons rfl (.cons (Value.denotes_integer (by decide)) (.cons rfl .nil)))
    have answer := called source _ "goods" "pen" 3 (some "false") _ scope rfl rfl serves
      (.inl (by decide)) denote
    rw [pen] at answer
    exact answer

end

end DerivedFields
