import DerivedFields.Proofs.Document.Order
import DerivedFields.Proofs.Evaluation.Isolation
import DerivedFields.Proofs.Pipeline.Effect
import DerivedFields.Proofs.Results

/-!
# Neighbouring instructions

A script sees of its node only the text at its own target, and a write leaves the text at every
place apart from its own. So two neighbouring instructions with targets apart from each other leave the
same texts in either order, and the instructions behind them do as well. Only the members of a JSON
object on the way to both targets may stand in another order, which an instruction sees if it reads such
an object as its own target.
-/

namespace DerivedFields

namespace Document

/-- Text is written to a path that can be parsed as a target. -/
theorem toOption_written (document : Document) (path text : String) :
    (document.written path text).toOption =
      (Path.parseTarget path).toOption.bind fun target => document.write? target text := by
  simp only [written, set]
  cases Path.parseTarget path with
  | error fault => rfl
  | ok target =>
    simp only [Except.toOption, Option.bind_some, write?]
    rcases document.write target text with ⟨written, _ | fault⟩ <;> rfl

end Document

namespace Instruction

/-- Whether the script of an instruction names the place that it is written to. -/
def ReadsTarget (instruction : Instruction) : Prop :=
  Text.allBlank instruction.script.toList = false ∧
    ∃ expr, Script.parse (Script.decodeEntities instruction.script) = .ok expr ∧
      expr.Reads (Path.parse instruction.path)

variable {evaluator : Evaluator} {source : TableSource} {output first second : Document}

/-- Documents with the same text at the target give an instruction the same text to write. -/
theorem text_congr (regular : evaluator.registry.Regular) {instruction : Instruction}
    (seen : instruction.ReadsTarget →
      first.resolve (Path.parse instruction.path) evaluator.settings.lenientAttributes =
        second.resolve (Path.parse instruction.path) evaluator.settings.lenientAttributes) :
    instruction.text evaluator source output first =
      instruction.text evaluator source output second := by
  unfold text
  split
  · rfl
  · rename_i script
    cases parsed : Script.parse (Script.decodeEntities instruction.script) with
    | error error => rfl
    | ok expr =>
      have same : evaluate evaluator.registry
            ⟨evaluator.settings, output, first, some (Path.parse instruction.path)⟩ expr =
          evaluate evaluator.registry
            ⟨evaluator.settings, output, second, some (Path.parse instruction.path)⟩ expr := by
        refine evaluate_intermediate regular ?_
        rintro _ ⟨⟩ reads
        exact seen ⟨Bool.eq_false_iff.mpr script, expr, parsed, reads⟩
      simp only [Except.mapError, bind, Except.bind, Evaluator.value, same]

/-- The text that an instruction writes, if it comes to that. -/
def text? (evaluator : Evaluator) (source : TableSource) (output document : Document)
    (instruction : Instruction) : Option String :=
  (instruction.text evaluator source output document).toOption.map Prod.fst

/-- The document that an instruction leaves, if it does not fail. -/
def result? (evaluator : Evaluator) (source : TableSource) (output document : Document)
    (instruction : Instruction) : Option Document :=
  (instruction.effect evaluator source output document).toOption.map Prod.fst

/-- An instruction writes its text to its target, if it can be written to. -/
theorem result?_eq (instruction : Instruction) (document : Document) :
    instruction.result? evaluator source output document =
      (instruction.text? evaluator source output document).bind fun text =>
        (Path.parseTarget instruction.path).toOption.bind fun target =>
          document.write? target text := by
  simp only [result?, effect, text?]
  cases instruction.text evaluator source output document with
  | error failure => rfl
  | ok pair =>
    obtain ⟨text, recovered⟩ := pair
    have wrote := document.toOption_written instruction.path text
    simp only [bind, Except.bind]
    cases written : document.written instruction.path text with
    | error error =>
      rw [written] at wrote
      exact wrote
    | ok after =>
      rw [written] at wrote
      exact wrote

/-- An instruction leaves the ways in a document as they are. -/
theorem names_of_result? {instruction : Instruction} {document written : Document}
    (success : instruction.result? evaluator source output document = some written) :
    written.names = document.names ∧ written.format = document.format := by
  rw [result?_eq] at success
  obtain ⟨text, -, success⟩ := Option.bind_eq_some_iff.mp success
  obtain ⟨target, -, success⟩ := Option.bind_eq_some_iff.mp success
  exact Document.names_of_write? success

variable {shared : List String} {a b instruction : Instruction} {p q : Path} {document : Document}

/-- Behind an instruction one with a target apart from its own writes the text that it would write
before it. -/
theorem result?_bind_result? (regular : evaluator.registry.Regular)
    (onFirst : Path.parseTarget a.path = .ok p) (onSecond : Path.parseTarget b.path = .ok q)
    (apart : Apart (document.names p) (document.names q)) :
    (a.result? evaluator source output document).bind (b.result? evaluator source output ·) =
      (a.text? evaluator source output document).bind fun text =>
        (b.text? evaluator source output document).bind fun other =>
          (document.write? p text).bind (·.write? q other) := by
  have onwards (text : String) :
      (document.write? p text).bind (b.result? evaluator source output ·) =
        (b.text? evaluator source output document).bind fun other =>
          (document.write? p text).bind (·.write? q other) := by
    cases wrote : document.write? p text with
    | none => cases b.text? evaluator source output document <;> rfl
    | some written =>
      have unseen : b.text? evaluator source output written =
          b.text? evaluator source output document := by
        have same := Document.resolve_of_write?_apart apart.symm wrote
          evaluator.settings.lenientAttributes
        rw [Path.eq_parse_of_parseTarget onSecond] at same
        rw [text?, text?, text_congr regular fun _ => same]
      simp only [Option.bind_some, result?_eq, onSecond, unseen, Except.toOption]
  simp only [result?_eq a, onFirst, Except.toOption, Option.bind_some]
  cases a.text? evaluator source output document with
  | none => rfl
  | some text => exact onwards text

/-- Two instructions with targets apart from each other do the same in either order. -/
theorem result?_comm (regular : evaluator.registry.Regular)
    (onFirst : Path.parseTarget a.path = .ok p) (onSecond : Path.parseTarget b.path = .ok q)
    (apart : Apart (document.names p) (document.names q)) :
    Option.Rel (Document.Alike (sharedNames (document.names p) (document.names q)))
      ((a.result? evaluator source output document).bind (b.result? evaluator source output ·))
      ((b.result? evaluator source output document).bind
        (a.result? evaluator source output ·)) := by
  rw [result?_bind_result? regular onFirst onSecond apart,
    result?_bind_result? regular onSecond onFirst apart.symm]
  cases a.text? evaluator source output document with
  | none => cases b.text? evaluator source output document <;> exact .none
  | some text =>
    cases b.text? evaluator source output document with
    | none => exact .none
    | some other => exact Document.write?_comm apart

/-- An instruction that does not read as its target what documents may differ in. -/
def Quiet (shared : List String) (document : Document) (instruction : Instruction) : Prop :=
  document.format = .json → document.names (Path.parse instruction.path) <+: shared →
    ¬instruction.ReadsTarget

/-- An instruction writes the same text to alike documents, unless it reads what they differ in. -/
theorem text_alike (regular : evaluator.registry.Regular)
    (alike : Document.Alike shared first second) (quiet : instruction.Quiet shared first) :
    instruction.text evaluator source output first =
      instruction.text evaluator source output second := by
  refine text_congr regular fun reads => alike.resolve_eq (fun json onWay => ?_) _
  exact quiet json onWay reads

/-- If an instruction succeeds on two alike documents, it leaves them alike. -/
theorem alike_of_result? (regular : evaluator.registry.Regular)
    (alike : Document.Alike shared first second) {left right : Document}
    (onFirst : instruction.result? evaluator source output first = some left)
    (onSecond : instruction.result? evaluator source output second = some right) :
    Document.Alike shared left right := by
  rw [result?_eq] at onFirst onSecond
  obtain ⟨text, texts, onFirst⟩ := Option.bind_eq_some_iff.mp onFirst
  obtain ⟨other, others, onSecond⟩ := Option.bind_eq_some_iff.mp onSecond
  obtain ⟨target, parsed, onFirst⟩ := Option.bind_eq_some_iff.mp onFirst
  rw [parsed, Option.bind_some] at onSecond
  have same : text = other ∨ first.format = .json ∧ first.names target <+: shared := by
    by_cases quiet : instruction.Quiet shared first
    · rw [text?, text_alike regular alike quiet, ← text?, others] at texts
      exact .inl (Option.some.inj texts).symm
    · simp only [Quiet, Classical.not_imp, Classical.not_not] at quiet
      obtain ⟨json, onWay, -⟩ := quiet
      rw [Path.eq_parse_of_toOption parsed]
      exact .inr ⟨json, onWay⟩
  have written := alike.write? same
  rw [onFirst, onSecond] at written
  cases written with
  | some alike => exact alike

/-- A quiet instruction succeeds on both of two alike documents or on neither. -/
theorem result?_alike (regular : evaluator.registry.Regular)
    (alike : Document.Alike shared first second) (quiet : instruction.Quiet shared first) :
    Option.Rel (Document.Alike shared) (instruction.result? evaluator source output first)
      (instruction.result? evaluator source output second) := by
  rw [result?_eq, result?_eq, text?, text?, text_alike regular alike quiet]
  cases (instruction.text evaluator source output second).toOption with
  | none => exact .none
  | some pair =>
    simp only [Option.map_some, Option.bind_some]
    cases (Path.parseTarget instruction.path).toOption with
    | none => exact .none
    | some target => exact alike.write? (.inl rfl)

/-- The document that instructions leave one after the other, if none of them fails. -/
def results? (evaluator : Evaluator) (source : TableSource) (output document : Document)
    (instructions : List Instruction) : Option Document :=
  instructions.foldlM
    (fun document instruction => instruction.result? evaluator source output document) document

theorem names_of_results? {instructions : List Instruction} {document written : Document}
    (success : results? evaluator source output document instructions = some written) :
    written.names = document.names ∧ written.format = document.format := by
  induction instructions generalizing document with
  | nil =>
    cases success
    exact ⟨rfl, rfl⟩
  | cons instruction rest ih =>
    obtain ⟨next, result, success⟩ := Option.bind_eq_some_iff.mp success
    obtain ⟨names, format⟩ := names_of_result? result
    obtain ⟨names', format'⟩ := ih success
    exact ⟨names'.trans names, format'.trans format⟩

/-- Instructions that succeed on two alike documents leave them alike. -/
theorem alike_of_results? (regular : evaluator.registry.Regular) {later : List Instruction}
    (alike : Document.Alike shared first second) {left right : Document}
    (onFirst : results? evaluator source output first later = some left)
    (onSecond : results? evaluator source output second later = some right) :
    Document.Alike shared left right := by
  induction later generalizing first second with
  | nil =>
    cases onFirst
    cases onSecond
    exact alike
  | cons instruction rest ih =>
    obtain ⟨next, result, onFirst⟩ := Option.bind_eq_some_iff.mp onFirst
    obtain ⟨other, otherResult, onSecond⟩ := Option.bind_eq_some_iff.mp onSecond
    exact ih (alike_of_result? regular alike result otherResult) onFirst onSecond

/-- Quiet instructions succeed on both of two alike documents or on neither. -/
theorem results?_alike (regular : evaluator.registry.Regular) {later : List Instruction}
    (alike : Document.Alike shared first second)
    (quiet : ∀ instruction ∈ later, instruction.Quiet shared first) :
    Option.Rel (Document.Alike shared) (results? evaluator source output first later)
      (results? evaluator source output second later) := by
  induction later generalizing first second with
  | nil => exact .some alike
  | cons instruction rest ih =>
    have here : Option.Rel (Document.Alike shared)
        (instruction.result? evaluator source output first)
        (instruction.result? evaluator source output second) :=
      result?_alike regular alike (quiet instruction List.mem_cons_self)
    simp only [results?, List.foldlM_cons]
    cases result : instruction.result? evaluator source output first with
    | none =>
      rw [result] at here
      generalize instruction.result? evaluator source output second = other at here ⊢
      cases here
      exact .none
    | some next =>
      rw [result] at here
      generalize instruction.result? evaluator source output second = other at here ⊢
      cases here with
      | some alike =>
        obtain ⟨names, format⟩ := names_of_result? result
        refine ih alike fun later member => ?_
        have still := quiet later (List.mem_cons_of_mem _ member)
        rw [Quiet, names, format]
        exact still

private theorem results?_append (document : Document) (first second : List Instruction) :
    results? evaluator source output document (first ++ second) =
      (results? evaluator source output document first).bind
        (results? evaluator source output · second) :=
  List.foldlM_append

/-- Neighbours with targets apart from each other can be exchanged. What is left of their order
shows where documents that are alike may differ, and decides about success only if a later
instruction reads that. -/
theorem results?_exchange (regular : evaluator.registry.Regular) (source : TableSource)
    (output : Document) (front back : List Instruction)
    (onFirst : Path.parseTarget a.path = .ok p) (onSecond : Path.parseTarget b.path = .ok q)
    (apart : Apart (document.names p) (document.names q)) :
    ((∀ later ∈ back, later.Quiet (sharedNames (document.names p) (document.names q)) document) →
      Option.Rel (Document.Alike (sharedNames (document.names p) (document.names q)))
        (results? evaluator source output document (front ++ a :: b :: back))
        (results? evaluator source output document (front ++ b :: a :: back))) ∧
    ∀ left right,
      results? evaluator source output document (front ++ a :: b :: back) = some left →
      results? evaluator source output document (front ++ b :: a :: back) = some right →
      Document.Alike (sharedNames (document.names p) (document.names q)) left right := by
  have pair (first second : Instruction) (reached : Document) :
      results? evaluator source output reached (first :: second :: back) =
        ((first.result? evaluator source output reached).bind
          (second.result? evaluator source output ·)).bind
          (results? evaluator source output · back) := by
    simp only [results?, List.foldlM_cons, bind, Option.bind_assoc]
  rw [results?_append, results?_append]
  cases begun : results? evaluator source output document front with
  | none =>
    constructor
    · intro _
      exact .none
    · rintro _ _ ⟨⟩
  | some reached =>
    obtain ⟨names, format⟩ := names_of_results? begun
    rw [← names] at apart ⊢
    simp only [Option.bind_some, pair]
    have exchanged : Option.Rel (Document.Alike (sharedNames (reached.names p) (reached.names q)))
        ((a.result? evaluator source output reached).bind (b.result? evaluator source output ·))
        ((b.result? evaluator source output reached).bind (a.result? evaluator source output ·)) :=
      result?_comm regular onFirst onSecond apart
    generalize inOrder : (a.result? evaluator source output reached).bind
      (b.result? evaluator source output ·) = original at exchanged ⊢
    generalize (b.result? evaluator source output reached).bind
      (a.result? evaluator source output ·) = swapped at exchanged ⊢
    cases exchanged with
    | none =>
      constructor
      · intro _
        exact .none
      · rintro _ _ ⟨⟩
    | some alike =>
      constructor
      · intro quiet
        refine results?_alike regular alike fun later member => ?_
        obtain ⟨between, first, second⟩ := Option.bind_eq_some_iff.mp inOrder
        obtain ⟨names', format'⟩ := names_of_result? first
        obtain ⟨names'', format''⟩ := names_of_result? second
        have still := quiet later member
        rw [Quiet, ← names] at still
        rw [Quiet, names'', format'', names', format', format]
        exact still
      · intro left right
        exact alike_of_results? regular alike

end Instruction

end DerivedFields
