import Mathlib.Data.List.Forall2
import DerivedFields.Function.Builtin
import DerivedFields.Proofs.Decimal.Quotient

/-!
# What arguments stand for

A function takes any value as a text, and as an integer a number without a fraction or a text that
spells one, with however many zeros behind the point. So a call is described by what its values stand
for, and the accessors read just that from them. A position that is not within 64 bits is the nearest
one that is.
-/

namespace DerivedFields

/-- What a value may stand for. -/
inductive Datum
  | text (text : String)
  | integer (n : ℤ)

/-- The value is read as this text, or as this integer. -/
def Value.Denotes (value : Value) : Datum → Prop
  | .text text => value.toText = text
  | .integer n => ∃ number, value.asNumber? = some number ∧ number.toRat = n

theorem Value.denotes_integer {n : ℤ} (fits : n.natAbs < Decimal.limit) :
    (Value.numeric (.ofInt n)).Denotes (.integer n) := ⟨_, rfl, Decimal.toRat_ofInt fits⟩

/-- A value of 64 bits, the nearest one to an integer. -/
def saturated (n : ℤ) : ℤ := max (-0x8000000000000000) (min n 0x7fffffffffffffff)

theorem saturated_of_isInt64 {n : ℤ} (fits : isInt64 n = true) : saturated n = n := by
  rw [isInt64, Bool.and_eq_true, decide_eq_true_eq, decide_eq_true_eq] at fits
  rw [saturated]
  omega

private theorem Decimal.truncated_of_toRat {d : Decimal} {n : ℤ} (value : d.toRat = n) :
    d.truncated = n := by
  have ten : (10 : ℚ) ^ d.scale ≠ 0 := by positivity
  have signed : d.signed = n * 10 ^ d.scale := by
    rw [toRat, div_eq_iff ten] at value
    exact_mod_cast value
  rw [truncated, signed]
  exact Int.mul_tdiv_cancel n (by positivity)

/-! ## Reading arguments -/

namespace Arguments

/-- The values of a call stand for these data, one after the other. -/
def Denote (arguments : Arguments) (data : List Datum) : Prop :=
  List.Forall₂ Value.Denotes arguments.values data

/-- An argument is read as the number that its value is. -/
theorem number_of_value {arguments : Arguments} {index : Nat} {value : Value}
    (given : arguments.values[index]? = some value) :
    arguments.number index =
      match value.asNumber? with
      | some number => .ok number
      | none => .error (arguments.typeFault index "numeric" value.describe) := by
  rw [number, Arguments.value, given]
  rfl

variable {arguments : Arguments} {data : List Datum} {datum : Datum} {text : String} {n : ℤ}

theorem Denote.count_eq (denote : arguments.Denote data) : arguments.count = data.length :=
  denote.length_eq

variable (place : ℕ)

private theorem Denote.exists_value (denote : arguments.Denote data)
    (given : data[place]? = some datum) :
    ∃ value, arguments.values[place]? = some value ∧ value.Denotes datum := by
  obtain ⟨bound, rfl⟩ := List.getElem?_eq_some_iff.mp given
  have present : place < arguments.values.length := denote.length_eq ▸ bound
  exact ⟨_, List.getElem?_eq_getElem present, denote.get present bound⟩

theorem Denote.string_eq (denote : arguments.Denote data) (given : data[place]? = some (.text text)) :
    arguments.string place = .ok text := by
  obtain ⟨value, present, rfl⟩ := denote.exists_value place given
  rw [string, Arguments.value, present]
  rfl

theorem Denote.chars_eq (denote : arguments.Denote data) (given : data[place]? = some (.text text)) :
    arguments.chars place = .ok text.toList := by
  rw [chars, denote.string_eq place given]
  rfl

theorem Denote.optionalString_eq (denote : arguments.Denote data)
    (given : data[place]? = some (.text text)) : arguments.optionalString place = some text := by
  obtain ⟨value, present, rfl⟩ := denote.exists_value place given
  rw [optionalString, present]
  rfl

theorem Denote.optionalString_none (denote : arguments.Denote data) (missing : data[place]? = none) :
    arguments.optionalString place = none := by
  have absent : arguments.values[place]? = none := by
    rw [List.getElem?_eq_none_iff] at missing ⊢
    exact denote.length_eq.trans_le missing
  rw [optionalString, absent]
  rfl

private theorem Denote.exists_number (denote : arguments.Denote data)
    (given : data[place]? = some (.integer n)) :
    ∃ number, arguments.number place = .ok number ∧ number.toRat = n := by
  obtain ⟨value, present, number, read, same⟩ := denote.exists_value place given
  exact ⟨number, by rw [number_of_value present, read], same⟩

theorem Denote.index_eq (denote : arguments.Denote data)
    (given : data[place]? = some (.integer n)) : arguments.index place = .ok (saturated n) := by
  obtain ⟨number, read, value⟩ := denote.exists_number place given
  rw [index, read, ← Decimal.truncated_of_toRat value]
  rfl

/-- An integer is read if it is within 64 bits, and otherwise too large. -/
theorem Denote.integer_eq_ite (denote : arguments.Denote data)
    (given : data[place]? = some (.integer n)) :
    arguments.integer place = if isInt64 n then .ok n
      else .error (.range (.argumentTooLarge arguments.function (place + 1))) := by
  obtain ⟨number, read, value⟩ := denote.exists_number place given
  have whole : number.isInteger = true := Decimal.isInteger_iff.mpr ⟨n, value⟩
  have truncated := Decimal.truncated_of_toRat value
  rw [integer, read]
  change (if !number.isInteger then _ else if isInt64 number.truncated then _ else _) = _
  rw [whole, truncated]
  rfl

theorem Denote.integer_eq (denote : arguments.Denote data)
    (given : data[place]? = some (.integer n)) (fits : isInt64 n = true) :
    arguments.integer place = .ok n := by
  rw [denote.integer_eq_ite place given, if_pos fits]

end Arguments

/-! ## Calls -/

/-- No two built-in functions have the same key, so all of them are registered as they are listed. -/
theorem Registry.functions_builtin : builtin.functions = builtinFunctions := by rfl

/-- The built-in function of a name has this result for all values that stand for the data, whatever
the script sees and whichever tables are loaded, and it loads none. -/
def Returns (name : String) (data : List Datum) (result : Value) : Prop :=
  ∃ function, Registry.builtin.get? name = some function ∧
    ∀ values, List.Forall₂ Value.Denotes values data → ∀ scope tables,
      function.call scope values tables = (.ok result, tables)

/-- The built-in function of a name fails like this for all values that stand for the data, whatever
the script sees and whichever tables are loaded, and it loads none. -/
def Fails (name : String) (data : List Datum) (fault : EvalError) : Prop :=
  ∃ function, Registry.builtin.get? name = some function ∧
    ∀ values, List.Forall₂ Value.Denotes values data → ∀ scope tables,
      function.call scope values tables = (.error fault, tables)

/-- A listed function of its arguments alone does what its body computes from values that stand for the
data. -/
theorem exists_call_of_compute {name : String} (arity : Arity) {category : Category}
    {compute : Arguments → Except EvalError Value} {data : List Datum}
    {outcome : Except EvalError Value}
    (listed : builtinFunctions.find? (fun function => functionKey function.name = functionKey name) =
      some ⟨name, arity, category, .ofArguments compute⟩)
    (accepted : arity.accepts data.length = true)
    (computed : ∀ arguments : Arguments, arguments.Denote data → arguments.function = name →
      compute arguments = outcome) :
    ∃ function, Registry.builtin.get? name = some function ∧
      ∀ values, List.Forall₂ Value.Denotes values data → ∀ scope tables,
        function.call scope values tables = (outcome, tables) := by
  rw [← Registry.functions_builtin] at listed
  refine ⟨_, listed, fun values denote scope tables => ?_⟩
  have accepts : arity.accepts values.length = true := by rwa [denote.length_eq]
  rw [Function.call, if_pos accepts]
  exact congrArg (·, tables) (computed ⟨name, values⟩ denote rfl)

/-- A listed function of its arguments alone returns what its body computes from values that stand for
the data. -/
theorem returns_of_compute {name : String} (arity : Arity) {category : Category}
    {compute : Arguments → Except EvalError Value} {data : List Datum} {result : Value}
    (listed : builtinFunctions.find? (fun function => functionKey function.name = functionKey name) =
      some ⟨name, arity, category, .ofArguments compute⟩)
    (accepted : arity.accepts data.length = true)
    (computed : ∀ arguments : Arguments, arguments.Denote data → compute arguments = .ok result) :
    Returns name data result :=
  exists_call_of_compute arity listed accepted fun arguments denote _ => computed arguments denote

end DerivedFields
