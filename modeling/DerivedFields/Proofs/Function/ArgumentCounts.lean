import Mathlib
import DerivedFields.Proofs.Function.Denotation
import DerivedFields.Proofs.Function.Regular

/-!
# Numbers of arguments

How many values a function takes is said apart from what its body reads, by index and in different
ways for different numbers of values. Here every place that a body reads is compared with the values
that an accepted call has. An accessor fails for want of an argument only at a place behind the last
value, and nothing but an accessor fails so. A body is then gone through with these facts, and what
is left to show is that each place is small enough.
-/

set_option mvcgen.warning false

namespace DerivedFields

open Std.Do

/-- After a computation that does not fail for want of arguments. -/
abbrev supplied (α : Type) : PostCond α (.except EvalError .pure) :=
  post⟨fun _ => ⌜True⌝, fun error => ⌜error.kind ≠ .arity⌝⟩

variable {α β : Type}

private theorem kind_ne_of_supplied {result : Except EvalError α} {pre : Prop}
    (enough : ⦃⌜pre⌝⦄ result ⦃supplied α⦄) (holds : pre) {error : EvalError}
    (failed : result = .error error) : error.kind ≠ .arity := by
  subst failed
  exact enough holds

/-! ## Computations -/

@[spec]
private theorem supplied_error (error : EvalError) :
    ⦃⌜error.kind ≠ .arity⌝⦄ (Except.error error : Except EvalError α) ⦃supplied α⦄ :=
  fun other => other

@[spec]
private theorem supplied_map {result : Except EvalError α} {pre : Assertion (.except EvalError .pure)}
    (change : α → β) (inner : ⦃pre⦄ result ⦃supplied α⦄) :
    ⦃pre⦄ result.map change ⦃supplied β⦄ := by
  cases result <;> exact inner

@[spec]
private theorem supplied_mapError {ε : Type} (result : Except ε α) (fault : ε → EvalError) :
    ⦃⌜∀ error, (fault error).kind ≠ .arity⌝⦄ result.mapError fault ⦃supplied α⦄ := by
  cases result with
  | ok value => exact fun _ => trivial
  | error error => exact fun other => other error

/-! ## Kinds of failures -/

namespace EvalError

@[simp]
theorem kind_type (fault : TypeFault) : (type fault).kind = .type := rfl

@[simp]
theorem kind_range (fault : RangeFault) : (range fault).kind = .range := rfl

@[simp]
theorem kind_domain (fault : DomainFault) : (domain fault).kind = .domain := rfl

@[simp]
theorem kind_divideByZero : divideByZero.kind = .divideByZero := rfl

@[simp]
theorem kind_unreadableTable (resource : TableResource) (table : String) (fault : FileFault) :
    (unreadableTable resource table fault).kind = .file := rfl

end EvalError

/-! ## Accessors -/

namespace Arguments

variable (arguments : Arguments) (place : Nat)

@[simp]
theorem kind_typeFault (expected found : String) :
    (arguments.typeFault place expected found).kind = .type := rfl

/-- A place that a value stands at is read. -/
@[spec]
private theorem supplied_value :
    ⦃⌜place < arguments.count⌝⦄ arguments.value place ⦃supplied Value⦄ := by
  mvcgen [value]
  next missing present =>
    have behind : arguments.values.length ≤ place := List.getElem?_eq_none_iff.mp missing
    exact absurd present (Nat.not_lt.mpr behind)

@[spec]
private theorem supplied_string :
    ⦃⌜place < arguments.count⌝⦄ arguments.string place ⦃supplied String⦄ := by
  mvcgen [string]

@[spec]
private theorem supplied_chars :
    ⦃⌜place < arguments.count⌝⦄ arguments.chars place ⦃supplied (List Char)⦄ := by
  mvcgen [chars]

@[spec]
private theorem supplied_number :
    ⦃⌜place < arguments.count⌝⦄ arguments.number place ⦃supplied Decimal⦄ := by
  mvcgen [number]
  simp

@[spec]
private theorem supplied_integer :
    ⦃⌜place < arguments.count⌝⦄ arguments.integer place ⦃supplied Int⦄ := by
  mvcgen [integer]
  all_goals simp

@[spec]
private theorem supplied_index :
    ⦃⌜place < arguments.count⌝⦄ arguments.index place ⦃supplied Int⦄ := by
  mvcgen [index]

@[spec]
private theorem supplied_boolean :
    ⦃⌜place < arguments.count⌝⦄ arguments.boolean place ⦃supplied Bool⦄ := by
  mvcgen [boolean]

end Arguments

/-! ## Operations -/

@[spec]
private theorem supplied_check (operation : Operation) (result : Option Decimal) :
    ⦃⌜True⌝⦄ operation.check result ⦃supplied Decimal⦄ := by
  mvcgen [Operation.check]
  simp

namespace Decimal

variable (a b : Decimal)

@[spec]
private theorem supplied_plus : ⦃⌜True⌝⦄ a.plus b ⦃supplied Decimal⦄ := by
  mvcgen [plus]

@[spec]
private theorem supplied_minus : ⦃⌜True⌝⦄ a.minus b ⦃supplied Decimal⦄ := by
  mvcgen [minus]

@[spec]
private theorem supplied_times : ⦃⌜True⌝⦄ a.times b ⦃supplied Decimal⦄ := by
  mvcgen [times]

@[spec]
private theorem supplied_divide : ⦃⌜True⌝⦄ a.divide b ⦃supplied Decimal⦄ := by
  mvcgen [divide]

@[spec]
private theorem supplied_modulo : ⦃⌜True⌝⦄ a.modulo b ⦃supplied Decimal⦄ := by
  mvcgen [modulo]

end Decimal

@[spec]
private theorem supplied_roundToWidth (magnitude : Decimal) (width : Nat) :
    ⦃⌜True⌝⦄ roundToWidth magnitude width ⦃supplied Decimal⦄ := by
  unfold roundToWidth
  mvcgen

@[spec]
private theorem supplied_format (pattern : NumberMask) (magnitude : Decimal) :
    ⦃⌜True⌝⦄ pattern.format magnitude ⦃supplied (List Char)⦄ := by
  mvcgen [NumberMask.format]

@[spec]
private theorem supplied_maskNumber (input : Decimal) (mask : String) :
    ⦃⌜True⌝⦄ maskNumber input mask ⦃supplied String⦄ := by
  mvcgen [maskNumber]
  all_goals simp

@[spec]
private theorem supplied_maskPhone (input mask : String) :
    ⦃⌜True⌝⦄ maskPhone input mask ⦃supplied String⦄ := by
  mvcgen [maskPhone]
  simp

@[spec]
private theorem supplied_numberToWords (n : Int) :
    ⦃⌜True⌝⦄ numberToWords n ⦃supplied String⦄ := by
  mvcgen [numberToWords]
  all_goals simp

/-! ## Bodies -/

namespace Arity

variable {count n fewest most : Nat}

private theorem accepts_exact : (exact n).accepts count = true ↔ count = n := by simp [accepts]

private theorem accepts_range :
    (range fewest most).accepts count = true ↔ fewest ≤ count ∧ count ≤ most := by
  simp [accepts]

private theorem accepts_atLeast : (atLeast fewest).accepts count = true ↔ fewest ≤ count := by
  simp [accepts]

end Arity

/-- In every call with an accepted number of values the body finds all arguments that it asks
for. -/
def FunctionBody.SuppliedBy (arity : Arity) (body : FunctionBody) : Prop :=
  ∀ (scope : Scope) (arguments : Arguments) (tables : TableCache),
    arity.accepts arguments.count = true →
      ∀ error, (body.run scope arguments tables).1 = .error error → error.kind ≠ .arity

private theorem suppliedBy_ofArguments {arity : Arity} {compute : Arguments → Except EvalError Value}
    (enough : ∀ arguments : Arguments, arity.accepts arguments.count = true →
      ⦃⌜True⌝⦄ compute arguments ⦃supplied Value⦄) :
    (FunctionBody.ofArguments compute).SuppliedBy arity :=
  fun _ arguments _ accepted _ => kind_ne_of_supplied (enough arguments accepted) trivial

/-! ### Texts -/

private theorem supplied_subString {arguments : Arguments} (fewest : 2 ≤ arguments.count) :
    ⦃⌜True⌝⦄ Strings.subString arguments ⦃supplied Value⦄ := by
  mvcgen [Strings.subString]
  -- the third argument is read only where more than two are given
  case vc4.post.success.post.success.isFalse.pre input start behind more =>
    rw [Bool.or_eq_true, decide_eq_true_eq, not_or] at more
    exact Nat.lt_of_not_le more.2
  all_goals omega

private theorem suppliedBy_strings :
    ∀ function ∈ Strings.functions, function.body.SuppliedBy function.arity := by
  simp only [Strings.functions, Strings.function, List.forall_mem_cons]
  refine ⟨?concat, ?_, ?_, ?_, ?_, ?_, ?_, ?_, ?_, ?_, ?subString, ?_, ?_, List.forall_mem_nil _⟩
  all_goals
    refine suppliedBy_ofArguments fun arguments accepted => ?_
    simp only [Arity.accepts_exact, Arity.accepts_range, Arity.accepts_atLeast] at accepted
  case concat => exact fun _ => trivial
  case subString => exact supplied_subString accepted.1
  all_goals
    mvcgen [Strings.upperCase, Strings.lowerCase, Strings.titleCase, Strings.replace, Strings.trim,
      Strings.length, Strings.insert, Strings.indexOf, Strings.lastIndexOf, Strings.subStringBefore,
      Strings.subStringAfter]
  all_goals omega

/-! ### Numbers -/

/-- All places behind the first are read in turn, up to the last value. -/
theorem supplied_fold {read : Arguments → Nat → Except EvalError Decimal}
    {operation : Decimal → Decimal → Except EvalError Decimal} {arguments : Arguments}
    (reads : ∀ place, ⦃⌜place < arguments.count⌝⦄ read arguments place ⦃supplied Decimal⦄)
    (computes : ∀ a b, ⦃⌜True⌝⦄ operation a b ⦃supplied Decimal⦄)
    (present : 0 < arguments.count) :
    ⦃⌜True⌝⦄ Numbers.fold read operation arguments ⦃supplied Value⦄ := by
  mvcgen [Numbers.fold, reads, computes]
  case inv1 => exact post⟨fun _ => ⌜True⌝, fun error => ⌜error.kind ≠ .arity⌝⟩
  -- the fold goes through the places from the second to the last
  case vc2.step.pre earlier place later split _ _ =>
    have listed : place ∈ List.range' 1 (arguments.count - 1) := by
      rw [split]
      exact List.mem_append_right _ List.mem_cons_self
    rw [List.mem_range'_1] at listed
    omega
  all_goals simp

@[spec]
private theorem supplied_integerOperand (arguments : Arguments) (place : Nat) :
    ⦃⌜place < arguments.count⌝⦄ Numbers.integerOperand arguments place ⦃supplied Decimal⦄ := by
  mvcgen [Numbers.integerOperand]
  all_goals simp

private theorem suppliedBy_numbers :
    ∀ function ∈ Numbers.functions, function.body.SuppliedBy function.arity := by
  simp only [Numbers.functions, Numbers.function, List.forall_mem_cons]
  refine ⟨?add, ?subtract, ?multiply, ?divide, ?mod, ?_, ?_, ?_, ?_, List.forall_mem_nil _⟩
  all_goals
    refine suppliedBy_ofArguments fun arguments accepted => ?_
    simp only [Arity.accepts_exact, Arity.accepts_range, Arity.accepts_atLeast] at accepted
  case add => exact supplied_fold arguments.supplied_number Decimal.supplied_plus (by omega)
  case subtract => exact supplied_fold arguments.supplied_number Decimal.supplied_minus (by omega)
  case multiply => exact supplied_fold arguments.supplied_number Decimal.supplied_times (by omega)
  case divide => exact supplied_fold arguments.supplied_number Decimal.supplied_divide (by omega)
  case mod =>
    exact supplied_fold (supplied_integerOperand arguments) Decimal.supplied_modulo (by omega)
  all_goals mvcgen [Numbers.map, Numbers.round]
  all_goals first | omega | simp

private theorem suppliedBy_formats :
    ∀ function ∈ Formats.functions, function.body.SuppliedBy function.arity := by
  simp only [Formats.functions, Formats.function, List.forall_mem_cons]
  refine ⟨?_, ?_, ?_, List.forall_mem_nil _⟩
  all_goals
    refine suppliedBy_ofArguments fun arguments accepted => ?_
    simp only [Arity.accepts_exact, Arity.accepts_range] at accepted
    mvcgen [Formats.number, Formats.phoneNumber, Formats.words]
  all_goals first | omega | simp

/-! ### Dates -/

@[spec]
private theorem supplied_lift (result : Except DateFault α) :
    ⦃⌜True⌝⦄ Dates.lift result ⦃supplied α⦄ := by
  mvcgen [Dates.lift]
  simp

@[spec]
private theorem supplied_write (mask : String) (value : DateTime) :
    ⦃⌜True⌝⦄ Dates.write mask value ⦃supplied Value⦄ := by
  mvcgen [Dates.write]

@[spec]
private theorem supplied_opposite (amount : Int) :
    ⦃⌜True⌝⦄ Dates.opposite amount ⦃supplied Int⦄ := by
  mvcgen [Dates.opposite]

private theorem supplied_shift {adjust : Int → Except EvalError Int} {arguments : Arguments}
    (adjusts : ∀ amount, ⦃⌜True⌝⦄ adjust amount ⦃supplied Int⦄) (present : 2 < arguments.count) :
    ⦃⌜True⌝⦄ Dates.shift adjust arguments ⦃supplied Value⦄ := by
  mvcgen [Dates.shift, adjusts]
  all_goals first | omega | simp

private theorem supplied_now {scope : Scope} {arguments : Arguments} (present : 0 < arguments.count) :
    ⦃⌜True⌝⦄ Dates.now scope arguments ⦃supplied Value⦄ := by
  mvcgen [Dates.now]

private theorem suppliedBy_dates :
    ∀ function ∈ Dates.functions, function.body.SuppliedBy function.arity := by
  simp only [Dates.functions, Dates.function, List.forall_mem_cons]
  refine ⟨?_, ?now, ?_, ?add, ?subtract, ?_, List.forall_mem_nil _⟩
  case now =>
    intro scope arguments tables accepted error failed
    rw [Arity.accepts_exact] at accepted
    exact kind_ne_of_supplied (supplied_now (by omega)) trivial failed
  all_goals
    refine suppliedBy_ofArguments fun arguments accepted => ?_
    simp only [Arity.accepts_exact, Arity.accepts_range] at accepted
  case add => exact supplied_shift (fun _ _ => trivial) (by omega)
  case subtract => exact supplied_shift supplied_opposite (by omega)
  all_goals mvcgen [Dates.maskDateTime, Dates.toDateTime, Dates.duration]
  all_goals omega

/-! ### Choices and tables -/

private theorem suppliedBy_choose : (FunctionBody.ofArguments choose).SuppliedBy (.exact 3) := by
  refine suppliedBy_ofArguments fun arguments accepted => ?_
  rw [Arity.accepts_exact] at accepted
  mvcgen [choose]
  all_goals omega

@[spec]
private theorem supplied_read (table : String) (kind : TableResource) (absent : TableFault)
    (resource : Resource) : ⦃⌜True⌝⦄ resource.read table kind absent ⦃supplied String⦄ := by
  mvcgen [Resource.read]
  all_goals simp

private theorem supplied_load (source : TableSource) (name : String) :
    ⦃⌜True⌝⦄ source.load name ⦃supplied LookupTable⦄ := by
  mvcgen [TableSource.load]
  all_goals simp

/-- A table that cannot be had is a fault of its texts. -/
theorem kind_ne_of_get {tables : TableCache} {name : String} {error : EvalError}
    (failed : (tables.get name).1 = .error error) : error.kind ≠ .arity := by
  rw [TableCache.get] at failed
  cases kept : tables.loaded.lookup name with
  | some table =>
    rw [kept] at failed
    cases failed
  | none =>
    have loading := supplied_load tables.source name
    rw [kept] at failed
    cases loaded : tables.source.load name with
    | ok table =>
      rw [loaded] at failed
      cases failed
    | error fault =>
      rw [loaded] at failed
      exact kind_ne_of_supplied loading trivial (loaded.trans failed)

private theorem suppliedBy_lookup : (FunctionBody.ofTables lookup).SuppliedBy (.range 3 4) := by
  intro scope arguments tables accepted error failed
  rw [Arity.accepts_range] at accepted
  rw [FunctionBody.run, lookup] at failed
  split at failed
  · next key table column _ _ _ =>
    dsimp only at failed
    split at failed
    · cases failed
    · split at failed
      · cases failed
      · next fault after got =>
        cases failed
        exact kind_ne_of_get (congrArg Prod.fst got)
  · next unread =>
    cases failed
    exact kind_ne_of_supplied (arguments.supplied_string 0) (by omega) unread
  · next unread _ =>
    cases failed
    exact kind_ne_of_supplied (arguments.supplied_string 1) (by omega) unread
  · next unread _ _ =>
    cases failed
    exact kind_ne_of_supplied (arguments.supplied_index 2) (by omega) unread

private theorem suppliedBy_builtin {function : Function}
    (builtin : function ∈ Registry.builtin.functions) :
    function.body.SuppliedBy function.arity := by
  have listed := Registry.mem_builtinFunctions builtin
  simp only [builtinFunctions, List.mem_append, List.mem_singleton] at listed
  obtain ((((rfl | string) | number) | format) | date) | rfl := listed
  · exact suppliedBy_choose
  · exact suppliedBy_strings function string
  · exact suppliedBy_numbers function number
  · exact suppliedBy_formats function format
  · exact suppliedBy_dates function date
  · exact suppliedBy_lookup

/-! ## Calls -/

private theorem Arguments.kind_of_value {arguments : Arguments} {place : Nat} {error : EvalError}
    (missing : arguments.value place = .error error) : error.kind = .arity := by
  rw [value] at missing
  split at missing <;> cases missing
  rfl

/-- A call of a built-in function fails for its number of arguments just if the declared arity does
not accept that number. The call is then refused as a whole, and no table is loaded. An accepted
call never ends in the failure to find an argument, at whatever place. -/
theorem arity_failure_iff {function : Function} (builtin : function ∈ Registry.builtin.functions)
    (scope : Scope) (values : List Value) (tables : TableCache) :
    ((∃ error, (function.call scope values tables).1 = .error error ∧ error.kind = .arity) ↔
        function.arity.accepts values.length = false) ∧
      (function.arity.accepts values.length = false → function.call scope values tables =
        (.error (.arity function.name function.arity values.length), tables)) ∧
      (function.arity.accepts values.length = true → ∀ place error,
        (⟨function.name, values⟩ : Arguments).value place = .error error →
          (function.call scope values tables).1 ≠ .error error) := by
  have refused (unaccepted : function.arity.accepts values.length = false) :
      function.call scope values tables =
        (.error (.arity function.name function.arity values.length), tables) := by
    rw [Function.call, unaccepted]
    rfl
  have answered (accepted : function.arity.accepts values.length = true) {error : EvalError}
      (failed : (function.call scope values tables).1 = .error error) : error.kind ≠ .arity := by
    rw [Function.call, if_pos accepted] at failed
    exact suppliedBy_builtin builtin scope ⟨function.name, values⟩ tables accepted error failed
  refine ⟨⟨?_, fun unaccepted => ⟨_, congrArg Prod.fst (refused unaccepted), rfl⟩⟩, refused, ?_⟩
  · rintro ⟨error, failed, kind⟩
    rw [← Bool.not_eq_true]
    exact fun accepted => answered accepted failed kind
  · exact fun accepted place error missing failed =>
      answered accepted failed (Arguments.kind_of_value missing)

/-- Positions and a replacement are four arguments. A fifth is refused, and with four nothing is
missing. -/
theorem arity_failure_iff_replace :
    ∃ function ∈ Registry.builtin.functions, function.name = "Replace" ∧
      (∀ scope tables, (function.call scope (List.replicate 5 (.string "")) tables).1 =
        .error (.arity "Replace" (.range 3 4) 5)) ∧
      ∀ scope tables, ¬∃ error, (function.call scope (List.replicate 4 (.string "")) tables).1 =
        .error error ∧ error.kind = .arity := by
  have listed : Registry.builtin.get? "Replace" =
      some (Strings.function "Replace" (.range 3 4) Strings.replace) := rfl
  have builtin := Registry.mem_of_get? listed
  refine ⟨_, builtin, rfl, fun scope tables => ?_, fun scope tables => ?_⟩
  · exact congrArg Prod.fst ((arity_failure_iff builtin scope _ tables).2.1 rfl)
  · rw [(arity_failure_iff builtin scope _ tables).1]
    decide

end DerivedFields
