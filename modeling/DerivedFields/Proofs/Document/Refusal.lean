import DerivedFields.Proofs.Document.Frame

/-!
# What a refused write leaves behind

A write is refused before anything is changed, unless it is the write of an attribute to a JSON
document. That one is refused at the end of its way, and if the way breaks off before, at a member
that is missing or null, then the objects that were created to go on stay in the document.
-/

namespace DerivedFields

open PathSegment (Descends descends_cons)

variable {text : String} {path : List PathSegment}

namespace Json

variable {members written : List (String × Json)} {fault : WriteFault}

/-- A way leads through objects to a member that is missing or null, and goes on behind it. -/
def breaksOff : List PathSegment → List (String × Json) → Bool
  | segment :: next :: rest, members =>
    match member? segment.name members with
    | none | some .null => true
    | some (.object inner) => breaksOff (next :: rest) inner
    | some _ => false
  | _, _ => false

/-- Nothing is changed in the last object of a way, which its last step would have an attribute of. -/
def Refuses (segment : PathSegment) (members written : List (String × Json)) : Prop :=
  segment.isAttribute = true ∧ written = members

private theorem setMember_ne_self {key : String} {value : Json}
    (other : member? key members ≠ some value) :
    setMember key value members ≠ members := by
  intro same
  have found := member?_setMember_self key value members
  rw [same] at found
  exact other found

/-- A write through more than one step is one below the members that are there. -/
theorem writeAt_through (segment next : PathSegment) (rest : List PathSegment)
    {inner : List (String × Json)}
    (below : membersBelow? (member? segment.name members) = some inner) :
    writeAt text (segment :: next :: rest) members =
      (setMember segment.name (.object (writeAt text (next :: rest) inner).1) members,
        (writeAt text (next :: rest) inner).2) := by
  rw [writeAt, below]

/-- A way ends at an attribute, and that is why it is refused. -/
def EndsRefused (fault : WriteFault) (path : List PathSegment) : Prop :=
  ∃ name, path.getLast? = some (.attribute name) ∧ fault = .attributeInJson name

private theorem endsRefused_cons {segment next : PathSegment} {rest : List PathSegment} :
    EndsRefused fault (segment :: next :: rest) ↔ EndsRefused fault (next :: rest) := by
  rw [EndsRefused, EndsRefused, List.getLast?_cons_cons]

/-- Where the way does not break off, a refused write changes nothing. -/
theorem writeAt_refused_whole (whole : breaksOff path members = false)
    (failure : writeAt text path members = (written, some fault)) : written = members := by
  induction path generalizing members written with
  | nil => cases failure
  | cons segment rest ih =>
    cases rest with
    | nil =>
      rcases segment with name | name
      · cases failure
      · cases failure
        rfl
    | cons next rest =>
      rw [breaksOff] at whole
      cases found : member? segment.name members with
      | none =>
        rw [found] at whole
        cases whole
      | some value =>
        cases value with
        | null =>
          rw [found] at whole
          cases whole
        | object inner =>
          rw [found] at whole
          rw [writeAt_through segment next rest (congrArg membersBelow? found)] at failure
          obtain ⟨here, refused⟩ := Prod.mk.inj failure
          have unchanged : (writeAt text (next :: rest) inner).1 = inner :=
            ih whole (Prod.ext rfl refused)
          rw [← here, unchanged, setMember_eq_writeEntry]
          exact writeEntry_eq_self found
        | boolean value | number value | string value | array value =>
          rw [writeAt, found] at failure
          cases failure
          rfl

/-- Nothing stands on a way through an empty object, so a write is refused at its end only. -/
theorem writeAt_refused_empty (descends : Descends path)
    (failure : writeAt text path [] = (written, some fault)) :
    EndsRefused fault path ∧ ChangedAlong Refuses path [] written := by
  induction path generalizing written with
  | nil => cases failure
  | cons segment rest ih =>
    cases rest with
    | nil =>
      rcases segment with name | name
      · cases failure
      · cases failure
        exact ⟨⟨name, rfl, rfl⟩, .last ⟨rfl, rfl⟩⟩
    | cons next rest =>
      rw [writeAt_through segment next rest rfl] at failure
      obtain ⟨rfl, refused⟩ := Prod.mk.inj failure
      obtain ⟨element, deeper⟩ := descends_cons.mp descends
      obtain ⟨ends, changed⟩ := ih deeper (Prod.ext rfl refused)
      exact ⟨endsRefused_cons.mpr ends, changedAlong_setMember element rfl changed⟩

/-- Where the way breaks off, a write is refused at its end only, and the objects on the way stay. -/
theorem writeAt_refused_broken (descends : Descends path) (broken : breaksOff path members = true)
    (failure : writeAt text path members = (written, some fault)) :
    EndsRefused fault path ∧ written ≠ members ∧ ChangedAlong Refuses path members written := by
  induction path generalizing members written with
  | nil => cases failure
  | cons segment rest ih =>
    cases rest with
    | nil => cases broken
    | cons next rest =>
      rw [breaksOff] at broken
      obtain ⟨element, deeper⟩ := descends_cons.mp descends
      have created (below : membersBelow? (member? segment.name members) = some [])
          (noObject : ∀ inner, member? segment.name members ≠ some (.object inner)) :
          EndsRefused fault (segment :: next :: rest) ∧ written ≠ members ∧
            ChangedAlong Refuses (segment :: next :: rest) members written := by
        rw [writeAt_through segment next rest below] at failure
        obtain ⟨rfl, refused⟩ := Prod.mk.inj failure
        obtain ⟨ends, changed⟩ := writeAt_refused_empty deeper (Prod.ext rfl refused)
        exact ⟨endsRefused_cons.mpr ends, setMember_ne_self (noObject _),
          changedAlong_setMember element below changed⟩
      cases found : member? segment.name members with
      | none => exact created (congrArg membersBelow? found) fun inner => by simp [found]
      | some value =>
        cases value with
        | null => exact created (congrArg membersBelow? found) fun inner => by simp [found]
        | object inner =>
          rw [found] at broken
          have below := congrArg membersBelow? found
          rw [writeAt_through segment next rest below] at failure
          obtain ⟨rfl, refused⟩ := Prod.mk.inj failure
          obtain ⟨ends, different, changed⟩ := ih deeper broken (Prod.ext rfl refused)
          refine ⟨endsRefused_cons.mpr ends, ?_, changedAlong_setMember element below changed⟩
          apply setMember_ne_self
          rw [found]
          intro same
          exact different (Json.object.inj (Option.some.inj same)).symm
        | boolean value | number value | string value | array value =>
          rw [found] at broken
          cases broken

end Json

namespace Document

variable {document written : Document} {fault : FieldError}

/-- A write fails for its target, and then it does nothing, or for what it meets in a JSON
document. -/
theorem set_eq_error_cases {path : String}
    (failure : document.set path text = (written, .error fault)) :
    (∃ cause, Path.parseTarget path = .error cause ∧ written = document) ∨
    ∃ target members after cause, Path.parseTarget path = .ok target ∧ document = json members ∧
      Json.writeAt text target.segments members = (after, some cause) ∧ written = json after ∧
        fault = .write cause := by
  rw [set] at failure
  cases parsed : Path.parseTarget path with
  | error cause =>
    rw [parsed] at failure
    exact .inl ⟨cause, rfl, (Prod.mk.inj failure).1.symm⟩
  | ok target =>
    rw [parsed] at failure
    cases document with
    | xml root => cases (Prod.mk.inj failure).2
    | json members =>
      rcases outcome : Json.writeAt text target.segments members with ⟨after, _ | cause⟩
      · simp only [write, outcome] at failure
        cases (Prod.mk.inj failure).2
      · simp only [write, outcome] at failure
        obtain ⟨rfl, refused⟩ := Prod.mk.inj failure
        exact .inr ⟨target, members, after, cause, rfl, rfl, outcome, rfl,
          (Except.error.inj refused).symm⟩

/-- Of a refused write nothing is left in a document, unless it is a JSON document whose objects end
before the way to an attribute does. Then the missing objects are created, and nothing else. -/
theorem set_refused {path : String} (failure : document.set path text = (written, .error fault)) :
    (written ≠ document ↔
      ∃ members target name, document = json members ∧ Path.parseTarget path = .ok target ∧
        target.segments.getLast? = some (.attribute name) ∧
        Json.breaksOff target.segments members = true) ∧
    (written ≠ document →
      ∃ members after name, document = json members ∧ written = json after ∧
        fault = .write (.attributeInJson name) ∧
        Json.ChangedAlong Json.Refuses (Path.parse path).segments members after) := by
  rcases set_eq_error_cases failure with ⟨cause, untargeted, rfl⟩ |
    ⟨target, members, after, cause, parsed, rfl, refused, rfl, rfl⟩
  · constructor
    · constructor
      · intro changed
        exact absurd rfl changed
      · rintro ⟨_, _, _, -, parsed, -⟩
        rw [untargeted] at parsed
        cases parsed
    · intro changed
      exact absurd rfl changed
  · obtain ⟨rfl, -, -, descends⟩ := Path.parseTarget_eq_ok_iff.mp parsed
    have broken (changed : json after ≠ json members) :
        Json.breaksOff (Path.parse path).segments members = true := by
      rw [← Bool.not_eq_false]
      intro whole
      exact changed (congrArg json (Json.writeAt_refused_whole whole refused))
    constructor
    · constructor
      · intro changed
        obtain ⟨⟨name, ends, -⟩, -, -⟩ :=
          Json.writeAt_refused_broken descends (broken changed) refused
        exact ⟨members, _, name, rfl, parsed, ends, broken changed⟩
      · rintro ⟨_, _, _, same, other, -, early⟩
        cases same
        rw [parsed] at other
        cases other
        obtain ⟨-, different, -⟩ := Json.writeAt_refused_broken descends early refused
        intro same
        exact different (Document.json.inj same)
    · intro changed
      obtain ⟨⟨name, -, rfl⟩, -, along⟩ :=
        Json.writeAt_refused_broken descends (broken changed) refused
      exact ⟨members, after, name, rfl, rfl, rfl, along⟩

/-- A null above an attribute becomes an object, and that is all that changes. -/
theorem set_refused_below_null :
    let before := json [("a", .null), ("n", .null)]
    let after := json [("a", .object []), ("n", .null)]
    before.set "a/@b" "x" = (after, .error (.write (.attributeInJson "b"))) ∧
      (∃ members target name, before = json members ∧ Path.parseTarget "a/@b" = .ok target ∧
        target.segments.getLast? = some (.attribute name) ∧
        Json.breaksOff target.segments members = true) ∧
      ∃ members written name, before = json members ∧ after = json written ∧
        FieldError.write (.attributeInJson "b") = .write (.attributeInJson name) ∧
        Json.ChangedAlong Json.Refuses (Path.parse "a/@b").segments members written := by
  intro before after
  have parsed : Path.parseTarget "a/@b" = .ok ⟨[.element "a", .attribute "b"]⟩ := by cbv
  have failure : before.set "a/@b" "x" = (after, .error (.write (.attributeInJson "b"))) := by
    rw [set, parsed]
    rfl
  have changed : after ≠ before := by
    intro same
    cases Document.json.inj same
  obtain ⟨condition, left⟩ := set_refused failure
  exact ⟨failure, condition.mp changed, left changed⟩

/-- A write that fails can leave an object behind that was not there before. -/
theorem set_refused_creates_object :
    (json []).set "a/@b" "x" =
        (json [("a", .object [])], .error (.write (.attributeInJson "b"))) ∧
      json [("a", .object [])] ≠ json [] := by
  have parsed : Path.parseTarget "a/@b" = .ok ⟨[.element "a", .attribute "b"]⟩ := by cbv
  constructor
  · rw [set, parsed]
    rfl
  · intro same
    cases Document.json.inj same

end Document

end DerivedFields
