import ClientGen.Proofs.Schema.Definitions
import ClientGen.Proofs.Schema.Shape
import Mathlib.Logic.Relation

/-! The walk of a conversion, step by step. What is still to be done is kept in the order in which it is done:
members before properties, both in document order, and behind the schemas of a definition a mark that it is
being converted. The walk halts at a reference that cannot be followed or leads to a marked definition.
Through schemas of the expected shape it goes where the conversion goes. -/

set_option autoImplicit false

namespace ClientGen

inductive Task where
  /-- To convert a schema. -/
  | schema (schema : Value)
  /-- To take a member of a composition. -/
  | member (member : Value)
  /-- To end the conversion of a definition. -/
  | leave (name : String)

namespace Walk

open SchemaType

def propertyTask (property : Key × Value) : Task := .schema property.2

/-- What is to be done for a type before it can be written. -/
def tasksOf : SchemaType → Except Failure (List Task)
  | .wrapped inner => .ok [.schema inner]
  | .ref _ _ | .enum _ _ | .primitive _ _ => .ok []
  | .array _ element => .ok [.schema element]
  | .object _ entries => do
    let members ← membersOf entries
    let declared ← declaredIn entries
    return members.1.map .member ++ declared.1.map propertyTask

def entered (tasks : List Task) : List String :=
  tasks.filterMap fun
    | .leave name => some name
    | _ => none

theorem entered_map {γ : Type} {task : γ → Task}
    (quiet : ∀ x more, entered (task x :: more) = entered more) (xs : List γ) (rest : List Task) :
    entered (xs.map task ++ rest) = entered rest := by
  induction xs with
  | nil => rfl
  | cons x _ ih => exact (quiet x _).trans ih

def step (definitions : Except Failure Value) : List Task → Option (List Task)
  | .schema schema :: rest => (SchemaType.of schema >>= tasksOf).toOption.map (· ++ rest)
  | .member (.object member) :: rest =>
    match (Key.text "$ref").lookup member with
    | none => some (.schema (.object member) :: rest)
    | some reference =>
      match find definitions reference with
      -- The mark lies below the tasks of the definition and is taken away when these are done.
      | .ok (name, definition) =>
        if name ∈ entered rest then none else some (.schema definition :: .leave name :: rest)
      | .error _ => none
  | .leave _ :: rest => some rest
  | _ => none

abbrev Leads (definitions : Except Failure Value) : List Task → List Task → Prop :=
  Relation.ReflTransGen fun before after => step definitions before = some after

/-- The walk has come to a member whose definition is being converted. -/
def Reenters (definitions : Except Failure Value) (tasks : List Task) : Prop :=
  ∃ member reference name definition rest, tasks = .member (.object member) :: rest ∧
    (Key.text "$ref").lookup member = some reference ∧
    find definitions reference = .ok (name, definition) ∧ name ∈ entered rest

def Refuses (definitions : Except Failure Value) (failure : Failure) (tasks : List Task) : Prop :=
  ∃ member reference rest, tasks = .member (.object member) :: rest ∧
    (Key.text "$ref").lookup member = some reference ∧ find definitions reference = .error failure

def Halts (definitions : Except Failure Value) (failure : Failure) (tasks : List Task) : Prop :=
  (failure = .circular ∧ Reenters definitions tasks) ∨ Refuses definitions failure tasks

variable {definitions : Except Failure Value}

theorem Reenters.step_eq_none {tasks : List Task} (again : Reenters definitions tasks) :
    step definitions tasks = none := by
  obtain ⟨member, reference, name, definition, rest, rfl, refers, found, within⟩ := again
  simp [step, refers, found, within]

theorem Halts.step_eq_none {failure : Failure} {tasks : List Task}
    (halts : Halts definitions failure tasks) : step definitions tasks = none := by
  rcases halts with ⟨_, again⟩ | ⟨member, reference, rest, rfl, refers, found⟩
  · exact again.step_eq_none
  · simp [step, refers, found]

theorem Leads.unique {tasks first second : List Task} (leads : Leads definitions tasks first)
    (other : Leads definitions tasks second) (halted : step definitions first = none)
    (otherHalted : step definitions second = none) : first = second := by
  have right : Relator.RightUnique fun before after => step definitions before = some after :=
    fun _ _ _ left right => Option.some.inj (left.symm.trans right)
  -- One of two places on a walk comes after the other, and nothing comes after a place where it halts.
  rcases Relation.ReflTransGen.total_of_right_unique right leads other with further | further
  · rcases further.cases_head with same | ⟨next, stepped, _⟩
    · exact same
    · rw [halted] at stepped
      cases stepped
  · rcases further.cases_head with same | ⟨next, stepped, _⟩
    · exact same.symm
    · rw [otherHalted] at stepped
      cases stepped

/-- How the walk through some tasks ends as an outcome does: it gets through to the rest of the tasks, with a
result of which something holds, or it halts with the failure. -/
def Ends {α : Type} (definitions : Except Failure Value) (tasks rest : List Task) (Q : α → Prop) :
    Except Failure α → Prop
  | .ok a => Q a ∧ Leads definitions tasks rest
  | .error failure => ∃ last, Leads definitions tasks last ∧ Halts definitions failure last

namespace Ends

variable {α β : Type} {tasks middle rest : List Task} {Q : α → Prop} {S : β → Prop}

theorem done {a : α} (holds : Q a) : Ends definitions rest rest Q (.ok a) := ⟨holds, .refl⟩

theorem halt {failure : Failure} (halts : Halts definitions failure tasks) :
    Ends definitions tasks rest Q (.error failure) := ⟨tasks, .refl, halts⟩

theorem after {x : Except Failure α} (leads : Leads definitions tasks middle)
    (ends : Ends definitions middle rest Q x) : Ends definitions tasks rest Q x := by
  cases x with
  | ok a => exact ⟨ends.1, leads.trans ends.2⟩
  | error failure =>
    obtain ⟨last, further, halts⟩ := ends
    exact ⟨last, leads.trans further, halts⟩

theorem before {x : Except Failure α} (ends : Ends definitions tasks middle Q x)
    (leads : Leads definitions middle rest) : Ends definitions tasks rest Q x := by
  cases x with
  | ok a => exact ⟨ends.1, ends.2.trans leads⟩
  | error failure => exact ends

theorem bind {x : Except Failure α} {f : α → Except Failure β} (first : Ends definitions tasks middle Q x)
    (next : ∀ a, Q a → Ends definitions middle rest S (f a)) :
    Ends definitions tasks rest S (x >>= f) := by
  cases x with
  | ok a => exact (next a first.1).after first.2
  | error failure => exact first

theorem mapM {γ : Type} {task : γ → Task} {f : γ → Except Failure α} {xs : List γ}
    (quiet : ∀ x more, entered (task x :: more) = entered more)
    (each : ∀ x ∈ xs, ∀ more, entered more = entered rest →
      Ends definitions (task x :: more) more Q (f x)) :
    Ends definitions (xs.map task ++ rest) rest (fun bs => ∀ b ∈ bs, Q b) (xs.mapM f) := by
  induction xs with
  | nil => exact done (List.forall_mem_nil _)
  | cons x others ih =>
    -- The tasks still to come put no mark above those of the rest.
    rw [List.mapM_cons]
    refine (each x (by simp) _ (entered_map quiet others rest)).bind fun b holds => ?_
    refine (ih fun other among => each other (by simp [among])).bind fun bs held => ?_
    exact done (List.forall_mem_cons.mpr ⟨holds, held⟩)

end Ends

end Walk

namespace SchemaType

/-- The walk from one schema comes to another, be it in a definition that is referred to. -/
abbrev Within (definitions : Except Failure Value) : Value → Value → Prop :=
  Relation.ReflTransGen fun schema inner => Part schema inner ∨
    ∃ reference name, Refers schema reference ∧ find definitions reference = .ok (name, inner)

def ShapedWithin (definitions : Except Failure Value) (schema : Value) : Prop :=
  ∀ inner, Within definitions schema inner → ∃ entries, inner = .object entries ∧ Shaped entries

namespace ShapedWithin

variable {definitions : Except Failure Value} {schema inner definition reference : Value} {name : String}

theorem of_part (shaped : ShapedWithin definitions schema) (part : Part schema inner) :
    ShapedWithin definitions inner := by
  intro last within
  exact shaped last (.head (.inl part) within)

theorem of_refers (shaped : ShapedWithin definitions schema) (refers : Refers schema reference)
    (found : find definitions reference = .ok (name, definition)) : ShapedWithin definitions definition := by
  intro last within
  exact shaped last (.head (.inr ⟨reference, name, refers, found⟩) within)

theorem intro {entries : List (Key × Value)} (here : Shaped entries)
    (parts : ∀ inner, Part (.object entries) inner → ShapedWithin definitions inner)
    (references : ∀ reference name definition, Refers (.object entries) reference →
      find definitions reference = .ok (name, definition) → ShapedWithin definitions definition) :
    ShapedWithin definitions (.object entries) := by
  intro last within
  rcases within.cases_head with rfl | ⟨next, part | ⟨reference, name, refers, found⟩, further⟩
  · exact ⟨entries, rfl, here⟩
  · exact parts next part last further
  · exact references reference name next refers found last further

end ShapedWithin

end SchemaType

namespace Dialect

open SchemaType Walk
open TypeExpr (AllNamed)

variable {definitions : Except Failure Value}

/-- The marks on the way are those of the definitions that are not left. -/
def MarkedMissing (definitions : Except Failure Value) (available : List (Key × Value))
    (tasks : List Task) : Prop :=
  ∀ name, definitionAt definitions name ≠ none →
    (name ∈ entered tasks ↔ (Key.text name).lookup available = none)

theorem MarkedMissing.enter {available : List (Key × Value)} {tasks : List Task}
    (marked : MarkedMissing definitions available tasks) (name : String) :
    MarkedMissing definitions ((Key.text name).without available) (.leave name :: tasks) := by
  intro other defined
  have enters : entered (.leave name :: tasks) = name :: entered tasks := rfl
  rw [Key.lookup_without_text, enters, List.mem_cons, marked other defined]
  by_cases same : other = name <;> simp [same]

theorem memberProperties_ends (dialect : Dialect) {available member : List (Key × Value)}
    (remaining : Remaining definitions available) {rest : List Task}
    (marked : MarkedMissing definitions available rest)
    (inline : (Key.text "$ref").lookup member = none →
      Ends definitions (.schema (.object member) :: rest) rest (AllNamed ·.properties)
        (dialect.convert definitions available (.object member)))
    (referred : ∀ reference name definition, (Key.text "$ref").lookup member = some reference →
      find definitions reference = .ok (name, definition) →
      (Key.text name).lookup available = some definition →
      Ends definitions (.schema definition :: .leave name :: rest) (.leave name :: rest)
        (AllNamed ·.properties)
        (dialect.convert definitions ((Key.text name).without available) definition)) :
    Ends definitions (.member (.object member) :: rest) rest AllNamed
      (memberProperties (dialect.convert definitions available)
        (dialect.convertReferred definitions available) (.object member)) := by
  refine Ends.bind (Q := (AllNamed ·.properties)) ?_ fun type named => .done named
  unfold memberType
  cases refers : (Key.text "$ref").lookup member with
  | none =>
    refine (inline refers).after (.single ?_)
    simp [step, refers]
  | some reference =>
    dsimp only
    rw [convertReferred_eq dialect remaining]
    cases found : find definitions reference with
    | error failure => exact .halt (.inr ⟨member, reference, rest, rfl, refers, found⟩)
    | ok both =>
      obtain ⟨name, definition⟩ := both
      obtain ⟨_, _, _, defined⟩ := find_eq_ok.mp found
      have missing := marked name (by simp [defined])
      rw [Outcome.ok_bind]
      cases left : (Key.text name).lookup available with
      | none =>
        exact .halt (.inl ⟨rfl, member, reference, name, definition, rest, rfl, refers, found,
          missing.mpr left⟩)
      | some other =>
        obtain rfl := remaining.eq_of_find found left
        have fresh : name ∉ entered rest := fun within => by simp [missing.mp within] at left
        refine Ends.after (.single ?_) <|
          (referred reference name other refers found left).before (.single rfl)
        simp [step, refers, found, fresh]

theorem declaredProperties_ends {within : Value → Except Failure TypeExpr} {declared : List (Key × Value)}
    (texts : ∀ property ∈ declared, ∃ name, property.1 = .text name) {rest : List Task}
    (each : ∀ property ∈ declared, ∀ more, entered more = entered rest →
      Ends definitions (propertyTask property :: more) more (AllNamed ·.properties) (within property.2))
    (required : List Key) :
    Ends definitions (declared.map propertyTask ++ rest) rest AllNamed
      (declared.mapM (declaredProperty within required)) := by
  refine .mapM (fun _ _ => rfl) fun property among more same => ?_
  obtain ⟨name, text⟩ := texts property among
  refine (each property among more same).bind fun type _ => ?_
  exact .done ⟨name, by rw [TypeExpr.asProperty, text]⟩

theorem object_ends (dialect : Dialect) (description : Value) {inherited : List (List TypeExpr)}
    {own : List TypeExpr} (named : ∀ properties ∈ inherited, AllNamed properties) (held : AllNamed own)
    (rest : List Task) :
    Ends definitions rest rest (AllNamed ·.properties)
      (dialect.object description (inherited.flatten ++ own)) := by
  have all := TypeExpr.AllNamed.flatten_append named held
  obtain ⟨type, written, same⟩ := dialect.object_eq_ok description all
  rw [written]
  exact .done (same ▸ all)

/-- Through schemas of the expected shape the walk ends as the conversion does, whatever is to be done
afterwards. -/
theorem convert_ends (dialect : Dialect) (available : List (Key × Value))
    (remaining : Remaining definitions available) (schema : Value)
    (shaped : ShapedWithin definitions schema) (rest : List Task)
    (marked : MarkedMissing definitions available rest) :
    Ends definitions (.schema schema :: rest) rest (AllNamed ·.properties)
      (dialect.convert definitions available schema) := by
  revert shaped rest
  refine conversion_induction ?_ available remaining schema
  intro available schema remaining parts references shaped rest marked
  -- The shape of the schema says that it asks for a type, and the walk starts with what that type needs.
  obtain ⟨entries, rfl, shape⟩ := shaped schema .refl
  obtain ⟨type, asked⟩ := shape.ofEntries_eq_ok
  replace asked : SchemaType.of (.object entries) = .ok type := asked
  have start {tasks : List Task} (listed : tasksOf type = .ok tasks) :
      Leads definitions (.schema (.object entries) :: rest) (tasks ++ rest) := by
    refine .single ?_
    rw [step, asked, Outcome.ok_bind, listed]
    rfl
  rw [convert_eq_activation, activation, asked, Outcome.ok_bind]
  cases type with
  | wrapped inner =>
    exact (parts inner (.wrapped asked) (shaped.of_part (.wrapped asked)) rest marked).after (start rfl)
  | ref | enum => exact (Ends.done (List.forall_mem_nil _)).after (start rfl)
  | primitive description which => cases which <;> exact (Ends.done (List.forall_mem_nil _)).after (start rfl)
  | array description element =>
    have part : Part (.object entries) element := .element asked
    refine Ends.after (start rfl) ((parts element part (shaped.of_part part) rest marked).bind fun _ _ => ?_)
    exact .done (List.forall_mem_nil _)
  | object description own =>
    -- Members and properties are looked into with the same definitions left and the same marks, so what holds
    -- of the marks below the schema holds at each of them.
    cases of_object asked
    obtain ⟨members, composed, objects⟩ := shape.membersOf_eq_ok
    obtain ⟨required, keys⟩ := shape.requiredKeys_eq_ok
    obtain ⟨declared, listed, texts⟩ := shape.declaredIn_eq_ok
    have known (more : List Task) (same : entered more = entered rest) :
        MarkedMissing definitions available more := fun name defined => same ▸ marked name defined
    refine Ends.after (start (by rw [tasksOf, composed, listed]; rfl)) ?_
    dsimp only
    rw [List.append_assoc, composed, Outcome.ok_bind]
    have inheritedEnd : Ends definitions (members.1.map .member ++ (declared.1.map propertyTask ++ rest))
        (declared.1.map propertyTask ++ rest) (fun inherited => ∀ properties ∈ inherited, AllNamed properties)
        (members.1.mapM (memberProperties (dialect.convert definitions available)
          (dialect.convertReferred definitions available))) := by
      refine .mapM (fun _ _ => rfl) fun member among more same => ?_
      rw [entered_map (fun _ _ => rfl)] at same
      obtain ⟨member, rfl, _⟩ := objects member among
      refine dialect.memberProperties_ends remaining (known more same) (fun free => ?_) ?_
      · have part : Part (.object entries) (.object member) := .member asked composed among free
        exact parts _ part (shaped.of_part part) more (known more same)
      intro reference name definition refers found left
      have refer : Refers (.object entries) reference := .member asked composed among refers
      exact references reference name definition refer found left (shaped.of_refers refer found) _
        ((known more same).enter name)
    refine inheritedEnd.bind fun inherited named => ?_
    rw [keys, Outcome.ok_bind, listed, Outcome.ok_bind]
    refine (declaredProperties_ends texts (fun property among more same => ?_) required).bind
      fun own held => dialect.object_ends description named held rest
    have part : Part (.object entries) property.2 := .property asked listed among
    exact parts _ part (shaped.of_part part) more (known more same)

end Dialect

end ClientGen
