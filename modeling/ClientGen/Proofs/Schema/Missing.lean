import ClientGen.Proofs.Schema.Recursion

/-! Definitions that are missing. The walk of a conversion meets references in an order of its own: members before
properties, and what is in a definition right after the reference to it. Where no cycle can be reached, the
conversion of schemas of the expected shape fails only at references, with the first one that leads nowhere. -/

set_option autoImplicit false

namespace ClientGen

namespace Walk

open SchemaType

/-- The references that the walk through some tasks meets. It goes into the definitions there are and passes
over those that are missing. -/
inductive Passes (definitions : Except Failure Value) : List Task → List String → Prop where
  | done : Passes definitions [] []
  | schema {schema : Value} {type : SchemaType} {tasks rest : List Task} {paths more : List String} :
      of schema = .ok type → tasksOf type = .ok tasks → Passes definitions tasks paths →
      Passes definitions rest more → Passes definitions (.schema schema :: rest) (paths ++ more)
  | inline {member : List (Key × Value)} {rest : List Task} {paths more : List String} :
      (Key.text "$ref").lookup member = none → Passes definitions [.schema (.object member)] paths →
      Passes definitions rest more → Passes definitions (.member (.object member) :: rest) (paths ++ more)
  | defined {member : List (Key × Value)} {path : String} {definition : Value} {rest : List Task}
      {paths more : List String} :
      (Key.text "$ref").lookup member = some (.text path) →
      definitionAt definitions (refName path) = some definition →
      Passes definitions [.schema definition] paths → Passes definitions rest more →
      Passes definitions (.member (.object member) :: rest) (path :: paths ++ more)
  | missing {member : List (Key × Value)} {path : String} {rest : List Task} {more : List String} :
      (Key.text "$ref").lookup member = some (.text path) →
      definitionAt definitions (refName path) = none → Passes definitions rest more →
      Passes definitions (.member (.object member) :: rest) (path :: more)

namespace Passes

variable {definitions : Except Failure Value} {tasks rest : List Task} {paths more : List String}

theorem append (first : Passes definitions tasks paths) (second : Passes definitions rest more) :
    Passes definitions (tasks ++ rest) (paths ++ more) := by
  induction first with
  | done => exact second
  | schema asked listed within _ _ ih =>
    rw [List.append_assoc]
    exact .schema asked listed within ih
  | inline free within _ _ ih =>
    rw [List.append_assoc]
    exact .inline free within ih
  | defined refers found within _ _ ih =>
    rw [List.append_assoc]
    exact .defined refers found within ih
  | missing refers nowhere _ ih => exact .missing refers nowhere ih

theorem unique (first : Passes definitions tasks paths) (second : Passes definitions tasks more) :
    paths = more := by
  -- The rules exclude each other by whether there is a reference and where it leads.
  induction first generalizing more with
  | done =>
    cases second
    rfl
  | schema asked listed _ _ ihWithin ih =>
    cases second with
    | schema other otherListed within others =>
      obtain rfl := Except.ok.inj (asked.symm.trans other)
      obtain rfl := Except.ok.inj (listed.symm.trans otherListed)
      rw [ihWithin within, ih others]
  | inline free _ _ ihWithin ih =>
    cases second with
    | inline _ within others => rw [ihWithin within, ih others]
    | defined refers => simp [free] at refers
    | missing refers => simp [free] at refers
  | defined refers found _ _ ihWithin ih =>
    cases second with
    | inline free => simp [refers] at free
    | defined other otherFound within others =>
      obtain rfl := Value.text.inj (Option.some.inj (refers.symm.trans other))
      obtain rfl := Option.some.inj (found.symm.trans otherFound)
      rw [ihWithin within, ih others]
    | missing other nowhere =>
      obtain rfl := Value.text.inj (Option.some.inj (refers.symm.trans other))
      simp [found] at nowhere
  | missing refers nowhere _ ih =>
    cases second with
    | inline free => simp [refers] at free
    | defined other found =>
      obtain rfl := Value.text.inj (Option.some.inj (refers.symm.trans other))
      simp [found] at nowhere
    | missing other _ others =>
      obtain rfl := Value.text.inj (Option.some.inj (refers.symm.trans other))
      rw [ih others]

theorem of_schema {schema : Value} {type : SchemaType} (asked : of schema = .ok type)
    (listed : tasksOf type = .ok tasks) (within : Passes definitions tasks paths) :
    Passes definitions [.schema schema] paths := by
  simpa using Passes.schema asked listed within .done

end Passes

def isMissing (definitions : Except Failure Value) (path : String) : Bool :=
  (definitionAt definitions (refName path)).isNone

/-- The first of the references that is missing is what the outcome fails with; if none is, there is a result of
which something holds. -/
def DecidedBy {α : Type} (definitions : Except Failure Value) (paths : List String) (Q : α → Prop)
    (outcome : Except Failure α) : Prop :=
  match paths.find? (isMissing definitions) with
  | some path => outcome = .error (.unresolved path)
  | none => ∃ a, outcome = .ok a ∧ Q a

namespace DecidedBy

variable {α β γ : Type} {definitions : Except Failure Value} {paths more : List String} {Q : α → Prop}
  {S : β → Prop}

theorem ok {a : α} (holds : Q a) : DecidedBy definitions [] Q (.ok a) := ⟨a, rfl, holds⟩

theorem bind {x : Except Failure α} {f : α → Except Failure β} (first : DecidedBy definitions paths Q x)
    (next : ∀ a, Q a → DecidedBy definitions more S (f a)) :
    DecidedBy definitions (paths ++ more) S (x >>= f) := by
  unfold DecidedBy at first
  rw [DecidedBy, List.find?_append]
  cases found : paths.find? (isMissing definitions) with
  | some path =>
    rw [found] at first
    dsimp only at first
    rw [first]
    rfl
  | none =>
    rw [found] at first
    obtain ⟨a, same, holds⟩ := first
    rw [same]
    exact next a holds

theorem map {x : Except Failure α} {f : α → β} (first : DecidedBy definitions paths Q x)
    (next : ∀ a, Q a → S (f a)) : DecidedBy definitions paths S (do return f (← x)) := by
  rw [← List.append_nil paths]
  exact first.bind fun a holds => .ok (next a holds)

theorem eq_error_iff {x : Except Failure α} (decided : DecidedBy definitions paths Q x) {failure : Failure} :
    x = .error failure ↔
      ∃ path, paths.find? (isMissing definitions) = some path ∧ failure = .unresolved path := by
  unfold DecidedBy at decided
  cases found : paths.find? (isMissing definitions) with
  | some path =>
    rw [found] at decided
    dsimp only at decided
    simp [decided, eq_comm]
  | none =>
    rw [found] at decided
    obtain ⟨a, rfl, _⟩ := decided
    simp

theorem fails_iff {x : Except Failure α} (decided : DecidedBy definitions paths Q x) :
    (∃ failure, x = .error failure) ↔ ∃ path ∈ paths, isMissing definitions path = true := by
  rw [← List.find?_isSome, Option.isSome_iff_exists]
  constructor
  · rintro ⟨failure, failed⟩
    obtain ⟨path, first, _⟩ := decided.eq_error_iff.mp failed
    exact ⟨path, first⟩
  · rintro ⟨path, first⟩
    exact ⟨_, decided.eq_error_iff.mpr ⟨path, first, rfl⟩⟩

theorem mapM {task : γ → Task} {f : γ → Except Failure α} {xs : List γ}
    (each : ∀ x ∈ xs, ∃ paths, Passes definitions [task x] paths ∧ DecidedBy definitions paths Q (f x)) :
    ∃ paths, Passes definitions (xs.map task) paths ∧
      DecidedBy definitions paths (fun bs => ∀ b ∈ bs, Q b) (xs.mapM f) := by
  induction xs with
  | nil => exact ⟨[], .done, .ok (List.forall_mem_nil _)⟩
  | cons x others ih =>
    obtain ⟨paths, here, decided⟩ := each x (by simp)
    obtain ⟨more, later, decidedLater⟩ := ih fun other among => each other (by simp [among])
    refine ⟨paths ++ more, here.append later, ?_⟩
    rw [List.mapM_cons]
    refine decided.bind fun b holds => decidedLater.map fun bs held => ?_
    exact List.forall_mem_cons.mpr ⟨holds, held⟩

end DecidedBy

end Walk

namespace Dialect

open SchemaType Walk
open TypeExpr (AllNamed)

variable {definitions : Except Failure Value}

theorem find_text {known : List (Key × Value)} (listed : definitions = .ok (.object known)) (path : String) :
    find definitions (.text path) = match definitionAt definitions (refName path) with
      | some definition => .ok (refName path, definition)
      | none => .error (.unresolved path) := by
  subst listed
  have same : definitionAt (.ok (.object known)) (refName path) = (Key.text (refName path)).lookup known := rfl
  cases found : (Key.text (refName path)).lookup known <;>
    simp [find, Value.has, Value.get?, same, found]

/-- The references that the walk through a schema meets decide what becomes of it. -/
def Settled (definitions : Except Failure Value) (schema : Value) (outcome : Except Failure TypeExpr) : Prop :=
  ∃ paths, Passes definitions [.schema schema] paths ∧ DecidedBy definitions paths (AllNamed ·.properties) outcome

section
variable {within behind : Value → Except Failure TypeExpr}

theorem memberProperties_decided {member : List (Key × Value)}
    (text : ∀ reference, (Key.text "$ref").lookup member = some reference → ∃ path, reference = .text path)
    (inline : (Key.text "$ref").lookup member = none →
      Settled definitions (.object member) (within (.object member)))
    (nowhere : ∀ path, (Key.text "$ref").lookup member = some (.text path) →
      definitionAt definitions (refName path) = none → behind (.text path) = .error (.unresolved path))
    (defined : ∀ path definition, (Key.text "$ref").lookup member = some (.text path) →
      definitionAt definitions (refName path) = some definition →
      Settled definitions definition (behind (.text path))) :
    ∃ paths, Passes definitions [.member (.object member)] paths ∧
      DecidedBy definitions paths AllNamed (memberProperties within behind (.object member)) := by
  rw [memberProperties, memberType]
  cases refers : (Key.text "$ref").lookup member with
  | none =>
    obtain ⟨paths, met, decided⟩ := inline refers
    exact ⟨paths, by simpa using Passes.inline refers met .done, decided.map fun _ named => named⟩
  | some reference =>
    obtain ⟨path, rfl⟩ := text reference refers
    cases found : definitionAt definitions (refName path) with
    | none =>
      refine ⟨[path], .missing refers found .done, ?_⟩
      simp [DecidedBy, isMissing, found, nowhere path refers found]
    | some definition =>
      obtain ⟨paths, met, decided⟩ := defined path definition refers found
      refine ⟨path :: paths, by simpa using Passes.defined refers found met .done, ?_⟩
      have passed : DecidedBy definitions (path :: paths) (AllNamed ·.properties) (behind (.text path)) := by
        simpa [DecidedBy, isMissing, found] using decided
      exact passed.map fun _ named => named

theorem declaredProperties_decided {declared : List (Key × Value)}
    (texts : ∀ property ∈ declared, ∃ name, property.1 = .text name)
    (each : ∀ property ∈ declared, Settled definitions property.2 (within property.2)) (required : List Key) :
    ∃ paths, Passes definitions (declared.map propertyTask) paths ∧
      DecidedBy definitions paths AllNamed (declared.mapM (declaredProperty within required)) := by
  refine DecidedBy.mapM fun property among => ?_
  obtain ⟨paths, met, decided⟩ := each property among
  obtain ⟨name, text⟩ := texts property among
  exact ⟨paths, met, decided.map fun type _ => ⟨name, by rw [TypeExpr.asProperty, text]⟩⟩

theorem activation_settled (dialect : Dialect) {entries : List (Key × Value)} (shape : Shaped entries)
    (parts : ∀ inner, Part (.object entries) inner → Settled definitions inner (within inner))
    (nowhere : ∀ path, definitionAt definitions (refName path) = none →
      behind (.text path) = .error (.unresolved path))
    (references : ∀ path definition, Refers (.object entries) (.text path) →
      definitionAt definitions (refName path) = some definition →
      Settled definitions definition (behind (.text path))) :
    Settled definitions (.object entries) (dialect.activation within behind (.object entries)) := by
  obtain ⟨type, asked⟩ := shape.ofEntries_eq_ok
  replace asked : SchemaType.of (.object entries) = .ok type := asked
  rw [activation, asked, Outcome.ok_bind]
  cases type with
  | wrapped inner =>
    obtain ⟨paths, met, decided⟩ := parts inner (.wrapped asked)
    exact ⟨paths, .of_schema asked rfl met, decided⟩
  | ref | enum => exact ⟨[], .of_schema asked rfl .done, .ok (List.forall_mem_nil _)⟩
  | primitive description which =>
    refine ⟨[], .of_schema asked rfl .done, ?_⟩
    cases which <;> exact .ok (List.forall_mem_nil _)
  | array description element =>
    obtain ⟨paths, met, decided⟩ := parts element (.element asked)
    exact ⟨paths, .of_schema asked rfl met, decided.map fun _ _ => List.forall_mem_nil _⟩
  | object description own =>
    cases of_object asked
    obtain ⟨members, composed, objects⟩ := shape.membersOf_eq_ok
    obtain ⟨required, keys⟩ := shape.requiredKeys_eq_ok
    obtain ⟨declared, declares, texts⟩ := shape.declaredIn_eq_ok
    obtain ⟨paths, met, inherited⟩ : ∃ paths, Passes definitions (members.1.map .member) paths ∧
        DecidedBy definitions paths (fun inherited => ∀ properties ∈ inherited, AllNamed properties)
          (members.1.mapM (memberProperties within behind)) := by
      refine DecidedBy.mapM fun member among => ?_
      obtain ⟨member, rfl, text⟩ := objects member among
      refine memberProperties_decided text (fun free => ?_) (fun path _ => nowhere path) ?_
      · exact parts _ (.member asked composed among free)
      · exact fun path definition refers => references path definition (.member asked composed among refers)
    obtain ⟨more, metLater, properties⟩ := declaredProperties_decided texts
      (fun property among => parts property.2 (.property asked declares among)) required
    refine ⟨paths ++ (more ++ []), ?_, ?_⟩
    · rw [List.append_nil]
      exact .of_schema asked (by rw [tasksOf, composed, declares]; rfl) (met.append metLater)
    · dsimp only
      rw [composed, Outcome.ok_bind, keys, declares]
      refine inherited.bind fun inherited named => properties.bind fun own held => ?_
      have all := AllNamed.flatten_append named held
      obtain ⟨type, written, same⟩ := dialect.object_eq_ok description all
      rw [written]
      exact .ok (same ▸ all)

end

/-- While all definitions that can be reached are left, a conversion without cycles is decided by the references
that the walk meets. -/
theorem convert_settled (dialect : Dialect) {known : List (Key × Value)}
    (listed : definitions = .ok (.object known)) (available : List (Key × Value))
    (remaining : Remaining definitions available) (schema : Value) (acyclic : ¬ ReachesCycle definitions schema)
    (left : ∀ name, Reaches definitions schema name → definitionAt definitions name ≠ none →
      (Key.text name).lookup available ≠ none)
    (shaped : ShapedWithin definitions schema) :
    Settled definitions schema (dialect.convert definitions available schema) := by
  -- The induction is on the definitions that are left; each reference that is followed takes one away.
  revert shaped
  refine acyclic_induction ?_ available remaining schema acyclic left
  intro available schema remaining parts references shaped
  obtain ⟨entries, rfl, shape⟩ := shaped schema .refl
  rw [convert_eq_activation]
  refine dialect.activation_settled shape (fun inner part => ?_) (fun path nowhere => ?_) ?_
  · exact parts inner part (shaped.of_part part)
  · rw [convertReferred_eq dialect remaining, find_text listed, nowhere]
    rfl
  · intro path definition refers found
    have sought : find definitions (.text path) = .ok (refName path, definition) := by
      rw [find_text listed, found]
    obtain ⟨still, settled⟩ := references _ _ definition refers sought
    rw [convertReferred_eq dialect remaining, sought, Outcome.ok_bind, still]
    exact settled (shaped.of_refers refers sought)

/-- Where all schemas have the expected shape and no cycle can be reached, the walk meets references in one order,
and the conversion fails exactly when one of these is missing, with the first that is. A schema that is itself a
reference is converted whatever the reference leads to. -/
theorem typeOf_fails_at_missing (dialect : Dialect) (document : Value) :
    (∀ (known : List (Key × Value)) (schema : Value), definitionsFor document = .ok (.object known) →
      ShapedWithin (definitionsFor document) schema → ¬ ReachesCycle (definitionsFor document) schema →
      ∃ paths, (∀ other, Passes (definitionsFor document) [.schema schema] other ↔ other = paths) ∧
        ((∃ failure, dialect.typeOf document schema = .error failure) ↔
          ∃ path ∈ paths, isMissing (definitionsFor document) path = true) ∧
        ∀ failure, dialect.typeOf document schema = .error failure ↔
          ∃ path, paths.find? (isMissing (definitionsFor document)) = some path ∧ failure = .unresolved path) ∧
    ∀ (entries : List (Key × Value)) (path : String), (Key.text "schema").lookup entries = none →
      (Key.text "$ref").lookup entries = some (.text path) →
      ∃ type, dialect.typeOf document (.object entries) = .ok type := by
  constructor
  · intro known schema listed shaped acyclic
    obtain ⟨paths, met, decided⟩ := dialect.convert_settled listed _ (.all _) schema acyclic
      (fun name _ defined => by rwa [lookup_entriesOf]) shaped
    refine ⟨paths, fun other => ⟨fun passes => passes.unique met, ?_⟩, decided.fails_iff, fun failure => ?_⟩
    · rintro rfl
      exact met
    · exact decided.eq_error_iff
  · intro entries path bare refers
    have asked : SchemaType.of (.object entries) =
        .ok (.ref (((Key.text "description").lookup entries).getD .null) (refName path)) := by
      simp [SchemaType.of, ofEntries, bare, refers, Value.asText]
    rw [typeOf, convert_eq_activation, activation, asked]
    exact ⟨_, rfl⟩

end Dialect

open SchemaType Walk Dialect

def lacking : Value := .object [(.text "definitions", .object [
  (.text "Known", withNext (composedOf "#/definitions/Gone"))])]

/-- The walk comes through the definition that there is to the one that is missing. A mention of that one is no
failure. -/
theorem Dialect.typeOf_fails_at_missing_lacking :
    ShapedWithin (definitionsFor lacking) (composedOf "#/definitions/Known") ∧
      ¬ ReachesCycle (definitionsFor lacking) (composedOf "#/definitions/Known") ∧
      flow.typeOf lacking (composedOf "#/definitions/Known") = .error (.unresolved "#/definitions/Gone") ∧
      ∃ type, flow.typeOf lacking (referenceTo "#/definitions/Gone") = .ok type := by
  have gone : refName "#/definitions/Gone" = "Gone" := by decide +kernel
  have shaped : ShapedWithin (definitionsFor lacking) (composedOf "#/definitions/Known") := by
    refine shapedWithin_composedOf fun definition known => ?_
    cases known
    refine shapedWithin_withNext (shapedWithin_composedOf fun definition unknown => ?_)
    cases unknown
  -- Links lead to the missing definition only, and nothing is linked to from there.
  have linked {first second : String} (link : Linked (definitionsFor lacking) first second) :
      first = "Known" ∧ second = "Gone" := by
    obtain ⟨schema, defined, meets⟩ := link
    have one : first = "Known" ∧ schema = withNext (composedOf "#/definitions/Gone") := by
      by_cases same : first = "Known"
      · subst same
        cases defined
        exact ⟨rfl, rfl⟩
      · change (Key.text first).lookup [(.text "Known", withNext (composedOf "#/definitions/Gone"))] = _ at defined
        simp [Key.lookup, same] at defined
    obtain ⟨rfl, rfl⟩ := one
    exact ⟨rfl, (meetsName_composedOf (meetsName_withNext meets)).trans gone⟩
  have acyclic : ¬ ReachesCycle (definitionsFor lacking) (composedOf "#/definitions/Known") := by
    rintro ⟨name, _, cycle⟩
    obtain ⟨_, link, _⟩ := Relation.TransGen.head'_iff.mp cycle
    obtain ⟨_, _, back⟩ := Relation.TransGen.tail'_iff.mp cycle
    obtain ⟨rfl, _⟩ := linked link
    exact absurd (linked back).2 (by decide)
  have last : Passes (definitionsFor lacking) [.member (referenceTo "#/definitions/Gone")]
      ["#/definitions/Gone"] := .missing rfl rfl .done
  have inside : Passes (definitionsFor lacking) [.schema (withNext (composedOf "#/definitions/Gone"))]
      ["#/definitions/Gone"] :=
    .of_schema (of_withNext _) rfl (Passes.of_schema (of_composedOf _) rfl last)
  have first : Passes (definitionsFor lacking) [.member (referenceTo "#/definitions/Known")]
      ["#/definitions/Known", "#/definitions/Gone"] := .defined rfl rfl inside .done
  have met : Passes (definitionsFor lacking) [.schema (composedOf "#/definitions/Known")]
      ["#/definitions/Known", "#/definitions/Gone"] := .of_schema (of_composedOf _) rfl first
  obtain ⟨paths, only, _, fails⟩ := (typeOf_fails_at_missing flow lacking).1 _ _ rfl shaped acyclic
  obtain rfl := (only _).mp met
  have missing : List.find? (isMissing (definitionsFor lacking)) ["#/definitions/Known", "#/definitions/Gone"] =
      some "#/definitions/Gone" := by decide +kernel
  exact ⟨shaped, acyclic, (fails _).mpr ⟨_, missing, rfl⟩,
    (typeOf_fails_at_missing flow lacking).2 _ _ rfl rfl⟩

end ClientGen
