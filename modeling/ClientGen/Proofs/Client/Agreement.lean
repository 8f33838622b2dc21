import ClientGen.Client.View
import ClientGen.Proofs.Document.Agreement
import ClientGen.Proofs.Outcome

/-! Which entries of a document a part of its view depends on: documents that agree on those entries have
the same part. -/

set_option autoImplicit false

namespace ClientGen

open Outcome (Related)
open Value (AgreeOutside)

variable {apart : List String} {first second : Value}

theorem Dialect.typeOf_congr (agree : AgreeOutside apart first second) (definitions : "definitions" ∉ apart)
    (dialect : Dialect) (schema : Value) :
    dialect.typeOf first schema = dialect.typeOf second schema := by
  have read {document : Value} (object : ∃ entries, document = .object entries) :
      SchemaType.definitionsFor document = SchemaType.definitionsOf document := by
    obtain ⟨entries, rfl⟩ := object
    cases entries <;> rfl
  unfold typeOf
  rw [read agree.first_object, read agree.second_object, SchemaType.definitionsOf,
    SchemaType.definitionsOf, agree.field_eq definitions]

namespace Security

theorem ofOperation_congr (agree : AgreeOutside apart first second) (security : "security" ∉ apart)
    (schemes : "securityDefinitions" ∉ apart) (operation : Value) :
    ofOperation first operation = ofOperation second operation := by
  unfold ofOperation
  rw [agree.has_eq security, agree.field_eq security, agree.field_eq schemes]

end Security

namespace Response

inductive SchemaOf (operation : Value) : Value → Prop where
  | entry {responses entry schema : Value} {entries : List (Key × Value)} {status : Key} :
      operation.field "responses" = .ok responses → (responses.orElse (.object [])).entries = .ok entries →
      (status, entry) ∈ entries → isSuccess status = true →
      (entry.orElse (.object [])).field "schema" = .ok schema → schema.isTrue = true →
      SchemaOf operation schema

theorem ofOperation_congr {operation : Value}
    (typed : ∀ schema, SchemaOf operation schema → ∀ dialect : Dialect,
      dialect.typeOf first schema = dialect.typeOf second schema) :
    ofOperation first operation = ofOperation second operation := by
  refine Related.eq <| .bind_same fun responses asked => .bind_same fun entries listed => ?_
  refine .foldlM rfl fun before _ same entry among => ?_
  obtain rfl := same
  dsimp only
  split
  case isFalse => exact .ok rfl
  case isTrue succeeds =>
    refine .bind_same fun schema described => ?_
    split
    case isFalse => exact .refl (fun _ => rfl) _
    case isTrue given =>
      have same := typed schema (.entry asked listed among succeeds described given)
      rw [same, same]
      exact .refl (fun _ => rfl) _

end Response

namespace Parameter

/-- The schemas that the parameters of an operation and of its path are converted from: an entry is one, or the
shared parameter that it refers to, unless clients are not to see it. -/
inductive SchemaOf (document own shared : Value) : Value → Prop where
  | entry {entries : List Value} {entry reference : Value} :
      listed own shared = .ok entries → entry ∈ entries → isExcluded entry = .ok false →
      entry.field "$ref" = .ok reference → (∀ path, reference ≠ .text path) → SchemaOf document own shared entry
  | referred {entries : List Value} {entry found : Value} {path : String} :
      listed own shared = .ok entries → entry ∈ entries → isExcluded entry = .ok false →
      entry.field "$ref" = .ok (.text path) → resolve document path = .ok found → isExcluded found = .ok false →
      SchemaOf document own shared found

theorem ofEntry_congr {entry : Value}
    (typed : ∀ dialect : Dialect, dialect.typeOf first entry = dialect.typeOf second entry) :
    ofEntry first entry = ofEntry second entry := by
  unfold ofEntry
  simp only [typed]

theorem contribution_congr (agree : AgreeOutside apart first second) (parameters : "parameters" ∉ apart)
    {entry : Value}
    (own : isExcluded entry = .ok false → ∀ reference, entry.field "$ref" = .ok reference →
      (∀ path, reference ≠ .text path) → ofEntry first entry = ofEntry second entry)
    (referred : isExcluded entry = .ok false → ∀ path, entry.field "$ref" = .ok (.text path) →
      ∀ found, resolve first path = .ok found → isExcluded found = .ok false →
      ofEntry first found = ofEntry second found) :
    contribution first entry = contribution second entry := by
  have resolved (path : String) : resolve second path = resolve first path := by
    unfold resolve
    rw [agree.field_eq parameters]
  refine Related.eq <| .bind_same fun excluded asked => ?_
  cases excluded with
  | true => exact .ok rfl
  | false =>
    refine .bind_same fun reference refers => ?_
    cases reference with
    | text path =>
      dsimp only
      rw [resolved]
      refine .bind_same fun found names => .bind_same fun hidden told => ?_
      cases hidden with
      | true => exact .ok rfl
      | false =>
        rw [referred asked path refers found names told]
        exact .refl (fun _ => rfl) _
    | _ =>
      rw [own asked _ refers nofun]
      exact .refl (fun _ => rfl) _

theorem parse_congr (agree : AgreeOutside apart first second) (parameters : "parameters" ∉ apart)
    {own shared : Value}
    (typed : ∀ schema, SchemaOf first own shared schema → ∀ dialect : Dialect,
      dialect.typeOf first schema = dialect.typeOf second schema) :
    parse first own shared = parse second own shared := by
  refine Related.eq <| .bind_same fun entries listed => ?_
  refine Related.bind (R := List.Forall₂ Eq) (.mapM (List.forall₂_same.mpr fun entry among => ?_)) ?_
  · rw [contribution_congr agree parameters]
    · exact .refl (fun _ => rfl) _
    · intro shown reference refers other
      exact ofEntry_congr (typed entry (.entry listed among shown refers other))
    · intro shown path refers found names told
      exact ofEntry_congr (typed found (.referred listed among shown refers names told))
  · intro contributed others same
    rw [List.forall₂_eq_eq_eq] at same
    rw [same]
    exact .ok rfl

end Parameter

theorem headersOf_congr (agree : AgreeOutside apart first second) (produces : "produces" ∉ apart)
    (consumes : "consumes" ∉ apart) (operation : Value) :
    headersOf first operation = headersOf second operation := by
  unfold headersOf mediaHeader
  rw [agree.field_eq produces, agree.field_eq consumes]

namespace Operation

inductive SchemaOf (document : Value) (operation : Operation) : Value → Prop where
  | response {schema : Value} : Response.SchemaOf operation.details schema → SchemaOf document operation schema
  | parameter {own schema : Value} : operation.details.field "parameters" = .ok own →
      Parameter.SchemaOf document own operation.sharedParameters schema → SchemaOf document operation schema

/-- The entries of a document that methods are made from, besides its paths and definitions. -/
def sharedEntries : List String := ["security", "securityDefinitions", "parameters", "produces", "consumes"]

theorem method_congr_of (agree : AgreeOutside apart first second)
    (shared : ∀ name ∈ sharedEntries, name ∉ apart) {operation : Operation}
    (typed : ∀ schema, operation.SchemaOf first schema → ∀ dialect : Dialect,
      dialect.typeOf first schema = dialect.typeOf second schema)
    (name : String) (className : Option String) :
    operation.method first name className = operation.method second name className := by
  simp only [sharedEntries, List.forall_mem_cons] at shared
  obtain ⟨security, schemes, parameters, produces, consumes, _⟩ := shared
  simp only [method, Security.ofOperation_congr agree security schemes,
    Response.ofOperation_congr fun schema of => typed schema (.response of),
    headersOf_congr agree produces consumes]
  refine Related.eq <| .bind_same fun verb _ => .bind_same fun description _ => .bind_same fun summary _ => ?_
  refine .bind_same fun security _ => .bind_same fun response _ => .bind_same fun own listed => ?_
  rw [Parameter.parse_congr agree parameters fun schema of => typed schema (.parameter listed of)]
  exact .refl (fun _ => rfl) _

theorem method_congr (agree : AgreeOutside ["paths"] first second) (operation : Operation)
    (name : String) (className : Option String) :
    operation.method first name className = operation.method second name className :=
  method_congr_of agree (by decide)
    (fun schema _ dialect => Dialect.typeOf_congr agree (by decide) dialect schema) name className

end Operation

namespace View

def headerEntries : List String := ["swagger", "info", "schemes", "host", "basePath", "securityDefinitions"]

theorem header_congr_of (agree : AgreeOutside apart first second) (shared : ∀ name ∈ headerEntries, name ∉ apart)
    (target : String) (options : Options) : header first target options = header second target options := by
  simp only [headerEntries, List.forall_mem_cons] at shared
  obtain ⟨swagger, info, schemes, host, basePath, securityDefinitions, _⟩ := shared
  unfold header checkVersion domainOf
  rw [agree.field_eq swagger, agree.field_eq info, agree.field_eq schemes, agree.field_eq host,
    agree.field_eq basePath, agree.has_eq securityDefinitions]

theorem header_congr (agree : AgreeOutside ["paths"] first second) (target : String)
    (options : Options) : header first target options = header second target options :=
  header_congr_of agree (by decide) target options

theorem definitionsFor_congr (agree : AgreeOutside ["paths"] first second) (target : String) :
    definitionsFor first target = definitionsFor second target := by
  unfold definitionsFor SchemaType.definitionsOf
  rw [agree.field_eq (by decide : "definitions" ∉ _)]
  simp only [Dialect.typeOf_congr agree (by decide : "definitions" ∉ ["paths"])]

end View

end ClientGen
