import ClientGen.Proofs.Client.Assembly
import ClientGen.Proofs.Outcome
import ClientGen.Proofs.Schema.Names

/-! The types in a view: those of its parameters, responses and definitions. Each is the type of some schema, in
the dialect that it is written in. -/

set_option autoImplicit false

namespace ClientGen

open Outcome (Yields)

def Parameter.typeIn (parameter : Parameter) : Dialect → TypeExpr
  | .typescript => parameter.tsType
  | .flow => parameter.flowType

def Response.typeIn (response : Response) : Dialect → Option TypeExpr
  | .typescript => response.tsType
  | .flow => response.flowType

def Definition.typeIn (definition : Definition) : Dialect → TypeExpr
  | .typescript => definition.tsType
  | .flow => definition.flowType

def Method.types (dialect : Dialect) (method : Method) : List TypeExpr :=
  method.parameters.map (·.typeIn dialect) ++ (method.response.typeIn dialect).toList

def View.types (dialect : Dialect) (view : View) : List TypeExpr :=
  view.methods.flatMap (·.types dialect) ++ view.definitions.map (·.typeIn dialect)

def View.references (dialect : Dialect) (view : View) : List TypeExpr :=
  ((view.types dialect).flatMap TypeExpr.nodes).filter (·.kind = .ref)

def Dialect.Converts (dialect : Dialect) (document : Value) (type : TypeExpr) : Prop :=
  ∃ schema, dialect.typeOf document schema = .ok type

variable {document : Value}

namespace Parameter

theorem ofEntry_typeIn (dialect : Dialect) (entry : Value) :
    Yields (fun parameter => dialect.typeOf document entry = .ok (parameter.typeIn dialect))
      (ofEntry document entry) := by
  refine .bind_any fun location _ => .bind_any fun enumerated _ => ?_
  dsimp only
  -- Neither where the parameter is carried nor what its name is has a part in its types.
  split
  all_goals refine .bind_any fun pattern _ => .bind_any fun declared _ => .bind_any fun name _ => ?_
  all_goals split
  all_goals refine .bind_any fun name _ => .bind_any fun required _ => .bind_any fun tsType typescript => ?_
  all_goals refine .bind_any fun flowType flow => .bind_any fun description _ => .ok ?_
  all_goals cases dialect <;> assumption

theorem contribution_converts (dialect : Dialect) (entry : Value) :
    Yields (fun contributed => ∀ parameter ∈ contributed, dialect.Converts document (parameter.typeIn dialect))
      (contribution document entry) := by
  have made (entry : Value) : Yields
      (fun contributed => ∀ parameter ∈ contributed, dialect.Converts document (parameter.typeIn dialect))
      (do return some (← ofEntry document entry)) := by
    refine .bind_any fun parameter made => .ok ?_
    rintro _ ⟨⟩
    exact ⟨entry, ofEntry_typeIn dialect entry _ made⟩
  have nothing : ∀ parameter ∈ (none : Option Parameter), dialect.Converts document (parameter.typeIn dialect) := by
    rintro _ ⟨⟩
  unfold contribution
  refine .bind_any fun excluded _ => ?_
  split
  · exact .ok nothing
  refine .bind_any fun reference _ => ?_
  split
  · refine .bind_any fun shared _ => .bind_any fun excluded _ => ?_
    split
    · exact .ok nothing
    · exact made shared
  · exact made entry

theorem parse_converts (dialect : Dialect) (own shared : Value) :
    Yields (fun parameters => ∀ parameter ∈ parameters, dialect.Converts document (parameter.typeIn dialect))
      (parse document own shared) := by
  refine .bind_any fun entries _ => ?_
  refine (Yields.mapM fun entry _ => contribution_converts dialect entry).bind fun contributed _ each => .ok ?_
  intro parameter among
  obtain ⟨found, listed, same⟩ := List.mem_filterMap.mp among
  exact each found listed parameter same

end Parameter

namespace Response

theorem ofEntry_converts (dialect : Dialect) (entry : Value) :
    Yields (fun response => ∀ type ∈ response.typeIn dialect, dialect.Converts document type)
      (ofEntry document entry) := by
  refine .bind_any fun schema _ => ?_
  split
  · refine .bind_any fun tsType typescript => .bind_any fun flowType flow => .ok ?_
    cases dialect with
    | typescript =>
      rintro _ ⟨⟩
      exact ⟨schema, typescript⟩
    | flow =>
      rintro _ ⟨⟩
      exact ⟨schema, flow⟩
  · refine .bind_any fun description _ => .ok ?_
    cases dialect <;> rintro _ ⟨⟩

theorem ofOperation_converts (dialect : Dialect) (operation : Value) :
    Yields (fun response => ∀ type ∈ response.typeIn dialect, dialect.Converts document type)
      (ofOperation document operation) := by
  refine .bind_any fun responses _ => .bind_any fun entries _ => .foldlM ?_ fun response holds entry _ => ?_
  · cases dialect <;> rintro _ ⟨⟩
  · dsimp only
    split
    · exact ofEntry_converts dialect entry.2
    · exact .ok holds

end Response

theorem Operation.method_converts (dialect : Dialect) (operation : Operation) (name : String)
    (className : Option String) :
    Yields (fun method => ∀ type ∈ method.types dialect, dialect.Converts document type)
      (operation.method document name className) := by
  intro method made
  simp only [Operation.method, Outcome.bind_eq_ok] at made
  obtain ⟨_, _, _, _, _, _, _, _, response, responded, _, _, parameters, parsed, _, _, _, _, same⟩ := made
  cases same
  intro type among
  rcases List.mem_append.mp among with among | among
  · obtain ⟨parameter, listed, rfl⟩ := List.mem_map.mp among
    exact Parameter.parse_converts dialect _ _ parameters parsed parameter listed
  · exact Response.ofOperation_converts dialect _ response responded type (Option.mem_toList.mp among)

namespace View

def schemasOf (document : Value) : Except Failure (List (Key × Value)) := do
  (← SchemaType.definitionsOf document).entries

/-- The dialect that a target takes the names of definitions from. -/
def exportDialect (target : String) : Dialect := if target = "flow" then .flow else .typescript

def exportName (dialect : Dialect) : Key → Key
  | .text name => .text (dialect.typeName name)
  | other => other

theorem definitionsFor_eq_ok {target : String} {definitions : List Definition}
    (typed : definitionsFor document target = .ok definitions) :
    ∃ schemas, schemasOf document = .ok schemas ∧
      List.Forall₂ (fun schema definition =>
        definition.name = exportName (exportDialect target) schema.1 ∧
        ∀ dialect : Dialect, dialect.typeOf document schema.2 = .ok (definition.typeIn dialect))
      schemas definitions := by
  simp only [definitionsFor, Outcome.bind_eq_ok] at typed
  obtain ⟨known, defined, schemas, listed, typed⟩ := typed
  refine ⟨schemas, Outcome.bind_eq_ok.mpr ⟨known, defined, listed⟩, ?_⟩
  refine (Outcome.forall₂_of_mapM typed).imp fun schema definition made => ?_
  simp only [Outcome.bind_eq_ok] at made
  obtain ⟨_, _, tsType, typescript, flowType, flow, same⟩ := made
  cases same
  refine ⟨?_, fun dialect => ?_⟩
  · unfold exportName exportDialect
    cases schema.1 with
    | text name => by_cases isFlow : target = "flow" <;> simp [isFlow]
    | _ => rfl
  · cases dialect with
    | typescript => exact typescript
    | flow => exact flow

theorem build_converts {target : String} {options : Options} {view : View}
    (built : build document target options = .ok view) (dialect : Dialect) :
    ∀ type ∈ view.types dialect, dialect.Converts document type := by
  obtain ⟨start, paths, operations, final, definitions, headed, listed, read, ran, typed, rfl⟩ :=
    build_eq_ok.mp built
  obtain ⟨methods, whole, made⟩ := ran.methods
  rw [header_methods headed, List.nil_append] at whole
  intro type among
  rcases List.mem_append.mp among with among | among
  · obtain ⟨method, listed, among⟩ := List.mem_flatMap.mp among
    rw [whole] at listed
    obtain ⟨operation, _, made⟩ := Outcome.exists_of_forall₂ made listed
    exact operation.method_converts dialect _ _ method made type among
  · obtain ⟨definition, listed, rfl⟩ := List.mem_map.mp among
    obtain ⟨schemas, _, each⟩ := definitionsFor_eq_ok typed
    obtain ⟨schema, _, _, converted⟩ := Outcome.exists_of_forall₂ each listed
    exact ⟨schema.2, converted dialect⟩

end View

end ClientGen
