import ClientGen.Standard
import ClientGen.Proofs.Client.Assembly
import ClientGen.Proofs.Generation.Rendering

/-! Why there is no code. The stages of the work stand in their order, and the first one that fails gives the reason.
Nothing is rendered before all that prepare it have succeeded. -/

set_option autoImplicit false

namespace ClientGen.Generation

open Outcome (FirstFails DecidedBy)

inductive Stage where
  | templates
  | version
  | information
  | domain
  | imports
  | paths
  | path (entry : Key × Value)
  | operation (operation : Operation)
  | definitions
  | definition (schema : Value)
  | extraNames
  | rendering
  | checking
  | layout

def prepared (document : Value) (target : String) (options : Options) : Except Failure (Templates × View) := do
  return (← Templates.forTarget target options.template, ← viewOf document target options)

namespace Stage

def readInformation (document : Value) : Except Failure (Option Value × Option Value) := do
  let info := (← document.field "info").orElse (.object [])
  return (← info.field? "title", ← info.field? "version")

def readDefinition (document schema : Value) : Except Failure Unit := do
  let _ ← schema.field "description"
  let _ ← Dialect.typescript.typeOf document schema
  let _ ← Dialect.flow.typeOf document schema

def forget {α : Type} (x : Except Failure α) : Except Failure Unit := x.map fun _ => ()

/-- What a stage does by itself. Of its result only matters that there is one. -/
def outcome (render : Renderer) (tools : Tools) (document : Value) (target : String) (options : Options) :
    Stage → Except Failure Unit
  | .templates => forget (Templates.forTarget target options.template)
  | .version => View.checkVersion document
  | .information => forget (readInformation document)
  | .domain => forget (View.domainOf document)
  | .imports => forget (options.imports.orElse (.list [])).elements
  | .paths => forget (View.pathsOf document)
  | .path (key, item) => forget (View.operationsOf key item)
  | .operation single => do
    let _ ← single.candidate
    forget (single.method document "" none)
  | .definitions => forget (SchemaType.definitionsOf document >>= Value.entries)
  | .definition schema => readDefinition document schema
  | .extraNames => forget options.extraContext.pairs
  | .rendering => forget do
    let ready ← prepared document target options
    render.source options ready.1 ready.2
  | .checking => do
    let ready ← prepared document target options
    checkSource tools target options (← render.source options ready.1 ready.2)
  | .layout => forget do
    let ready ← prepared document target options
    layOut tools options (← render.source options ready.1 ready.2)

def ofPath (entry : Key × Value) : List Stage :=
  path entry :: ((View.operationsOf entry.1 entry.2).toOption.getD []).map operation

def ofPaths (document : Value) : List Stage :=
  paths :: ((View.pathsOf document).toOption.getD []).flatMap ofPath

def ofDefinitions (document : Value) : List Stage :=
  definitions :: ((SchemaType.definitionsOf document >>= Value.entries).toOption.getD []).map fun (_, schema) =>
    definition schema

def preparation (document : Value) : List Stage :=
  [templates, version, information, domain, imports] ++ ofPaths document ++ ofDefinitions document

def all (document : Value) : List Stage := preparation document ++ [extraNames, rendering, checking, layout]

end Stage

variable {render : Renderer} {tools : Tools} {document : Value} {target : String} {options : Options}

theorem forget_eq_error {α : Type} {x : Except Failure α} {failure : Failure} :
    x = .error failure ↔ Stage.forget x = .error failure :=
  Outcome.map_eq_error.symm

theorem object_of_checkVersion {checked : Unit} (fine : View.checkVersion document = .ok checked) :
    ∃ fields, document = .object fields := by
  cases document with
  | object fields => exact ⟨fields, rfl⟩
  | _ => cases fine

theorem header_decided : DecidedBy (Stage.outcome render tools document target options)
    [.version, .information, .domain, .imports] (View.header document target options.viewOptions) := by
  refine .cons (fun _ => .rfl) fun _ fine => ?_
  obtain ⟨fields, rfl⟩ := object_of_checkVersion fine
  have read {α : Type} (next : Option Value → Option Value → Except Failure α) : (do
      let info := (← (Value.object fields).field "info").orElse (.object [])
      next (← info.field? "title") (← info.field? "version")) =
      Stage.readInformation (.object fields) >>= fun (title, version) => next title version := by
    simp only [Stage.readInformation, bind_assoc, pure_bind]
  rw [read]
  refine .cons (fun _ => forget_eq_error) fun _ _ => .cons (fun _ => forget_eq_error) fun _ _ => ?_
  -- Whether the document has security definitions can always be told.
  change DecidedBy _ _ ((options.imports.orElse (.list [])).elements >>= _)
  exact .cons (fun _ => forget_eq_error) fun _ _ => .nil _

theorem method_eq_error {operation : Operation} {failure : Failure} (name : String) (className : Option String) :
    operation.method document name className = .error failure ↔
      operation.method document "" none = .error failure := by
  simp only [Operation.method, Outcome.bind_eq_error, Outcome.pure_eq, reduceCtorEq, and_false, exists_false, or_false]

theorem addOrFail_decided {className : Option String} {assembly : Assembly} {operation : Operation} :
    DecidedBy (Stage.outcome render tools document target options) [.operation operation]
      (Assembly.addOrFail document className assembly operation) := by
  refine .single fun failure => ?_
  simp only [Stage.outcome, Assembly.addOrFail, Assembly.add]
  cases operation.candidate with
  | error reason => simp
  | ok candidate =>
    rw [Outcome.ok_bind, ← forget_eq_error, ← method_eq_error (Naming.giveOut candidate assembly.used).1 className]
    dsimp only
    cases operation.method document (Naming.giveOut candidate assembly.used).1 className <;> simp

theorem addPath_decided {className : Option String} {assembly : Assembly} {entry : Key × Value} :
    DecidedBy (Stage.outcome render tools document target options) (Stage.ofPath entry)
      (Assembly.addPath document className assembly entry) := by
  refine .cons (fun _ => forget_eq_error) fun operations read => ?_
  rw [read, Except.toOption, Option.getD_some, List.map_eq_flatMap]
  exact .foldlM fun _ _ _ => addOrFail_decided

theorem definitionsFor_decided : DecidedBy (Stage.outcome render tools document target options)
    (Stage.ofDefinitions document) (View.definitionsFor document target) := by
  unfold View.definitionsFor
  rw [← bind_assoc]
  refine .cons (fun _ => forget_eq_error) fun entries read => ?_
  rw [read, Except.toOption, Option.getD_some, List.map_eq_flatMap]
  refine .mapM fun (_, schema) _ => .single fun failure => ?_
  simp only [Stage.outcome, Stage.readDefinition, Outcome.bind_eq_error, Outcome.pure_eq, reduceCtorEq, and_false,
    exists_false, or_false]

theorem viewOf_decided : DecidedBy (Stage.outcome render tools document target options)
    ([.version, .information, .domain, .imports] ++ (Stage.ofPaths document ++ Stage.ofDefinitions document))
    (viewOf document target options) := by
  refine header_decided.append fun view _ => ?_
  refine .cons (fun _ => forget_eq_error) fun paths read => ?_
  rw [read, Except.toOption, Option.getD_some]
  refine DecidedBy.append (.foldlM fun _ _ _ => addPath_decided) fun assembly _ => ?_
  exact definitionsFor_decided.map _

theorem prepared_decided : DecidedBy (Stage.outcome render tools document target options) (Stage.preparation document)
    (prepared document target options) :=
  .cons (fun _ => forget_eq_error) fun templates _ => viewOf_decided.map fun view => (templates, view)

theorem Renderer.code_eq : render.code tools target options document =
    prepared document target options >>= fun ready => render.finish tools target options ready.1 ready.2 := by
  unfold Renderer.code Renderer.generate prepared
  cases Templates.forTarget target options.template with
  | error failure => rfl
  | ok templates => simp

theorem finish_decided {templates : Templates} {view : View}
    (ready : prepared document target options = .ok (templates, view)) :
    DecidedBy (Stage.outcome render tools document target options) [.extraNames, .rendering, .checking, .layout]
      (render.finish tools target options templates view) := by
  have sourceDecided : DecidedBy (Stage.outcome render tools document target options) [.extraNames, .rendering]
      (render.source options templates view) := by
    refine .cons (fun _ => forget_eq_error) fun extra named => .single fun failure => ?_
    simp [Stage.outcome, ready, Renderer.source, named, ← forget_eq_error]
  refine sourceDecided.append fun source rendered => .cons (fun failure => ?_) fun _ _ => .single fun failure => ?_
  · simp [Stage.outcome, ready, rendered]
  · simp [Stage.outcome, ready, rendered, ← forget_eq_error]

/-- Code fails with the first stage that fails. -/
theorem Renderer.code_stages : DecidedBy (Stage.outcome render tools document target options) (Stage.all document)
    (render.code tools target options document) := by
  rw [Renderer.code_eq]
  exact prepared_decided.append fun _ ready => finish_decided ready

def IsUnusable (template : Value) : Prop := template ≠ .null ∧ ∀ names, template ≠ .object names

theorem forTarget_typescript_unusable {template : Value} (unusable : IsUnusable template) :
    Templates.forTarget "typescript" template = .error .invalidTemplates := by
  obtain ⟨given, notNames⟩ := unusable
  cases template with
  | null => exact absurd rfl given
  | object names => exact absurd rfl (notNames names)
  | _ => rfl

theorem exists_forTarget_typescript {template : Value} (usable : ¬ IsUnusable template) :
    ∃ templates, Templates.forTarget "typescript" template = .ok templates := by
  cases template with
  | null => exact ⟨_, rfl⟩
  | object names => exact ⟨_, rfl⟩
  | _ => exact absurd ⟨nofun, nofun⟩ usable

theorem checkVersion_supported (supported : document.get? "swagger" = some (.text "2.0")) :
    View.checkVersion document = .ok () := by
  cases document with
  | object fields =>
    change (Key.text "swagger").lookup fields = _ at supported
    simp [View.checkVersion, Value.field, Value.field?, supported]
  | _ => cases supported

theorem checkVersion_unsupported {fields : List (Key × Value)}
    (other : (Value.object fields).get? "swagger" ≠ some (.text "2.0")) :
    View.checkVersion (.object fields) =
      .error (.unsupportedVersion (((Value.object fields).get? "swagger").getD .null)) := by
  change (Key.text "swagger").lookup fields ≠ _ at other
  simp only [View.checkVersion, Value.field, Value.field?, Outcome.map_ok, Outcome.ok_bind, Value.get?]
  split
  case h_1 supported =>
    cases found : (Key.text "swagger").lookup fields with
    | none =>
      rw [found] at supported
      cases supported
    | some version =>
      rw [found] at other supported
      exact absurd (congrArg some supported) other
  case h_2 => rfl

theorem typescriptCode_eq (fine : document.get? "swagger" = some (.text "2.0") ∨ ¬ IsUnusable options.template) :
    typescriptCode tools document options = code tools document "typescript" options := by
  unfold typescriptCode
  rcases fine with supported | usable
  · rw [checkVersion_supported supported]
    rfl
  · obtain ⟨templates, made⟩ := exists_forTarget_typescript usable
    unfold code viewOf View.build View.header
    rw [made]
    cases View.checkVersion document <;> rfl

theorem typescriptCode_unusable {fields : List (Key × Value)}
    (other : (Value.object fields).get? "swagger" ≠ some (.text "2.0")) (unusable : IsUnusable options.template) :
    typescriptCode tools (.object fields) options =
        .error (.unsupportedVersion (((Value.object fields).get? "swagger").getD .null)) ∧
      code tools (.object fields) "typescript" options = .error .invalidTemplates := by
  unfold typescriptCode code
  rw [checkVersion_unsupported other, forTarget_typescript_unusable unusable]
  exact ⟨rfl, rfl⟩

/-- The first stage that fails says how the code of a document fails, whatever may be wrong with later ones. If it is
one before the rendering, nothing is rendered, and no renderer makes a difference. Templates that have been found usable
once are used. The entry for TypeScript differs in nothing but what it says of a document that is as unsupported as its
templates are unusable. -/
theorem code_first_failure (tools : Tools) (document : Value) (target : String) (options : Options) :
    code tools document target options = Renderer.code Template.fragmentsUnder tools target options document ∧
    (∀ render : Renderer,
      (∀ failure, render.code tools target options document = .error failure ↔
        FirstFails (Stage.outcome render tools document target options) (Stage.all document) failure) ∧
      (∀ failure, FirstFails (Stage.outcome render tools document target options) (Stage.preparation document) failure →
        ∀ other : Renderer, other.code tools target options document = .error failure) ∧
      ((∀ stage ∈ Stage.preparation document,
          ∃ done, Stage.outcome render tools document target options stage = .ok done) →
        ∃ templates view, Templates.forTarget target options.template = .ok templates ∧
          viewOf document target options = .ok view ∧
          render.code tools target options document = render.finish tools target options templates view)) ∧
    ∀ fields, document = .object fields →
      (document.get? "swagger" = some (.text "2.0") ∨ ¬ IsUnusable options.template →
        typescriptCode tools document options = code tools document "typescript" options) ∧
      (document.get? "swagger" ≠ some (.text "2.0") → IsUnusable options.template →
        typescriptCode tools document options =
            .error (.unsupportedVersion ((document.get? "swagger").getD .null)) ∧
          code tools document "typescript" options = .error .invalidTemplates) := by
  refine ⟨code_eq, fun render => ⟨Renderer.code_stages, fun failure failed other => ?_, fun fine => ?_⟩, ?_⟩
  · rw [Renderer.code_eq, (prepared_decided failure).mpr failed]
    rfl
  · obtain ⟨ready, made⟩ := prepared_decided.forall_ok.mpr fine
    rw [Renderer.code_eq, made]
    obtain ⟨templates, usable, made⟩ := Outcome.bind_eq_ok.mp made
    obtain ⟨view, built, same⟩ := Outcome.bind_eq_ok.mp made
    cases same
    exact ⟨templates, view, usable, built, rfl⟩
  · rintro fields rfl
    exact ⟨typescriptCode_eq, typescriptCode_unusable⟩

/-! ## A document with more than one fault -/

def faulty (version : String) : Value := .object [
  (.text "swagger", .text version),
  (.text "paths", .object [(.text "/items", .object [(.text "get", .object [
    (.text "parameters", .list [.object [(.text "$ref", .text "#/parameters/none")]])])])]),
  (.text "definitions", .object [(.text "Item", .object [
    (.text "allOf", .list [.object [(.text "$ref", .text "#/definitions/None")]])])])]

theorem code_first_failure_faulty :
    code Tools.standard (faulty "2.0") "javascript" { extraContext := .int 0 } =
      .error (.unresolved "#/parameters/none") ∧
    code Tools.standard (faulty "2.0") "swift" {} = .error (.unsupportedTarget "swift") ∧
    code Tools.standard (faulty "3.0") "javascript" {} = .error (.unsupportedVersion (.text "3.0")) ∧
    typescriptCode Tools.standard (faulty "3.0") { template := .int 0 } = .error (.unsupportedVersion (.text "3.0")) ∧
    code Tools.standard (faulty "3.0") "typescript" { template := .int 0 } = .error .invalidTemplates := by
  have decided (document : Value) (target : String) (options : Options) (failure : Failure)
      (fails : FirstFails (Stage.outcome Template.fragmentsUnder Tools.standard document target options)
        (Stage.preparation document) failure) : code Tools.standard document target options = .error failure := by
    obtain ⟨same, stages, _⟩ := code_first_failure Tools.standard document target options
    rw [same]
    exact (stages _).2.1 failure fails _
  refine ⟨decided _ _ _ _ (Outcome.mapM_eq_error_iff.mp rfl), decided _ _ _ _ (Outcome.mapM_eq_error_iff.mp rfl),
    decided _ _ _ _ (Outcome.mapM_eq_error_iff.mp rfl), ?_⟩
  obtain ⟨_, _, entries⟩ := code_first_failure Tools.standard (faulty "3.0") "typescript" { template := .int 0 }
  refine (entries _ rfl).2 (fun supported => ?_) ⟨nofun, nofun⟩
  have same : "3.0" = "2.0" := Value.text.inj (Option.some.inj supported)
  exact absurd same (by decide)

end ClientGen.Generation
