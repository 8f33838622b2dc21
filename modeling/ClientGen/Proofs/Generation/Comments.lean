import ClientGen.Proofs.Generation.Signatures
import ClientGen.Proofs.Template.Slots

/-! Comments in the code of clients. What the document says of itself is printed into them as it stands, so a comment
goes on to where its template ends it exactly if none of these texts ends it before. -/

set_option autoImplicit false

namespace ClientGen

open Template
open Outcome (Yields)

namespace Template

def printedIfTrue (e : Expr) : Node := .choice [(e, [.output e])] []

def ofMethod (field : String) : Expr := .member (.var "method") field

def ofParameter (field : String) : Expr := .member (.var "parameter") field

def parameterSlots (target : String) : List Node :=
  if target = "javascript" then [
    .output (.either (ofParameter "type") (.literal (.text "object"))),
    .choice [(.negation (ofParameter "required"), [.output (ofParameter "camel_case_name")])]
      [.output (ofParameter "camel_case_name")],
    .output (ofParameter "description")]
  else [.output (ofParameter "camel_case_name"), printedIfTrue (ofParameter "description")]

def methodSlots (target : String) : List Node :=
  .output (.either (ofMethod "summary") (ofMethod "method_name")) ::
    ((if target = "javascript" then [.output (.var "class_name"), .output (ofMethod "method_name")] else []) ++
      [.loop "parameter" (ofMethod "parameters") none (parameterSlots target) [],
        printedIfTrue (ofMethod "response_description")])

def typeSlots : List Node := [printedIfTrue (.member (.var "definition") "description")]

def classSlots (target : String) : List Node :=
  .output (.var "title") :: printedIfTrue (.var "version") ::
    ((if target = "javascript" then [printedIfTrue (.var "module_name"), .output (.var "class_name")]
      else [.loop "definition" (.var "definitions") none typeSlots [], .output (.var "title")]) ++
    [.loop "method" (.var "methods") none (methodSlots target) []])

def includedSlots (target : String) : List (String × List Node) :=
  if target = "javascript" then [("method", methodSlots target)]
  else [("method", methodSlots target), ("type", typeSlots)]

def slotsAre (known : List (String × List Node)) (expected nodes : List Node) : Bool :=
  match nodesComments known .code nodes with
  | some (.code, kept) => nodesSame kept expected
  | _ => false

theorem eq_of_slotsAre {known : List (String × List Node)} {expected nodes : List Node}
    (holds : slotsAre known expected nodes = true) : nodesComments known .code nodes = some (.code, expected) := by
  unfold slotsAre at holds
  split at holds
  case h_1 kept traced => rw [traced, eq_of_nodesSame holds]
  case h_2 => cases holds

section
set_option maxRecDepth 1000000

theorem builtin_slotsAre : ∀ part ∈ [
    (Builtin.javascriptClass, includedSlots "javascript", classSlots "javascript"),
    (Builtin.typescriptClass, includedSlots "typescript", classSlots "typescript"),
    (Builtin.flowClass, includedSlots "flow", classSlots "flow"),
    (Builtin.method, [], methodSlots "javascript"), (Builtin.typescriptMethod, [], methodSlots "typescript"),
    (Builtin.flowMethod, [], methodSlots "flow"), (Builtin.type, [], typeSlots), (Builtin.flowType, [], typeSlots)],
    ∃ nodes, ofSource (.text part.1) = .ok nodes ∧ slotsAre part.2.1 part.2.2 nodes = true := by
  simp only [List.forall_mem_cons, List.not_mem_nil, false_imp_iff, implies_true, and_true]
  refine ⟨?_, ?_, ?_, ?_, ?_, ?_, ?_, ?_⟩
  all_goals
    apply exists_nodes_of_spells
    · repeat (apply List.Forall₂.cons; rfl)
      exact .nil
    · decide +kernel

end

end Template

namespace Templates

theorem builtin_slots {target : String} {templates : Templates} (known : builtin? target = some templates) :
    (∃ nodes, ofSource (templates.main.orElse (.text "")) = .ok nodes ∧
      nodesComments (includedSlots target) .code nodes = some (.code, classSlots target)) ∧
    ∀ part ∈ includedSlots target, IsPartOf templates.partials part := by
  have reads {text : String} {known : List (String × List Node)} {expected : List Node}
      (part : ∃ nodes, ofSource (.text text) = .ok nodes ∧ slotsAre known expected nodes = true) :
      ∃ nodes, ofSource (.text text) = .ok nodes ∧ nodesComments known .code nodes = some (.code, expected) := by
    obtain ⟨nodes, read, holds⟩ := part
    exact ⟨nodes, read, eq_of_slotsAre holds⟩
  have included {partials : Partials} {name text : String} {expected : List Node}
      (listed : partials.lookup name = some (.text text)) (keep : nodesKeepNames expected = true)
      (part : ∃ nodes, ofSource (.text text) = .ok nodes ∧ slotsAre [] expected nodes = true) :
      IsPartOf partials (name, expected) := by
    obtain ⟨nodes, read, traced⟩ := reads part
    exact ⟨keep, .text text, nodes, listed, read, traced⟩
  have parts := builtin_slotsAre
  simp only [List.forall_mem_cons, List.not_mem_nil, false_imp_iff, implies_true, and_true] at parts
  obtain ⟨javascriptClass, typescriptClass, flowClass, method, typescriptMethod, flowMethod, type, flowType⟩ := parts
  unfold builtin? at known
  split at known <;> cases known <;> dsimp only <;> rw [text_orElse_empty, partials, text_orElse_empty]
  · exact ⟨reads javascriptClass, List.forall_mem_singleton.mpr (included rfl rfl method)⟩
  · exact ⟨reads typescriptClass, List.forall_mem_cons.mpr ⟨included rfl rfl typescriptMethod,
      List.forall_mem_singleton.mpr (included rfl rfl type)⟩⟩
  · exact ⟨reads flowClass, List.forall_mem_cons.mpr ⟨included rfl rfl flowMethod,
      List.forall_mem_singleton.mpr (included rfl rfl flowType)⟩⟩

end Templates

namespace Generation

def ifTrue (d : Datum) : List String := if d.isTrue then [d.shown] else []

def parameterTexts (target : String) (parameter : Parameter) : List String :=
  if target = "javascript" then
    [if parameter.declaredType.isTrue then parameter.declaredType.shown else "object", parameter.argument,
      parameter.description.shown]
  else parameter.argument :: ifTrue (.value parameter.description)

def methodTexts (target className : String) (method : Method) : List String :=
  (if method.summary.isTrue then method.summary.shown else method.name) ::
    ((if target = "javascript" then [className, method.name] else []) ++
      (method.parameters.flatMap (parameterTexts target) ++ ifTrue (.value method.response.description)))

/-- What the comments on a client, its types and its methods say. -/
def commentTexts (target : String) (view : View) : List String :=
  let className := (Datum.ofText? view.className).shown
  view.title.shown :: (ifTrue (.value view.version) ++
    ((if target = "javascript" then ifTrue (.ofText? view.moduleName) ++ [className]
      else view.definitions.flatMap (fun definition => ifTrue (.value definition.description)) ++
        [view.title.shown]) ++
    view.methods.flatMap (methodTexts target className)))

def commentNames : List String := ["title", "version", "module_name", "class_name", "definitions", "methods"]

section
variable {inclusion : Inclusion} {env : Env} {target : String}

theorem prints_output {e : Expr} {d : Datum} (value : e.eval env = .ok d) :
    Prints inclusion env [.output e] [d.shown] := .output value .nil

theorem prints_ifTrue {e : Expr} {d : Datum} (value : e.eval env = .ok d) :
    Prints inclusion env [printedIfTrue e] (ifTrue d) := by
  have printed : Prints inclusion env [printedIfTrue e] (ifTrue d ++ []) :=
    .choice value (prints_output value) .nil .nil
  rwa [List.append_nil] at printed

theorem eval_either {first second : Expr} {d other : Datum} (value : first.eval env = .ok d)
    (instead : second.eval env = .ok other) :
    (Expr.either first second).eval env = .ok (if d.isTrue then d else other) := by
  rw [Expr.eval, value, Outcome.ok_bind, instead]
  split <;> rfl

theorem parameter_prints {parameter : Parameter} (means : env.get "parameter" = .parameter parameter) :
    Prints inclusion env (parameterSlots target) (parameterTexts target parameter) := by
  have key := Expr.eval_member "camel_case_name" means rfl
  have description := Expr.eval_member "description" means rfl
  unfold parameterSlots parameterTexts
  split
  · have literal : (Expr.literal (.text "object")).eval env = .ok (.text "object") := rfl
    have type := eval_either (Expr.eval_member "type" means rfl) literal
    have optional : (Expr.negation (ofParameter "required")).eval env = .ok (.bool !parameter.required) := by
      rw [Expr.eval, ofParameter, Expr.eval_member "required" means rfl]
      rfl
    have printed : Prints inclusion env _ ((if (Datum.value parameter.declaredType).isTrue then
        Datum.value parameter.declaredType else .text "object").shown ::
          ((if (Datum.bool !parameter.required).isTrue then [parameter.argument] else [parameter.argument]) ++
            [parameter.description.shown])) :=
      .output type (.choice optional (prints_output key) (prints_output key) (prints_output description))
    rwa [apply_ite Datum.shown, ite_self] at printed
  · exact .output key (prints_ifTrue description)

theorem method_prints {method : Method} {className : Datum} (means : env.get "method" = .method method)
    (owned : env.get "class_name" = className) :
    Prints inclusion env (methodSlots target) (methodTexts target className.shown method) := by
  have name := Expr.eval_member "method_name" means rfl
  have headline := eval_either (Expr.eval_member "summary" means rfl) name
  have parameters := Expr.eval_member "parameters" means rfl
  have response := Expr.eval_member "response_description" means rfl
  have owner : Prints inclusion env
      (if target = "javascript" then [.output (.var "class_name"), .output (ofMethod "method_name")] else [])
      (if target = "javascript" then [className.shown, method.name] else []) := by
    split
    · exact .output (congrArg Except.ok owned) (.output name .nil)
    · exact .nil
  have arguments : Prints inclusion env
      [.loop "parameter" (ofMethod "parameters") none (parameterSlots target) [],
        printedIfTrue (ofMethod "response_description")]
      (method.parameters.flatMap (parameterTexts target) ++ ifTrue (.value method.response.description)) :=
    .loop parameters rfl (fun p record => parameter_prints (by simp [Env.get])) (prints_ifTrue response)
  have printed := Prints.output headline (owner.append arguments)
  rwa [apply_ite Datum.shown] at printed

theorem definition_prints {definition : Definition} (means : env.get "definition" = .definition definition) :
    Prints inclusion env typeSlots (ifTrue (.value definition.description)) :=
  prints_ifTrue (Expr.eval_member "description" means rfl)

theorem class_prints {extra : Env} (free : ∀ name ∈ commentNames, extra.lookup name = none) (view : View) :
    Prints inclusion (extra ++ contextOf view) (classSlots target) (commentTexts target view) := by
  -- The names that the comments read are not redefined, so each means what the view says.
  have told {name : String} (among : name ∈ commentNames) :
      Env.get (extra ++ contextOf view) name = Env.get (contextOf view) name := by
    unfold Env.get
    rw [List.lookup_append, free name among]
    rfl
  have names : ∀ name ∈ commentNames, (Expr.var name).eval (extra ++ contextOf view) =
      .ok (Env.get (contextOf view) name) := fun name among => congrArg Except.ok (told among)
  simp only [commentNames, List.forall_mem_cons, List.not_mem_nil, false_imp_iff, implies_true, and_true] at names
  obtain ⟨title, version, moduleName, className, definitions, methods⟩ := names
  have classed : Prints inclusion (extra ++ contextOf view)
      (if target = "javascript" then [printedIfTrue (.var "module_name"), .output (.var "class_name")]
        else [.loop "definition" (.var "definitions") none typeSlots [], .output (.var "title")])
      (if target = "javascript" then ifTrue (.ofText? view.moduleName) ++ [(Datum.ofText? view.className).shown]
        else view.definitions.flatMap (fun definition => ifTrue (.value definition.description)) ++
          [view.title.shown]) := by
    split
    · exact (prints_ifTrue moduleName).append (prints_output className)
    · exact .loop definitions rfl (fun definition record => definition_prints (by simp [Env.get])) (prints_output title)
  have listed : Prints inclusion (extra ++ contextOf view)
      [.loop "method" (.var "methods") none (methodSlots target) []]
      (view.methods.flatMap (methodTexts target (Datum.ofText? view.className).shown) ++ []) := by
    refine .loop methods rfl (fun method record => method_prints (by simp [Env.get]) ?_) .nil
    exact @told "class_name" (by simp [commentNames])
  rw [List.append_nil] at listed
  exact .output title ((prints_ifTrue version).append (classed.append listed))

end

variable {target : String} {templates : Templates} {options : Options} {extra : Env}

def noInclusion : Inclusion := fun _ _ _ => .error (.template .notFound)

theorem fragmentsOf_comments (builtin : Templates.builtin? target = some templates)
    (defaults : Templates.forTarget target options.template = .ok templates)
    (given : extraNames options.extraContext = .ok extra) (view : View) :
    Yields (fun fragments => ∃ slots after,
      renderNodes noInclusion (extra ++ contextOf view) (classSlots target) = .ok (slots, after) ∧
      (ClosesComments (marksOf fragments) ↔ ∀ slot ∈ slots, ¬ EndsComment slot.text))
      (fragmentsOf view target options) := by
  obtain ⟨⟨nodes, read, traced⟩, each⟩ := Templates.builtin_slots builtin
  rw [fragmentsOf_eq defaults given]
  exact fragments_comments each read traced noInclusion _

theorem slots_eq (free : ∀ name ∈ commentNames, extra.lookup name = none) {view : View} {slots : List Fragment}
    {after : Env} (made : renderNodes noInclusion (extra ++ contextOf view) (classSlots target) = .ok (slots, after)) :
    slots.map Fragment.text = commentTexts target view := by
  obtain ⟨others, printed, same⟩ := class_prints free view
  rw [made] at printed
  cases printed
  exact same

theorem exists_of_code (builtin : Templates.builtin? target = some templates) (plain : options.beautify = false)
    {tools : Tools} {document : Value} {text : String} (done : code tools document target options = .ok text) :
    ∃ view fragments, viewOf document target options = .ok view ∧ fragmentsOf view target options = .ok fragments ∧
      text = textOf fragments := by
  obtain ⟨_, _, done⟩ := Outcome.bind_eq_ok.mp done
  obtain ⟨view, built, done⟩ := Outcome.bind_eq_ok.mp done
  rw [generate_builtin builtin plain, renderView] at done
  obtain ⟨fragments, rendered, same⟩ := Outcome.map_eq_ok.mp done
  exact ⟨view, fragments, built, rendered, same.symm⟩

/-- A documentation comment of a template goes on to where a template ends it, unless one of the texts that are printed
into comments ends it before. These are told by a few nodes of the templates, and by the view when no extra name stands
in for one of its own. -/
theorem comments_closed (builtin : Templates.builtin? target = some templates)
    (defaults : Templates.forTarget target options.template = .ok templates) (plain : options.beautify = false)
    (given : extraNames options.extraContext = .ok extra) (tools : Tools) {document : Value} {text : String}
    (done : code tools document target options = .ok text) :
    ∃ view fragments slots after, viewOf document target options = .ok view ∧
      fragmentsOf view target options = .ok fragments ∧ text.toList = (marksOf fragments).map (·.1) ∧
      renderNodes noInclusion (extra ++ contextOf view) (classSlots target) = .ok (slots, after) ∧
      (ClosesComments (marksOf fragments) ↔ ∀ slot ∈ slots, ¬ EndsComment slot.text) ∧
      ((∀ name ∈ commentNames, extra.lookup name = none) → slots.map Fragment.text = commentTexts target view) := by
  obtain ⟨view, fragments, built, rendered, rfl⟩ := exists_of_code builtin plain done
  obtain ⟨slots, after, printed, closes⟩ := fragmentsOf_comments builtin defaults given view fragments rendered
  exact ⟨view, fragments, slots, after, built, rendered, toList_textOf fragments, printed, closes,
    fun free => slots_eq free printed⟩

/-! ## A title that ends the comment it stands in -/

def titled (title : String) : Value :=
  .object [(.text "swagger", .text "2.0"), (.text "info", .object [(.text "title", .text title)])]

def titledView (title : String) : View :=
  { View.empty with title := .text title, className := some "Client", isEs6 := true }

theorem viewOf_titled (title : String) : viewOf (titled title) "javascript" unformatted = .ok (titledView title) := rfl

section
set_option maxRecDepth 1000000

theorem javascriptClass_renders_titled : ∃ nodes, ofSource (.text Builtin.javascriptClass) = .ok nodes ∧
    (["Pets */ alert(1); /*", "Pets"].all fun title =>
      renders javascriptTemplates.partials (contextOf (titledView title)) nodes) = true := by
  apply exists_nodes_of_spells
  · repeat (apply List.Forall₂.cons; rfl)
    exact .nil
  · decide +kernel

end

theorem fragmentsOf_titled {title : String} (among : title ∈ ["Pets */ alert(1); /*", "Pets"]) :
    ∃ fragments, fragmentsOf (titledView title) "javascript" unformatted = .ok fragments := by
  obtain ⟨nodes, read, renders⟩ := javascriptClass_renders_titled
  rw [fragmentsOf_eq javascript_defaults unformatted_names, javascriptTemplates, Templates.text_orElse_empty]
  exact fragments_of_renders read (List.all_eq_true.mp renders title among)

theorem code_titled {title : String} {fragments : List Fragment}
    (rendered : fragmentsOf (titledView title) "javascript" unformatted = .ok fragments) :
    code Tools.standard (titled title) "javascript" unformatted = .ok (textOf fragments) := by
  rw [code, javascript_defaults, viewOf_titled, Outcome.ok_bind, Outcome.ok_bind,
    generate_builtin javascript_builtin rfl, renderView, rendered]
  rfl

theorem title_ends_comment : ∃ fragments,
    code Tools.standard (titled "Pets */ alert(1); /*") "javascript" unformatted = .ok (textOf fragments) ∧
    fragmentsOf (titledView "Pets */ alert(1); /*") "javascript" unformatted = .ok fragments ∧
    ¬ ClosesComments (marksOf fragments) := by
  obtain ⟨fragments, rendered⟩ := fragmentsOf_titled List.mem_cons_self
  obtain ⟨slots, after, printed, closes⟩ :=
    fragmentsOf_comments javascript_builtin javascript_defaults unformatted_names _ fragments rendered
  refine ⟨fragments, code_titled rendered, rendered, fun closed => ?_⟩
  have none : ∀ text ∈ commentTexts "javascript" (titledView "Pets */ alert(1); /*"), ¬ EndsComment text := by
    rw [← slots_eq (fun _ _ => rfl) printed, List.forall_mem_map]
    exact closes.mp closed
  exact none _ List.mem_cons_self ⟨"Pets ".toList, " alert(1); /*".toList, rfl⟩

theorem comments_closed_titled : ∃ text fragments,
    code Tools.standard (titled "Pets") "javascript" unformatted = .ok text ∧
    fragmentsOf (titledView "Pets") "javascript" unformatted = .ok fragments ∧
    text.toList = (marksOf fragments).map (·.1) ∧ ClosesComments (marksOf fragments) ∧
    commentTexts "javascript" (titledView "Pets") = ["Pets", "Client"] := by
  obtain ⟨_, made⟩ := fragmentsOf_titled (List.mem_cons_of_mem _ (List.mem_singleton_self "Pets"))
  obtain ⟨view, fragments, slots, after, built, rendered, same, _, closes, told⟩ :=
    comments_closed javascript_builtin javascript_defaults rfl unformatted_names Tools.standard (code_titled made)
  obtain rfl : titledView "Pets" = view := Except.ok.inj built
  have texts : commentTexts "javascript" (titledView "Pets") = ["Pets", "Client"] := by decide
  refine ⟨_, fragments, code_titled made, rendered, same, closes.mpr ?_, texts⟩
  rw [← List.forall_mem_map (P := fun text => ¬ EndsComment text), told fun _ _ => rfl, texts]
  unfold EndsComment
  decide

end Generation

end ClientGen
