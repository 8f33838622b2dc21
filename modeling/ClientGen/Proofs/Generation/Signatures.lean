import ClientGen.Proofs.Generation.Blocks
import ClientGen.Proofs.Template.Same

/-! Methods of the two typed dialects. They differ in their signatures, where a method and its arguments have types,
and nowhere else. -/

set_option autoImplicit false

namespace ClientGen.Template

open Outcome (Yields)

/-! ## Signatures -/

def argument (separator : String) (typeOf : Parameter → TypeExpr) (parameter : Parameter) : String :=
  "        " ++ parameter.argument ++ parameter.cardinality ++ ": " ++ (typeOf parameter).text ++ separator ++ "\n"

/-- How a method is declared: its arguments under their keys, and what it answers with. -/
def signature (separator : String) (typeOf : Parameter → TypeExpr) (answer : Option TypeExpr) (method : Method) :
    String :=
  "    " ++ method.name ++ "(parameters: \x7b\n" ++
    String.join (method.parameters.map (argument separator typeOf)) ++
    "        [key: string]: any" ++ separator ++ "\n    \x7d" ++
    (if ∀ p ∈ method.parameters, p.cardinality = "?" then " = \x7b\x7d" else "") ++
    "): Promise<" ++ answer.elim "any" TypeExpr.text ++ "> \x7b\n"

def argumentNodes (separator typeField : String) : List Node := [
  .text "        ".toList,
  .output (.member (.var "parameter") "camel_case_name"),
  .output (.member (.var "parameter") "cardinality"),
  .text ": ".toList,
  .output (.member (.var "parameter") typeField),
  .text (separator ++ "\n").toList]

/-- The nodes of a signature, with the last line before it and the start of the first one after it. -/
def signatureNodes (separator typeField answerField : String) : List Node := [
  .text ("     */\n" ++ "    ").toList,
  .output (.member (.var "method") "method_name"),
  .text "(parameters: \x7b\n".toList,
  .loop "parameter" (.member (.var "method") "parameters") none (argumentNodes separator typeField) [],
  .text ("        [key: string]: any" ++ separator ++ "\n    \x7d").toList,
  .choice [(.negation (.member (.var "method") "has_required_parameters"), [.text " = \x7b\x7d".toList])] [],
  .text "): Promise<".toList,
  .output (.either (.member (.var "method") answerField) (.literal (.text "any"))),
  .text ("> \x7b\n" ++ "        let path = ").toList]

theorem all_optional_iff {method : Method} :
    (∀ p ∈ method.parameters, p.cardinality = "?") ↔ method.hasRequiredParameters = false := by
  simp [Method.hasRequiredParameters, Parameter.cardinality]

theorem Expr.eval_member {env : Env} {variableName : String} {d value : Datum} (name : String)
    (means : env.get variableName = d) (own : d.ownAttribute? name = some value) :
    (Expr.member (.var variableName) name).eval env = .ok value := by
  have found : d.member name = .ok value := by
    unfold Datum.member
    split
    · cases own
    · rw [own]
      rfl
  rw [Expr.eval, Expr.eval, means, Outcome.ok_bind, found]

theorem textOf_singleton (fragment : Fragment) : textOf [fragment] = fragment.text := by
  simp [textOf, String.join_cons]

/-- What the nodes are rendered to, as a text. They set no name. -/
def Shows (inclusion : Inclusion) (env : Env) (nodes : List Node) (shown : String) : Prop :=
  ∃ fragments, renderNodes inclusion env nodes = .ok (fragments, env) ∧ textOf fragments = shown

namespace Shows

variable {inclusion : Inclusion} {env : Env} {nodes body : List Node} {first shown : String}

theorem nil : Shows inclusion env [] "" := ⟨[], rfl, rfl⟩

theorem cons {node : Node} {fragments : List Fragment} (rendered : node.render inclusion env = .ok (fragments, env))
    (rest : Shows inclusion env nodes shown) : Shows inclusion env (node :: nodes) (textOf fragments ++ shown) := by
  obtain ⟨more, others, rfl⟩ := rest
  refine ⟨fragments ++ more, ?_, textOf_append fragments more⟩
  rw [renderNodes, rendered]
  simp only [Outcome.ok_bind, others]
  rfl

theorem text (s : String) (rest : Shows inclusion env nodes shown) :
    Shows inclusion env (.text s.toList :: nodes) (s ++ shown) := by
  have copied : (Node.text s.toList).render inclusion env = .ok ([.copied s.toList], env) := by rw [Node.render]
  have both := cons copied rest
  rwa [textOf_singleton, Fragment.text, String.ofList_toList] at both

theorem output {e : Expr} {d : Datum} (value : e.eval env = .ok d) (rest : Shows inclusion env nodes shown) :
    Shows inclusion env (.output e :: nodes) (d.shown ++ shown) := by
  have printed : (Node.output e).render inclusion env = .ok ([.printed d.shown], env) := by
    rw [Node.render, value]
    rfl
  have both := cons printed rest
  rwa [textOf_singleton, Fragment.text] at both

theorem choice {test : Expr} {d : Datum} (value : test.eval env = .ok d) (branch : Shows inclusion env body first)
    (rest : Shows inclusion env nodes shown) :
    Shows inclusion env (.choice [(test, body)] [] :: nodes) ((if d.isTrue then first else "") ++ shown) := by
  obtain ⟨fragments, rendered, rfl⟩ := branch
  have chosen : (Node.choice [(test, body)] []).render inclusion env =
      .ok (if d.isTrue then fragments else [], env) := by
    rw [Node.render, renderBranches, value, Outcome.ok_bind]
    by_cases holds : d.isTrue = true
    · rw [if_pos holds, if_pos holds, rendered]
      rfl
    · rw [if_neg holds, if_neg holds]
      rfl
  have both := cons chosen rest
  rwa [apply_ite textOf] at both

theorem turns_show {α : Type} {variableName : String} {toDatum : α → Datum} {f : α → String}
    (each : ∀ x record, Shows inclusion ((variableName, toDatum x) :: ("loop", record) :: env) body (f x))
    (xs : List α) :
    ∃ parts, ((turns env variableName (xs.map toDatum)).mapM fun turn =>
      (renderNodes inclusion turn body).map (·.1)) = .ok parts ∧ parts.map textOf = xs.map f := by
  refine exists_turns (fun x record => ?_) xs
  obtain ⟨fragments, rendered, same⟩ := each x record
  exact ⟨fragments, by rw [rendered]; rfl, same⟩

theorem loop {α : Type} {variableName : String} {elements : Expr} {list : Datum} {toDatum : α → Datum} {xs : List α}
    {f : α → String} (value : elements.eval env = .ok list) (listed : list.elements = .ok (xs.map toDatum))
    (each : ∀ x record, Shows inclusion ((variableName, toDatum x) :: ("loop", record) :: env) body (f x))
    (rest : Shows inclusion env nodes shown) :
    Shows inclusion env (.loop variableName elements none body [] :: nodes) (String.join (xs.map f) ++ shown) := by
  obtain ⟨parts, made, same⟩ := turns_show each xs
  have repeated : (Node.loop variableName elements none body []).render inclusion env = .ok (parts.flatten, env) := by
    rw [Node.render, value, Outcome.ok_bind, listed]
    simp only [Outcome.ok_bind, passing, made]
    split
    case isTrue none =>
      rw [List.isEmpty_iff.mp none] at made
      cases made
      rfl
    case isFalse => rfl
  have both := cons repeated rest
  rwa [textOf_flatten, same] at both

theorem between {before after : List Node} (keep : nodesKeepNames before = true)
    (shows : Shows inclusion env nodes shown) :
    (renderNodes inclusion env (before ++ nodes ++ after)).map (textOf ·.1) = do
      let head ← (renderNodes inclusion env before).map (textOf ·.1)
      let tail ← (renderNodes inclusion env after).map (textOf ·.1)
      return head ++ shown ++ tail := by
  obtain ⟨fragments, rendered, rfl⟩ := shows
  rw [renderNodes_append, renderNodes_append]
  cases head : renderNodes inclusion env before with
  | error failure => rfl
  | ok first =>
    have kept : first.2 = env := renderNodes_keepNames keep first head
    simp only [Outcome.ok_bind, Outcome.pure_eq, kept, rendered]
    cases renderNodes inclusion env after with
    | error failure => rfl
    | ok last => simp [textOf_append, String.append_assoc]

end Shows

section
variable {separator typeField answerField : String} {typeOf : Parameter → TypeExpr} {method : Method}
  {answer : Option TypeExpr} {context : Env}

theorem argument_shows {env : Env} {parameter : Parameter} (means : env.get "parameter" = .parameter parameter)
    (typed : ∀ p, Datum.parameterAttribute? p typeField = some (.type (typeOf p))) (inclusion : Inclusion) :
    Shows inclusion env (argumentNodes separator typeField) (argument separator typeOf parameter) := by
  have key := Expr.eval_member "camel_case_name" means rfl
  have mark := Expr.eval_member "cardinality" means rfl
  have type := Expr.eval_member typeField means (typed parameter)
  have shown : Shows inclusion env (argumentNodes separator typeField) ("        " ++ (parameter.argument ++
      (parameter.cardinality ++ (": " ++ ((typeOf parameter).text ++ ((separator ++ "\n") ++ "")))))) :=
    .text _ (.output key (.output mark (.text _ (.output type (.text _ .nil)))))
  unfold argument
  simpa only [String.append_assoc, String.append_empty] using shown

theorem signature_shows (typed : ∀ p, Datum.parameterAttribute? p typeField = some (.type (typeOf p)))
    (answers : Datum.methodAttribute? method answerField = some (Datum.ofType? answer)) (inclusion : Inclusion) :
    Shows inclusion (("method", .method method) :: context) (signatureNodes separator typeField answerField)
      ("     */\n" ++ signature separator typeOf answer method ++ "        let path = ") := by
  have means : Env.get (("method", .method method) :: context) "method" = .method method := by
    simp [Env.get]
  have name := Expr.eval_member "method_name" means rfl
  have parameters := Expr.eval_member "parameters" means rfl
  have optional : (Expr.negation (.member (.var "method") "has_required_parameters")).eval
      (("method", .method method) :: context) = .ok (.bool !method.hasRequiredParameters) := by
    rw [Expr.eval, Expr.eval_member _ means rfl]
    rfl
  have answered : (Expr.either (.member (.var "method") answerField) (.literal (.text "any"))).eval
      (("method", .method method) :: context) = .ok (answer.elim (.text "any") .type) := by
    rw [Expr.eval, Expr.eval_member _ means answers]
    cases answer <;> rfl
  have given : (answer.elim (Datum.text "any") .type).shown = answer.elim "any" TypeExpr.text := by
    cases answer <;> rfl
  have default : (if (Datum.bool !method.hasRequiredParameters).isTrue then " = \x7b\x7d" ++ "" else "") =
      if ∀ p ∈ method.parameters, p.cardinality = "?" then " = \x7b\x7d" else "" := by
    simp only [all_optional_iff]
    cases method.hasRequiredParameters <;> rfl
  -- One node of the template after another, each with the text that it shows.
  have shown : Shows inclusion (("method", .method method) :: context)
      (signatureNodes separator typeField answerField)
      (("     */\n" ++ "    ") ++ (method.name ++ ("(parameters: \x7b\n" ++
        (String.join (method.parameters.map (argument separator typeOf)) ++
          (("        [key: string]: any" ++ separator ++ "\n    \x7d") ++
            ((if (Datum.bool !method.hasRequiredParameters).isTrue then " = \x7b\x7d" ++ "" else "") ++
              ("): Promise<" ++ ((answer.elim (Datum.text "any") .type).shown ++
                (("> \x7b\n" ++ "        let path = ") ++ ""))))))))) :=
    .text _ <| .output name <| .text _ <|
      .loop parameters rfl (fun p record => argument_shows (by simp [Env.get]) typed inclusion) <|
      .text _ <| .choice optional (.text _ .nil) <| .text _ <| .output answered <| .text _ .nil
  rw [default, given] at shown
  unfold signature
  simpa only [String.append_assoc, String.append_empty] using shown

end

/-! ## Comments and bodies -/

def opens (start : String) : List Node → Bool
  | .text s :: _ => start.toList.isPrefixOf s
  | _ => false

def closes (ending : String) (nodes : List Node) : Bool :=
  match nodes.getLast? with
  | some (.text s) => ending.toList.isSuffixOf s
  | _ => false

section
variable {nodes : List Node} {inclusion : Inclusion} {env : Env}

theorem renderNodes_opens {start : String} (holds : opens start nodes = true) :
    Yields (fun rendered => ∃ rest, textOf rendered.1 = start ++ rest) (renderNodes inclusion env nodes) := by
  unfold opens at holds
  split at holds
  · obtain ⟨others, rfl⟩ := List.isPrefixOf_iff_prefix.mp holds
    rw [renderNodes, Node.render, Outcome.ok_bind]
    refine .bind_any fun more _ => .ok ⟨String.ofList others ++ textOf more.1, ?_⟩
    rw [textOf_append, textOf_singleton, Fragment.text, String.ofList_append, String.ofList_toList,
      String.append_assoc]
  · cases holds

theorem renderNodes_closes {ending : String} (holds : closes ending nodes = true) :
    Yields (fun rendered => ∃ rest, textOf rendered.1 = rest ++ ending) (renderNodes inclusion env nodes) := by
  unfold closes at holds
  split at holds
  case h_1 s last =>
    obtain ⟨others, rfl⟩ := List.isSuffixOf_iff_suffix.mp holds
    rw [← List.dropLast_append_getLast? _ last, renderNodes_append]
    refine .bind_any fun before _ => ?_
    simp only [renderNodes, Node.render, Outcome.ok_bind]
    refine .ok ⟨textOf before.1 ++ String.ofList others, ?_⟩
    rw [List.append_nil, textOf_append, textOf_singleton, Fragment.text, String.ofList_append, String.ofList_toList,
      String.append_assoc]
  case h_2 => cases holds

end

def areAround (before after : List Node) : Bool :=
  nodesKeepNames before && opens "    /**\n" before && closes "    \x7d\n" after

def differInSignature (typescript flow : List Node) : Bool :=
  match around? (signatureNodes ";" "ts_type" "method_ts_type") typescript,
    around? (signatureNodes "," "flow_type" "method_flow_type") flow with
  | some (before, after), some (first, last) => areAround before after && nodesSame before first && nodesSame after last
  | _, _ => false

theorem eq_of_differInSignature {typescript flow : List Node} (holds : differInSignature typescript flow = true) :
    ∃ before after, areAround before after = true ∧
      typescript = before ++ signatureNodes ";" "ts_type" "method_ts_type" ++ after ∧
      flow = before ++ signatureNodes "," "flow_type" "method_flow_type" ++ after := by
  unfold differInSignature at holds
  split at holds
  case h_1 before after first last found other =>
    simp only [Bool.and_eq_true] at holds
    obtain ⟨⟨around, comment⟩, body⟩ := holds
    obtain rfl := eq_of_nodesSame comment
    obtain rfl := eq_of_nodesSame body
    exact ⟨before, after, around, eq_of_around? found, eq_of_around? other⟩
  case h_2 => cases holds

theorem exists_pair_of_spells {lines others : List String} {spelling otherSpelling : List (List Char)}
    {check : List Node → List Node → Bool} (spells : Spells spelling lines) (otherSpells : Spells otherSpelling others)
    (checked : ((read (spelling.flatMap (· ++ ['\n']))).toOption.any fun nodes =>
      (read (otherSpelling.flatMap (· ++ ['\n']))).toOption.any (check nodes)) = true) :
    ∃ nodes more, ofSource (.text (Builtin.ofLines lines)) = .ok nodes ∧
      ofSource (.text (Builtin.ofLines others)) = .ok more ∧ check nodes more = true := by
  obtain ⟨nodes, read, checked⟩ := exists_nodes_of_spells spells checked
  obtain ⟨more, readToo, checked⟩ := exists_nodes_of_spells otherSpells checked
  exact ⟨nodes, more, read, readToo, checked⟩

section
set_option maxRecDepth 1000000

theorem methods_differInSignature : ∃ typescript flow,
    ofSource (.text Builtin.typescriptMethod) = .ok typescript ∧ ofSource (.text Builtin.flowMethod) = .ok flow ∧
      differInSignature typescript flow = true := by
  apply exists_pair_of_spells
  · repeat (apply List.Forall₂.cons; rfl)
    exact .nil
  · repeat (apply List.Forall₂.cons; rfl)
    exact .nil
  · decide +kernel

end

theorem render_of_nodes {source : Value} {nodes : List Node} (read : ofSource source = .ok nodes) (partials : Partials)
    (env : Env) :
    render partials source env =
      (renderNodes (includeFrom partials (renderWithin partials (inclusionDepth - 1))) env nodes).map (textOf ·.1) := by
  rw [render, fragments_of_read read, inclusionDepth, renderWithin]
  cases renderNodes (includeFrom partials (renderWithin partials (200 - 1))) env nodes <;> rfl

theorem divide_lines (head tail : Except Failure String) (signature : String) :
    (do
      let before ← head
      let after ← tail
      return before ++ ("     */\n" ++ signature ++ "        let path = ") ++ after) = (do
      let comment ← head.map (· ++ "     */\n")
      let body ← tail.map ("        let path = " ++ ·)
      return comment ++ signature ++ body) := by
  cases head <;> cases tail <;> simp [String.append_assoc]

/-- A method of a TypeScript client and that of a Flow client have the same comment and the same body, whatever the
method and the names known around it. Between them stands a signature, which has the arguments with the same keys and
marks in the same order. They may be left out altogether where each of them may be missing. -/
theorem render_typed_methods (method : Method) (context : Env) (partials : Partials) :
    ∃ comment body : Except Failure String,
      Yields (fun text => ∃ lines, text = "    /**\n" ++ lines ++ "     */\n") comment ∧
      Yields (fun text => ∃ lines, text = "        let path = " ++ lines ++ "    \x7d\n") body ∧
      render partials (.text Builtin.typescriptMethod) (("method", .method method) :: context) = (do
        let comment ← comment
        let body ← body
        return comment ++ signature ";" Parameter.tsType method.response.tsType method ++ body) ∧
      render partials (.text Builtin.flowMethod) (("method", .method method) :: context) = (do
        let comment ← comment
        let body ← body
        return comment ++ signature "," Parameter.flowType method.response.flowType method ++ body) := by
  obtain ⟨_, _, typescript, flow, differ⟩ := methods_differInSignature
  obtain ⟨before, after, around, rfl, rfl⟩ := eq_of_differInSignature differ
  simp only [areAround, Bool.and_eq_true] at around
  obtain ⟨⟨keep, opens⟩, closes⟩ := around
  let inclusion := includeFrom partials (renderWithin partials (inclusionDepth - 1))
  let text (nodes : List Node) : Except Failure String :=
    (renderNodes inclusion (("method", .method method) :: context) nodes).map (textOf ·.1)
  refine ⟨(text before).map (· ++ "     */\n"), (text after).map ("        let path = " ++ ·), ?_, ?_, ?_, ?_⟩
  · have opened : Yields (∃ rest, · = "    /**\n" ++ rest) (text before) := (renderNodes_opens opens).map fun _ => id
    refine opened.map fun _ ⟨rest, same⟩ => ⟨rest, ?_⟩
    rw [same]
  · have closed : Yields (∃ rest, · = rest ++ "    \x7d\n") (text after) := (renderNodes_closes closes).map fun _ => id
    refine closed.map fun _ ⟨rest, same⟩ => ⟨rest, ?_⟩
    rw [same, String.append_assoc]
  · rw [render_of_nodes typescript, Shows.between keep (signature_shows (fun p => rfl) rfl inclusion)]
    exact divide_lines _ _ _
  · rw [render_of_nodes flow, Shows.between keep (signature_shows (fun p => rfl) rfl inclusion)]
    exact divide_lines _ _ _

/-! ## A method with a key in its path and a limit -/

def queryLimit : Parameter where
  name := "limit"
  argument := "limit"
  location := .query
  required := false
  tsType := .plain .number "number" .null
  flowType := .plain .number "number" .null
  declaredType := .text "integer"
  description := .null
  singleton := none
  pattern := none

def itemMethod : Method where
  path := .text "/items/\x7bkey\x7d"
  verb := "GET"
  name := "getItem"
  summary := .text "One of many"
  security := {}
  response := ⟨some (Dialect.typescript.ref .null "Item"), some (Dialect.flow.ref .null "Item"), .null⟩
  parameters := [{ queryLimit with name := "key", argument := "key", location := .path, required := true }, queryLimit]
  headers := []
  className := none
  externalDocs := .null

section
set_option maxRecDepth 1000000

theorem typescriptMethod_renders : ∃ nodes, ofSource (.text Builtin.typescriptMethod) = .ok nodes ∧
    Generation.renders [] [("method", .method itemMethod)] nodes = true := by
  apply exists_nodes_of_spells
  · repeat (apply List.Forall₂.cons; rfl)
    exact .nil
  · decide +kernel

end

/-- There is such a method in TypeScript, and so there is one in Flow. -/
theorem render_typed_methods_item : ∃ comment body,
    render [] (.text Builtin.typescriptMethod) [("method", .method itemMethod)] =
      .ok (comment ++ signature ";" Parameter.tsType itemMethod.response.tsType itemMethod ++ body) ∧
    render [] (.text Builtin.flowMethod) [("method", .method itemMethod)] =
      .ok (comment ++ signature "," Parameter.flowType itemMethod.response.flowType itemMethod ++ body) ∧
    signature "," Parameter.flowType itemMethod.response.flowType itemMethod =
      "    getItem(parameters: \x7b\n        key: number,\n        limit?: number,\n" ++
        "        [key: string]: any,\n    \x7d): Promise<Item> \x7b\n" := by
  obtain ⟨comment, body, _, _, typescript, flow⟩ := render_typed_methods itemMethod [] []
  obtain ⟨_, read, done⟩ := typescriptMethod_renders
  obtain ⟨fragments, made⟩ := Generation.fragments_of_renders read done
  have rendered : render [] (.text Builtin.typescriptMethod) [("method", .method itemMethod)] =
      .ok (textOf fragments) := by
    rw [render, made]
    rfl
  obtain ⟨comment, rfl, rest⟩ := Outcome.bind_eq_ok.mp (typescript.symm.trans rendered)
  obtain ⟨body, rfl, _⟩ := Outcome.bind_eq_ok.mp rest
  exact ⟨comment, body, typescript, flow, by decide +kernel⟩

end ClientGen.Template
