import ClientGen.Standard
import ClientGen.Proofs.Template.Builtin

/-! The code of a client is what comes before its methods, the methods one after another, and what comes after
them. A method is written on its own: neither its place nor the other methods matter. -/

set_option autoImplicit false

namespace ClientGen

open Template
open Outcome (Related)

namespace Template

def enclosed (head : Except Failure (List Fragment × Env)) (blocks : Except Failure (List (List Fragment)))
    (tail : Except Failure (List Fragment × Env)) : Except Failure (List Fragment) := do
  let head ← head
  let blocks ← blocks
  let tail ← tail
  return head.1 ++ (blocks.map (.copied ['\n'] :: ·)).flatten ++ tail.1

theorem textOf_append (first rest : List Fragment) : textOf (first ++ rest) = textOf first ++ textOf rest := by
  unfold textOf
  rw [List.map_append, String.join_append]

theorem textOf_flatten (parts : List (List Fragment)) : textOf parts.flatten = String.join (parts.map textOf) := by
  induction parts with
  | nil => rfl
  | cons part rest ih => rw [List.flatten_cons, textOf_append, ih, List.map_cons, String.join_cons]

theorem textOf_blocks (blocks : List (List Fragment)) :
    textOf (blocks.map (.copied ['\n'] :: ·)).flatten = String.join ((blocks.map textOf).map ("\n" ++ ·)) := by
  rw [textOf_flatten, List.map_map, List.map_map]
  refine congrArg String.join (List.map_congr_left fun block _ => ?_)
  exact textOf_append [.copied ['\n']] block

theorem enclosed_map_textOf (head tail : Except Failure (List Fragment × Env))
    (blocks : Except Failure (List (List Fragment))) :
    (enclosed head blocks tail).map textOf = do
      let before ← head.map (textOf ·.1)
      let blocks ← blocks.map (List.map textOf)
      let after ← tail.map (textOf ·.1)
      return before ++ String.join (blocks.map ("\n" ++ ·)) ++ after := by
  cases head with
  | error failure => rfl
  | ok head =>
    cases blocks with
    | error failure => rfl
    | ok blocks =>
      cases tail with
      | error failure => rfl
      | ok tail =>
        refine congrArg Except.ok ?_
        rw [textOf_append, textOf_append, textOf_blocks]

end Template

namespace Templates

/-- Templates of which the one that is rendered has a loop over methods, with what goes around it. -/
structure Parts (templates : Templates) (before after method : List Node) : Prop where
  mainRead : ofSource (templates.main.orElse (.text "")) = .ok (before ++ methodsLoop :: after)
  methodRead : ofSource templates.method = .ok method
  methodListed : templates.partials.lookup "method" = some templates.method
  typeRead : ∀ source, templates.partials.lookup "type" = some source →
    ∃ nodes, ofSource source = .ok nodes ∧ IsType nodes
  isClass : IsClass before after
  isMethod : IsMethod method

theorem text_orElse_empty (s : String) : (Value.text s).orElse (.text "") = .text s := by
  by_cases empty : s = ""
  · rw [empty]
    rfl
  · simp [Value.orElse, Value.isTrue, empty]

theorem exists_parts {main method : String} {type : Value}
    (mainRead : ∃ nodes, ofSource (.text main) = .ok nodes ∧ Template.isClass nodes = true)
    (methodRead : ∃ nodes, ofSource (.text method) = .ok nodes ∧ decide (IsMethod nodes) = true)
    (typeRead : type = .null ∨ ∃ text, type = .text text ∧
      ∃ nodes, ofSource (.text text) = .ok nodes ∧ decide (IsType nodes) = true) :
    ∃ before after nodes, Parts ⟨.text main, .text method, type⟩ before after nodes := by
  obtain ⟨_, mainRead, isClass⟩ := mainRead
  obtain ⟨nodes, methodRead, isMethod⟩ := methodRead
  obtain ⟨before, after, rfl, around⟩ := eq_of_isClass isClass
  replace isMethod := of_decide_eq_true isMethod
  refine ⟨before, after, nodes, ?_, methodRead, ?_, ?_, around, isMethod⟩
  · rw [text_orElse_empty]
    exact mainRead
  · rw [partials, text_orElse_empty]
    rfl
  · rcases typeRead with rfl | ⟨text, rfl, typeNodes, read, isType⟩
    · intro source listed
      cases listed
    · intro source listed
      cases listed
      exact ⟨typeNodes, read, of_decide_eq_true isType⟩

theorem builtin_parts {target : String} {templates : Templates} (known : builtin? target = some templates) :
    ∃ before after method, Parts templates before after method := by
  unfold builtin? at known
  split at known <;> cases known
  · exact exists_parts (builtin_areClasses _ (by simp)) (builtin_areMethods _ (by simp)) (.inl rfl)
  · exact exists_parts (builtin_areClasses _ (by simp)) (builtin_areMethods _ (by simp))
      (.inr ⟨_, rfl, builtin_areTypes _ (by simp)⟩)
  · exact exists_parts (builtin_areClasses _ (by simp)) (builtin_areMethods _ (by simp))
      (.inr ⟨_, rfl, builtin_areTypes _ (by simp)⟩)

def inclusion (templates : Templates) : Inclusion :=
  includeFrom templates.partials (renderWithin templates.partials (inclusionDepth - 1))

def methodFragments (templates : Templates) (method className isSecure : Datum) : Except Failure (List Fragment) :=
  fragments [] templates.method [("method", method), ("class_name", className), ("is_secure", isSecure)]

namespace Parts

variable {templates : Templates} {before after method : List Node} (parts : Parts templates before after method)
include parts

theorem inclusion_method (env : Env) (d record : Datum) :
    templates.inclusion (("method", d) :: ("loop", record) :: env) (.text "method") false =
      templates.methodFragments d (env.get "class_name") (env.get "is_secure") := by
  have agree : AgreeOn methodNames (("method", d) :: ("loop", record) :: env)
      [("method", d), ("class_name", env.get "class_name"), ("is_secure", env.get "is_secure")] := by
    intro name among
    simp only [methodNames, List.contains_cons, Bool.or_eq_true, beq_iff_eq] at among
    rcases among with rfl | rfl | rfl | impossible
    · rfl
    · rfl
    · rfl
    · cases impossible
  have included : templates.inclusion (("method", d) :: ("loop", record) :: env) (.text "method") false =
      (do
        let nodes ← ofSource templates.method
        renderWithin templates.partials (inclusionDepth - 1) (("method", d) :: ("loop", record) :: env) nodes) := by
    unfold inclusion includeFrom
    simp only [Datum.text, parts.methodListed]
  rw [included, methodFragments, fragments_of_read parts.methodRead, parts.methodRead, Outcome.ok_bind]
  exact renderWithin_congr parts.isMethod.within agree templates.partials [] 198 199

theorem fragments_eq (env : Env) :
    fragments templates.partials (templates.main.orElse (.text "")) env =
      enclosed (renderNodes templates.inclusion env before)
        (do
          let methods ← (env.get "methods").elements
          methods.mapM fun d => templates.methodFragments d (env.get "class_name") (env.get "is_secure"))
        (renderNodes templates.inclusion env after) := by
  have blocks (methods : List Datum) :
      ((turns env "method" methods).mapM fun turn => templates.inclusion turn (.text "method") false) =
        methods.mapM fun d => templates.methodFragments d (env.get "class_name") (env.get "is_secure") :=
    mapM_turns (parts.inclusion_method env) methods
  have rendered : renderWithin templates.partials inclusionDepth env (before ++ methodsLoop :: after) =
      (renderNodes templates.inclusion env (before ++ methodsLoop :: after)).map (·.1) := rfl
  rw [fragments_of_read parts.mainRead, rendered, renderNodes_around parts.isClass.keep]
  simp only [blocks, enclosed, bind_assoc, Outcome.map_bind, Outcome.pure_eq, Outcome.map_ok]

theorem sameInclusion : SameInclusion ["type"] otherThanMethods templates.inclusion templates.inclusion := by
  intro name among a b mayBeMissing agree
  obtain rfl := List.mem_singleton.mp among
  simp only [inclusion, includeFrom, Datum.text]
  cases listed : templates.partials.lookup "type" with
  | none => rfl
  | some source =>
    obtain ⟨nodes, read, isType⟩ := parts.typeRead source listed
    simp only [read, Outcome.ok_bind]
    exact renderWithin_congr isType.within agree templates.partials templates.partials 198 198

theorem silent {text : List Char} (outside : text ∈ helperCall :: outsideMethods) :
    Silent templates.inclusion ["type"] text := by
  intro name among env mayBeMissing fragments included
  obtain rfl := List.mem_singleton.mp among
  simp only [inclusion, includeFrom, Datum.text] at included
  cases listed : templates.partials.lookup "type" with
  | none =>
    simp only [listed] at included
    split at included <;> cases included
    exact not_emits_nil
  | some source =>
    obtain ⟨nodes, read, isType⟩ := parts.typeRead source listed
    simp only [listed, read, Outcome.ok_bind] at included
    exact renderWithin_hide (isType.hides text outside) _ _ _ fragments included

end Parts

end Templates

namespace Generation

/-- The text of a method, which is rendered where no other names are known than those given. -/
def methodBlock (templates : Templates) (className isSecure : Datum) (method : Method) : Except Failure String :=
  render [] templates.method [("method", .method method), ("class_name", className), ("is_secure", isSecure)]

theorem agree_contextOf (extra : Env) (view : View) (methods : List Method) :
    AgreeOn otherThanMethods (extra ++ contextOf { view with methods }) (extra ++ contextOf view) := by
  intro name other
  have differ : (name == "methods") = false := by simpa [otherThanMethods] using other
  simp [Env.get, List.lookup_append, contextOf, List.lookup_cons, differ]

theorem get_methods {extra : Env} (free : extra.lookup "methods" = none) (view : View) :
    Env.get (extra ++ contextOf view) "methods" = .list (view.methods.map .method) := by
  unfold Env.get
  rw [List.lookup_append, free]
  rfl

variable {target : String} {templates : Templates} {options : Options} {extra : Env}

theorem generate_builtin (builtin : Templates.builtin? target = some templates) (plain : options.beautify = false)
    (tools : Tools) (view : View) : generate tools view target options = renderView view target options := by
  have pretyped : target ∈ pretypedTargets := by
    unfold Templates.builtin? at builtin
    split at builtin
    · simp [pretypedTargets]
    · simp [pretypedTargets]
    · simp [pretypedTargets]
    · cases builtin
  -- Code of such a target is never checked, and without layout the text is the code.
  unfold generate
  cases renderView view target options with
  | error failure => rfl
  | ok source => simp [checkSource, layOut, pretyped, plain]

theorem fragmentsOf_eq (defaults : Templates.forTarget target options.template = .ok templates)
    (given : extraNames options.extraContext = .ok extra) (view : View) :
    fragmentsOf view target options =
      fragments templates.partials (templates.main.orElse (.text "")) (extra ++ contextOf view) := by
  obtain ⟨entries, listed, named⟩ := Outcome.bind_eq_ok.mp given
  unfold fragmentsOf
  rw [defaults, listed, Outcome.ok_bind, Outcome.ok_bind, named]
  rfl

theorem exists_extraNames {view : View} {fragments : List Fragment}
    (made : fragmentsOf view target options = .ok fragments) :
    ∃ extra, extraNames options.extraContext = .ok extra := by
  obtain ⟨templates, _, made⟩ := Outcome.bind_eq_ok.mp made
  obtain ⟨entries, listed, made⟩ := Outcome.bind_eq_ok.mp made
  obtain ⟨nodes, _, made⟩ := Outcome.bind_eq_ok.mp made
  obtain ⟨env, given, _⟩ := Outcome.bind_eq_ok.mp made
  obtain ⟨extra, named, _⟩ := Outcome.map_eq_ok.mp given
  exact ⟨extra, Outcome.bind_eq_ok.mpr ⟨entries, listed, named⟩⟩

/-- Everything but the blocks of methods is the same for all methods. -/
theorem fragmentsOf_parts {before after method : List Node} (parts : templates.Parts before after method)
    (defaults : Templates.forTarget target options.template = .ok templates)
    (given : extraNames options.extraContext = .ok extra) (free : extra.lookup "methods" = none) (view : View)
    (methods : List Method) :
    fragmentsOf { view with methods } target options =
      enclosed (renderNodes templates.inclusion (extra ++ contextOf view) before)
        (methods.mapM fun method => templates.methodFragments (.method method)
          (Env.get (extra ++ contextOf view) "class_name") (Env.get (extra ++ contextOf view) "is_secure"))
        (renderNodes templates.inclusion (extra ++ contextOf view) after) := by
  have agree := agree_contextOf extra view methods
  have elements : (Env.get (extra ++ contextOf { view with methods }) "methods").elements =
      .ok (methods.map .method) := by
    rw [get_methods free]
    rfl
  rw [fragmentsOf_eq defaults given, parts.fragments_eq, elements, agree "class_name" rfl, agree "is_secure" rfl]
  simp only [Outcome.ok_bind, List.mapM_map]
  have head := renderNodes_congr parts.sameInclusion agree before parts.isClass.before_within
  have tail := renderNodes_congr (.none otherThanMethods templates.inclusion templates.inclusion) agree after
    parts.isClass.after_within
  refine Related.eq (head.bind fun first other same => .bind_same fun blocks _ => tail.bind fun last rest alike => ?_)
  rw [same.1, alike.1]
  exact .ok rfl

theorem generate_parts {before after method : List Node} (parts : templates.Parts before after method)
    (builtin : Templates.builtin? target = some templates)
    (defaults : Templates.forTarget target options.template = .ok templates) (plain : options.beautify = false)
    (given : extraNames options.extraContext = .ok extra) (free : extra.lookup "methods" = none) (tools : Tools)
    (view : View) (methods : List Method) :
    generate tools { view with methods } target options = do
      let head ← (renderNodes templates.inclusion (extra ++ contextOf view) before).map (textOf ·.1)
      let blocks ← methods.mapM (methodBlock templates (Env.get (extra ++ contextOf view) "class_name")
        (Env.get (extra ++ contextOf view) "is_secure"))
      let tail ← (renderNodes templates.inclusion (extra ++ contextOf view) after).map (textOf ·.1)
      return head ++ String.join (blocks.map ("\n" ++ ·)) ++ tail := by
  have blocks : methods.mapM (methodBlock templates (Env.get (extra ++ contextOf view) "class_name")
      (Env.get (extra ++ contextOf view) "is_secure")) = (methods.mapM fun method =>
        templates.methodFragments (.method method) (Env.get (extra ++ contextOf view) "class_name")
          (Env.get (extra ++ contextOf view) "is_secure")).map (List.map textOf) :=
    Outcome.mapM_map _ textOf methods
  rw [generate_builtin builtin plain, renderView, fragmentsOf_parts parts defaults given free, blocks]
  exact enclosed_map_textOf _ _ _

/-- The code of a built-in client for all lists of methods that a view can have. What comes before the methods and
what comes after them is the same for all lists, and between them stands a line break and a block for each method,
which has to do with nothing but the method itself, the name of the class and whether the client is secured. So where
there is code, there is also code for any other selection of the methods, in which each has the block it had. -/
theorem generate_blocks (builtin : Templates.builtin? target = some templates)
    (defaults : Templates.forTarget target options.template = .ok templates) (plain : options.beautify = false)
    (given : extraNames options.extraContext = .ok extra) (free : extra.lookup "methods" = none) (tools : Tools)
    (view : View) :
    ∃ head tail : Except Failure String,
      (∀ methods, generate tools { view with methods } target options = do
        let before ← head
        let blocks ← methods.mapM (methodBlock templates (Env.get (extra ++ contextOf view) "class_name")
          (Env.get (extra ++ contextOf view) "is_secure"))
        let after ← tail
        return before ++ String.join (blocks.map ("\n" ++ ·)) ++ after) ∧
      ∀ methods source, generate tools { view with methods } target options = .ok source →
        ∃ (before after : String) (block : Method → String),
          (∀ method ∈ methods, methodBlock templates (Env.get (extra ++ contextOf view) "class_name")
            (Env.get (extra ++ contextOf view) "is_secure") method = .ok (block method)) ∧
          ∀ others, others ⊆ methods → generate tools { view with methods := others } target options =
            .ok (before ++ String.join (others.map ("\n" ++ block ·)) ++ after) := by
  obtain ⟨before, after, nodes, parts⟩ := Templates.builtin_parts builtin
  have whole := generate_parts parts builtin defaults plain given free tools view
  refine ⟨_, _, whole, fun methods source generated => ?_⟩
  rw [whole] at generated
  obtain ⟨first, head, generated⟩ := Outcome.bind_eq_ok.mp generated
  obtain ⟨blocks, made, generated⟩ := Outcome.bind_eq_ok.mp generated
  obtain ⟨last, tail, _⟩ := Outcome.bind_eq_ok.mp generated
  -- A block that cannot be rendered is nowhere asked for.
  let block (method : Method) : String := ((methodBlock templates (Env.get (extra ++ contextOf view) "class_name")
    (Env.get (extra ++ contextOf view) "is_secure") method).toOption).getD ""
  have each (method : Method) (among : method ∈ methods) :
      methodBlock templates (Env.get (extra ++ contextOf view) "class_name")
        (Env.get (extra ++ contextOf view) "is_secure") method = .ok (block method) := by
    obtain ⟨text, same⟩ := Outcome.exists_of_mapM made among
    simp only [block, same]
    rfl
  refine ⟨first, last, block, each, fun others among => ?_⟩
  have listed : others.mapM (methodBlock templates (Env.get (extra ++ contextOf view) "class_name")
      (Env.get (extra ++ contextOf view) "is_secure")) = .ok (others.map block) :=
    Outcome.mapM_eq_ok fun method listed => each method (among listed)
  rw [whole, head, listed, tail, Outcome.ok_bind, Outcome.ok_bind, Outcome.ok_bind, List.map_map]
  rfl

/-! ## A client with a token and two methods, of which one is secured -/

def securedView : View :=
  { View.empty with security := { isSecure := true, token := true }, className := some "Client" }

def bareMethod (name : String) (isSecure : Bool) : Method where
  path := .text "/a"
  verb := "GET"
  name := name
  summary := .null
  security := { isSecure }
  response := .unknown
  parameters := []
  headers := []
  className := some "Client"
  externalDocs := .null

def guardedMethod : Method := bareMethod "first" true

def openMethod : Method := bareMethod "second" false

def unformatted : Options := { beautify := false }

def javascriptTemplates : Templates where
  main := .text Builtin.javascriptClass
  method := .text Builtin.method

def renders (partials : Partials) (env : Env) (nodes : List Node) : Bool :=
  (renderWithin partials inclusionDepth env nodes).toOption.isSome

theorem fragments_of_renders {partials : Partials} {env : Env} {source : Value} {nodes : List Node}
    (read : ofSource source = .ok nodes) (done : renders partials env nodes = true) :
    ∃ rendered, fragments partials source env = .ok rendered := by
  rw [fragments_of_read read]
  unfold renders at done
  cases came : renderWithin partials inclusionDepth env nodes with
  | error failure =>
    rw [came] at done
    cases done
  | ok rendered => exact ⟨rendered, rfl⟩

section
set_option maxRecDepth 1000000

theorem javascript_builtin : Templates.builtin? "javascript" = some javascriptTemplates := rfl

theorem javascript_defaults : Templates.forTarget "javascript" unformatted.template = .ok javascriptTemplates := rfl

theorem unformatted_names : extraNames unformatted.extraContext = .ok [] := rfl

theorem javascriptClass_renders : ∃ nodes, ofSource (.text Builtin.javascriptClass) = .ok nodes ∧
    renders javascriptTemplates.partials (contextOf securedView) nodes = true := by
  apply exists_nodes_of_spells
  · repeat (apply List.Forall₂.cons; rfl)
    exact .nil
  · decide +kernel

theorem method_renders : ∃ nodes, ofSource (.text Builtin.method) = .ok nodes ∧
    ([guardedMethod, openMethod].all fun method =>
      renders [] [("method", .method method), ("class_name", .text "Client"), ("is_secure", .bool true)] nodes) =
        true := by
  apply exists_nodes_of_spells
  · repeat (apply List.Forall₂.cons; rfl)
    exact .nil
  · decide +kernel

end

theorem exists_fragmentsOf (view : View) {classNodes methodNodes : List Node}
    (classRead : ofSource (.text Builtin.javascriptClass) = .ok classNodes)
    (classRenders : renders javascriptTemplates.partials (contextOf { view with methods := [] }) classNodes = true)
    (methodRead : ofSource (.text Builtin.method) = .ok methodNodes)
    (methodRenders : (view.methods.all fun method => renders [] [("method", .method method),
      ("class_name", .ofText? view.className), ("is_secure", .bool view.security.isSecure)] methodNodes) = true) :
    ∃ fragments, fragmentsOf view "javascript" unformatted = .ok fragments := by
  obtain ⟨before, after, _, parts⟩ := Templates.builtin_parts javascript_builtin
  have together := fragmentsOf_parts parts javascript_defaults unformatted_names rfl view
  obtain ⟨fragments, alone⟩ := fragments_of_renders classRead classRenders
  -- What is around the blocks does not depend on the methods, so it is that of the client without methods.
  have empty : fragmentsOf { view with methods := [] } "javascript" unformatted = .ok fragments := by
    rw [fragmentsOf_eq javascript_defaults unformatted_names, javascriptTemplates, Templates.text_orElse_empty]
    exact alone
  rw [together] at empty
  obtain ⟨head, headDone, empty⟩ := Outcome.bind_eq_ok.mp empty
  obtain ⟨_, _, empty⟩ := Outcome.bind_eq_ok.mp empty
  obtain ⟨tail, tailDone, _⟩ := Outcome.bind_eq_ok.mp empty
  have each : ∀ method ∈ view.methods, ∃ block, javascriptTemplates.methodFragments (.method method)
      (.ofText? view.className) (.bool view.security.isSecure) = .ok block :=
    fun method among => fragments_of_renders methodRead (List.all_eq_true.mp methodRenders method among)
  obtain ⟨blocks, made⟩ := Outcome.exists_mapM_eq_ok each
  refine ⟨head.1 ++ (blocks.map (.copied ['\n'] :: ·)).flatten ++ tail.1, ?_⟩
  calc fragmentsOf view "javascript" unformatted
    _ = enclosed _ _ _ := together view.methods
    _ = enclosed (.ok head) (.ok blocks) (.ok tail) := by
      rw [headDone, tailDone]
      exact congrArg (enclosed (.ok head) · (.ok tail)) made
    _ = _ := rfl

theorem renderView_secured : ∃ code,
    renderView { securedView with methods := [guardedMethod, openMethod] } "javascript" unformatted = .ok code := by
  obtain ⟨_, classRead, classRenders⟩ := javascriptClass_renders
  obtain ⟨_, methodRead, methodRenders⟩ := method_renders
  obtain ⟨fragments, whole⟩ := exists_fragmentsOf { securedView with methods := [guardedMethod, openMethod] } classRead
    classRenders methodRead methodRenders
  rw [renderView, whole]
  exact ⟨_, rfl⟩

theorem generate_blocks_swapped :
    ∃ (before after : String) (block : Method → String),
      generate Tools.standard { securedView with methods := [guardedMethod, openMethod] } "javascript" unformatted =
        .ok (before ++ String.join ["\n" ++ block guardedMethod, "\n" ++ block openMethod] ++ after) ∧
      generate Tools.standard { securedView with methods := [openMethod, guardedMethod] } "javascript" unformatted =
        .ok (before ++ String.join ["\n" ++ block openMethod, "\n" ++ block guardedMethod] ++ after) ∧
      generate Tools.standard { securedView with methods := [openMethod] } "javascript" unformatted =
        .ok (before ++ String.join ["\n" ++ block openMethod] ++ after) := by
  obtain ⟨code, rendered⟩ := renderView_secured
  rw [← generate_builtin javascript_builtin rfl Tools.standard] at rendered
  obtain ⟨_, _, _, selected⟩ := generate_blocks javascript_builtin javascript_defaults rfl unformatted_names rfl
    Tools.standard securedView
  obtain ⟨before, after, block, _, others⟩ := selected [guardedMethod, openMethod] code rendered
  refine ⟨before, after, block, others _ (List.Subset.refl _), others _ ?_, others _ ?_⟩
  · exact (List.Perm.swap guardedMethod openMethod []).subset
  · exact List.subset_cons_self _ _

end Generation

end ClientGen
