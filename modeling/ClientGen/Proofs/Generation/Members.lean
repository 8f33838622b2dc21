import ClientGen.Proofs.Client.Flags
import ClientGen.Proofs.Client.Members
import ClientGen.Proofs.Generation.Blocks
import ClientGen.Proofs.Template.Members

/-! The members of a client's class. Some of them the class declares itself, and the others are its methods. Names are
kept apart among methods only, so an operation can ask for a name that the class has already. -/

set_option autoImplicit false

namespace ClientGen

open Template
open Outcome (Yields)

namespace Templates

theorem partials_declareNothing {templates : Templates} {method : String}
    (methodText : templates.method = .text method) (methodAmong : method ∈ includedTexts)
    (typeAmong : templates.type = .null ∨ ∃ type ∈ includedTexts, templates.type = .text type) :
    ∀ name ∈ ["type", "method"], ∀ source, templates.partials.lookup name = some source →
      ∃ nodes, ofSource source = .ok nodes ∧ nodesLack declared [] nodes = true := by
  intro name among source listed
  rw [partials, methodText, text_orElse_empty] at listed
  simp only [List.mem_cons, List.not_mem_nil, or_false] at among
  rcases among with rfl | rfl
  · rcases typeAmong with none | ⟨type, typeAmong, typeText⟩
    · rw [none] at listed
      cases listed
    · rw [typeText] at listed
      cases listed
      exact included_declareNothing type typeAmong
  · cases listed
    exact included_declareNothing method methodAmong

theorem builtin_declares {target : String} {templates : Templates} (known : builtin? target = some templates) :
    (∃ nodes, ofSource (templates.main.orElse (.text "")) = .ok nodes ∧ declares (declarations target) nodes = true) ∧
    ∀ name ∈ ["type", "method"], ∀ source, templates.partials.lookup name = some source →
      ∃ nodes, ofSource source = .ok nodes ∧ nodesLack declared [] nodes = true := by
  unfold builtin? at known
  split at known <;> cases known
  · rw [text_orElse_empty]
    exact ⟨classes_declare ("javascript", Builtin.javascriptClass) (by simp),
      partials_declareNothing rfl (by simp [includedTexts]) (.inl rfl)⟩
  · rw [text_orElse_empty]
    exact ⟨classes_declare ("typescript", Builtin.typescriptClass) (by simp),
      partials_declareNothing rfl (by simp [includedTexts]) (.inr ⟨_, by simp [includedTexts], rfl⟩)⟩
  · rw [text_orElse_empty]
    exact ⟨classes_declare ("flow", Builtin.flowClass) (by simp),
      partials_declareNothing rfl (by simp [includedTexts]) (.inr ⟨_, by simp [includedTexts], rfl⟩)⟩

end Templates

def Template.Credential.kind : Credential → Security.Kind
  | .token => .token
  | .apiKey => .apiKey
  | .basic => .basic

namespace Generation

/-- The members that the class of a client has whatever its methods are. -/
def ownMembers (target : String) (security : Security) : List String :=
  let credentials := Credential.all.filter (security.uses ·.kind)
  (if target = "javascript" then [] else "domain" :: credentials.map Credential.field) ++
    (["constructor", "request"] ++ credentials.map Credential.setter ++
      if security.isSecure then ["setAuthHeaders"] else [])

def ownNames : List String :=
  ("domain" :: Credential.all.map Credential.field) ++
    (["constructor", "request"] ++ Credential.all.map Credential.setter ++ ["setAuthHeaders"])

theorem ownNames_nodup : ownNames.Nodup := by decide

theorem ownMembers_sublist (target : String) (security : Security) : (ownMembers target security).Sublist ownNames := by
  have chosen (name : Credential → String) :
      ((Credential.all.filter (security.uses ·.kind)).map name).Sublist (Credential.all.map name) :=
    List.filter_sublist.map name
  unfold ownMembers ownNames
  refine List.Sublist.append ?_ (((List.Sublist.refl _).append (chosen _)).append ?_)
  · split
    · exact List.nil_sublist _
    · exact (chosen _).cons_cons _
  · split
    · exact List.Sublist.refl _
    · exact List.nil_sublist _

theorem isOwn_of_mem {target : String} {security : Security} {member : String}
    (among : member ∈ ownMembers target security) : Naming.IsOwn member := by
  have each : ownNames.all Naming.isOwn = true := rfl
  exact .of_isOwn (List.all_eq_true.mp each member ((ownMembers_sublist target security).subset among))

def securityIn (env : Env) : Security where
  isSecure := (env.get "is_secure").isTrue
  token := (env.get Credential.token.flag).isTrue
  apiKey := (env.get Credential.apiKey.flag).isTrue
  basic := (env.get Credential.basic.flag).isTrue

def securityFlags : List String := "is_secure" :: Credential.all.map Credential.flag

theorem securityIn_contextOf {extra : Env} (free : ∀ flag ∈ securityFlags, extra.lookup flag = none) (view : View) :
    securityIn (extra ++ contextOf view) = view.security := by
  have told {flag : String} (among : flag ∈ securityFlags) :
      Env.get (extra ++ contextOf view) flag = Env.get (contextOf view) flag := by
    unfold Env.get
    rw [List.lookup_append, free flag among]
    rfl
  have flagged (credential : Credential) : credential.flag ∈ securityFlags :=
    List.mem_cons_of_mem _ (List.mem_map_of_mem credential.mem_all)
  unfold securityIn
  rw [told List.mem_cons_self, told (flagged _), told (flagged _), told (flagged _)]
  rfl

theorem selected_credentials (env : Env) (name : Credential → String) :
    selected env (Credential.all.map fun credential => ([credential.flag], name credential)) =
      (Credential.all.filter ((securityIn env).uses ·.kind)).map name := by
  have uses (credential : Credential) : (securityIn env).uses credential.kind = (env.get credential.flag).isTrue := by
    cases credential <;> rfl
  unfold selected
  rw [List.filter_map, List.map_map, funext uses]
  simp [Function.comp_def]

theorem selected_declarations (env : Env) (target : String) :
    selected env (declarations target) = ownMembers target (securityIn env) := by
  have authorised : selected env [(["is_secure"], "setAuthHeaders")] =
      if (securityIn env).isSecure then ["setAuthHeaders"] else [] :=
    selected_under env "is_secure" [([], "setAuthHeaders")]
  have helpers : selected env helperDeclarations = ["constructor", "request"] ++
      (Credential.all.filter ((securityIn env).uses ·.kind)).map Credential.setter ++
      if (securityIn env).isSecure then ["setAuthHeaders"] else [] := by
    rw [helperDeclarations, selected_append, selected_append, selected_credentials, authorised]
    rfl
  have fields : selected env fieldDeclarations =
      "domain" :: (Credential.all.filter ((securityIn env).uses ·.kind)).map Credential.field := by
    rw [fieldDeclarations, ← List.singleton_append, selected_append, selected_credentials]
    rfl
  unfold declarations ownMembers
  split
  · exact helpers
  · rw [selected_append, helpers, fields]

variable {target : String} {templates : Templates} {options : Options} {extra : Env}

theorem fragmentsOf_declares (builtin : Templates.builtin? target = some templates)
    (defaults : Templates.forTarget target options.template = .ok templates)
    (given : extraNames options.extraContext = .ok extra) (view : View) :
    Yields (gathered declared · = ownMembers target (securityIn (extra ++ contextOf view)))
      (fragmentsOf view target options) := by
  obtain ⟨⟨nodes, read, declares⟩, each⟩ := Templates.builtin_declares builtin
  obtain ⟨keep, gather⟩ := Bool.and_eq_true_iff.mp declares
  rw [fragmentsOf_eq defaults given, ← selected_declarations]
  exact fragments_gather each read keep (beq_iff_eq.mp gather) _

/-- The texts of the templates declare the class's own members and no others. A method gets the name of such a member
exactly if an operation is called so, and only then is a member declared twice. -/
theorem members_declared_once {document : Value} {origin : String} {settings : View.Options} {view : View}
    (builtin : Templates.builtin? target = some templates)
    (defaults : Templates.forTarget target options.template = .ok templates)
    (given : extraNames options.extraContext = .ok extra) (built : View.build document origin settings = .ok view) :
    ((∀ flag ∈ securityFlags, extra.lookup flag = none) → securityIn (extra ++ contextOf view) = view.security) ∧
    ∃ members, members = ownMembers target (securityIn (extra ++ contextOf view)) ∧
      Yields (gathered declared · = members) (fragmentsOf view target options) ∧
      ∃ paths operations, View.pathsOf document = .ok paths ∧ View.operationsIn paths = .ok operations ∧
        (∀ member ∈ members, member ∈ view.methodNames ↔ ∃ operation ∈ operations, operation.IsCalled member) ∧
        ((members ++ view.methodNames).Nodup ↔
          ∀ operation ∈ operations, ∀ member ∈ members, ¬ operation.IsCalled member) := by
  obtain ⟨paths, operations, listed, read, named⟩ := View.methodNames_eq built
  have supported := View.isSupported_of_operationsIn read
  have taken (member : String) (among : member ∈ ownMembers target (securityIn (extra ++ contextOf view))) :=
    View.mem_methodNames_iff named supported (isOwn_of_mem among)
  refine ⟨fun free => securityIn_contextOf free view, _, rfl, fragmentsOf_declares builtin defaults given view, paths,
    operations, listed, read, taken, ?_⟩
  -- Neither kind of member repeats a name of its own.
  have once : view.methodNames.Nodup := by simpa using named.nodup List.nodup_nil
  have ownOnce := ownNames_nodup.sublist (ownMembers_sublist target (securityIn (extra ++ contextOf view)))
  rw [List.nodup_append', and_iff_right ownOnce, and_iff_right once]
  constructor
  · intro apart operation among member own called
    exact apart own ((taken member own).mpr ⟨operation, among, called⟩)
  · intro uncalled member own method
    obtain ⟨operation, among, called⟩ := (taken member own).mp method
    exact uncalled operation among member own called

/-! ## A client with one method that is called as the class calls its helper -/

def requestPaths : List (Key × Value) := [(.text "/items", .object [(.text "get", View.operationCalled "request")])]

section
set_option maxRecDepth 1000000

theorem request_renders : ∃ view fragments,
    View.build (View.documentOf requestPaths) "javascript" unformatted.viewOptions = .ok view ∧
    fragmentsOf view "javascript" unformatted = .ok fragments ∧ view.methodNames = ["request"] ∧ view.security = {} := by
  have evaluated : (View.build (View.documentOf requestPaths) "javascript" unformatted.viewOptions).toOption.map
      (fun view => (view.methodNames, view.security)) = some (["request"], {}) := by decide +kernel
  obtain ⟨view, built, same⟩ := Outcome.eq_ok_of_toOption_map evaluated
  obtain ⟨_, classRead, classRenders⟩ : ∃ nodes, ofSource (.text Builtin.javascriptClass) = .ok nodes ∧
      (View.build (View.documentOf requestPaths) "javascript" unformatted.viewOptions).toOption.all (fun view =>
        renders javascriptTemplates.partials (contextOf { view with methods := [] }) nodes) = true := by
    apply exists_nodes_of_spells
    · repeat (apply List.Forall₂.cons; rfl)
      exact .nil
    · decide +kernel
  obtain ⟨_, methodRead, methodRenders⟩ : ∃ nodes, ofSource (.text Builtin.method) = .ok nodes ∧
      (View.build (View.documentOf requestPaths) "javascript" unformatted.viewOptions).toOption.all (fun view =>
        view.methods.all fun method => renders [] [("method", .method method), ("class_name", .ofText? view.className),
          ("is_secure", .bool view.security.isSecure)] nodes) = true := by
    apply exists_nodes_of_spells
    · repeat (apply List.Forall₂.cons; rfl)
      exact .nil
    · decide +kernel
  rw [built] at classRenders methodRenders
  obtain ⟨fragments, rendered⟩ := exists_fragmentsOf view classRead classRenders methodRead methodRenders
  obtain ⟨names, unsecured⟩ := Prod.mk.inj same
  exact ⟨view, fragments, built, rendered, names, unsecured⟩

end

/-- The class declares the helper, and the method is declared under the same name. -/
theorem request_declared_twice : ∃ view fragments,
    View.build (View.documentOf requestPaths) "javascript" unformatted.viewOptions = .ok view ∧
    fragmentsOf view "javascript" unformatted = .ok fragments ∧
    "request" ∈ gathered declared fragments ∧ "request" ∈ view.methodNames := by
  obtain ⟨view, fragments, built, rendered, names, _⟩ := request_renders
  refine ⟨view, fragments, built, rendered, ?_, ?_⟩
  · rw [fragmentsOf_declares javascript_builtin javascript_defaults unformatted_names view fragments rendered]
    simp [ownMembers]
  · rw [names]
    exact List.mem_singleton_self _

theorem members_declared_once_request : ∃ view,
    View.build (View.documentOf requestPaths) "javascript" unformatted.viewOptions = .ok view ∧
    Yields (gathered declared · = ["constructor", "request"]) (fragmentsOf view "javascript" unformatted) ∧
    "constructor" ∉ view.methodNames ∧ ¬ (["constructor", "request"] ++ view.methodNames).Nodup := by
  obtain ⟨view, _, built, _, names, unsecured⟩ := request_renders
  obtain ⟨shown, members, whole, declares, paths, operations, listed, read, taken, once⟩ :=
    members_declared_once javascript_builtin javascript_defaults unformatted_names built
  have few : members = ["constructor", "request"] := by
    rw [whole, shown fun _ _ => rfl, unsecured]
    rfl
  subst few
  have method : "request" ∈ view.methodNames := by
    rw [names]
    exact List.mem_singleton_self _
  obtain ⟨operation, among, called⟩ := (taken "request" (by simp)).mp method
  refine ⟨view, built, declares, ?_, fun apart => once.mp apart operation among "request" (by simp) called⟩
  rw [names]
  decide

end Generation

end ClientGen
