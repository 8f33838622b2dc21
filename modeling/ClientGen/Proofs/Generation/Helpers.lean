import ClientGen.Proofs.Generation.Blocks

/-! Authorisation in the code of a client. A method calls the helper that adds what authorises its requests only in
a class that declares it, and a credential is used only in a class that sets its field first. -/

set_option autoImplicit false

namespace ClientGen

open Template

namespace Templates.Parts

variable {templates : Templates} {before after method : List Node} (parts : templates.Parts before after method)
include parts

theorem methodFragments_eq_ok {d className isSecure : Datum} {fragments : List Fragment}
    (made : templates.methodFragments d className isSecure = .ok fragments) :
    ∃ rendered, rendered.1 = fragments ∧
      renderNodes (includeFrom [] (renderWithin [] (inclusionDepth - 1)))
        [("method", d), ("class_name", className), ("is_secure", isSecure)] method = .ok rendered := by
  have rendered (env : Env) : renderWithin [] inclusionDepth env method =
      (renderNodes (includeFrom [] (renderWithin [] (inclusionDepth - 1))) env method).map (·.1) := rfl
  rw [methodFragments, fragments_of_read parts.methodRead, rendered] at made
  obtain ⟨both, done, same⟩ := Outcome.map_eq_ok.mp made
  exact ⟨both, same, done⟩

theorem methodFragments_emits_call {d className isSecure : Datum} {fragments : List Fragment}
    (made : templates.methodFragments d className isSecure = .ok fragments) :
    Emits fragments helperCall ↔
      (∃ secured, d.member "is_secure" = .ok secured ∧ secured.isTrue = true) ∧ isSecure.isTrue = true := by
  obtain ⟨rendered, rfl, done⟩ := parts.methodFragments_eq_ok made
  obtain ⟨decision, evaluated, ifEmitted, emitted⟩ := parts.isMethod.call.decides parts.isMethod.keep
    (.none _ helperCall) (fun e asks => congrArg _ (Expr.eq_securedMethod asks)) rendered done
  obtain ⟨secured, asked, decided⟩ := Outcome.bind_eq_ok.mp evaluated
  have member : d.member "is_secure" = .ok secured := asked
  -- The call is copied just where the decision in front of it is true.
  rw [Iff.intro ifEmitted emitted, member]
  cases holds : secured.isTrue with
  | true =>
    rw [if_pos holds] at decided
    cases decided
    simp [holds]
    rfl
  | false =>
    rw [if_neg (by simp [holds])] at decided
    cases decided
    simp [holds]

theorem methodFragments_hides {text : List Char} (outside : text ∈ outsideMethods) {d className isSecure : Datum}
    {fragments : List Fragment} (made : templates.methodFragments d className isSecure = .ok fragments) :
    ¬ Emits fragments text := by
  obtain ⟨rendered, rfl, done⟩ := parts.methodFragments_eq_ok made
  exact renderNodes_hide_always (.none _ text) (parts.isMethod.hides text outside) _ rendered done

variable {env : Env} {head tail : List Fragment × Env}

theorem head_declaration (done : renderNodes templates.inclusion env before = .ok head) :
    Emits head.1 helperDeclaration ↔ (env.get "is_secure").isTrue = true := by
  obtain ⟨d, evaluated, ifEmitted, emitted⟩ := parts.isClass.declaration.decides parts.isClass.keep
    (parts.silent (by simp [outsideMethods])) (fun e isVar => Expr.eval_of_isVar isVar env) head done
  cases evaluated
  exact ⟨ifEmitted, emitted⟩

theorem head_credential (done : renderNodes templates.inclusion env before = .ok head) (credential : Credential) :
    (Emits head.1 credential.use → (env.get credential.flag).isTrue = true) ∧
      ((env.get credential.flag).isTrue = true → Emits head.1 credential.start) := by
  obtain ⟨d, evaluated, decided⟩ := (parts.isClass.credentials credential credential.mem_all).decides
    parts.isClass.keep (parts.silent (List.mem_cons_of_mem _ credential.use_mem_outsideMethods)) (fun e isVar =>
      Expr.eval_of_isVar isVar env) head done
  cases evaluated
  exact decided

theorem head_hides_call (done : renderNodes templates.inclusion env before = .ok head) :
    ¬ Emits head.1 helperCall :=
  renderNodes_hide_always (parts.silent List.mem_cons_self) parts.isClass.before_hides env head done

theorem tail_hides {text : List Char} (outside : text ∈ helperCall :: outsideMethods)
    (done : renderNodes templates.inclusion env after = .ok tail) : ¬ Emits tail.1 text :=
  renderNodes_hide_always (.none _ text) (parts.isClass.after_hides text outside) env tail done

end Templates.Parts

theorem emits_after_break {text : List Char} (watched : text ∈ helperCall :: outsideMethods)
    {fragments : List Fragment} : Emits (.copied ['\n'] :: fragments) text ↔ Emits fragments text := by
  have others : ∀ text ∈ helperCall :: outsideMethods, Text.isPartOf text ['\n'] = false := by decide +kernel
  rw [← List.singleton_append, emits_append, emits_copied, others text watched]
  simp

theorem emits_enclosed {text : List Char} (watched : text ∈ helperCall :: outsideMethods)
    {head tail : List Fragment} {blocks : List (List Fragment)} :
    Emits (head ++ (blocks.map (.copied ['\n'] :: ·)).flatten ++ tail) text ↔
      Emits head text ∨ (∃ block ∈ blocks, Emits block text) ∨ Emits tail text := by
  have each : (∃ part ∈ blocks.map (.copied ['\n'] :: ·), Emits part text) ↔ ∃ block ∈ blocks, Emits block text := by
    simp only [List.mem_map, exists_exists_and_eq_and, emits_after_break watched]
  rw [emits_append, emits_append, emits_flatten, each, or_assoc]

namespace Generation

variable {target : String} {templates : Templates} {options : Options}

/-- In the code of a built-in client, whatever the names in its templates mean, a method calls the helper that adds
what authorises its requests exactly if both the method and the client are secured, and the class declares the helper
exactly if the client is secured. So what is called is declared. A credential is used only in a class whose
constructor sets its field, which happens exactly if the client is said to have it. -/
theorem helper_declared (builtin : Templates.builtin? target = some templates)
    (defaults : Templates.forTarget target options.template = .ok templates) (view : View) {code : String}
    (rendered : renderView view target options = .ok code) :
    ∃ (env : Env) (methods : List Datum) (fragments head tail : List Fragment) (blocks : List (List Fragment)),
      (extraNames options.extraContext).map (· ++ contextOf view) = .ok env ∧
      (env.get "methods").elements = .ok methods ∧
      fragmentsOf view target options = .ok fragments ∧ code = textOf fragments ∧
      fragments = head ++ (blocks.map (.copied ['\n'] :: ·)).flatten ++ tail ∧
      List.Forall₂ (fun method block =>
        templates.methodFragments method (env.get "class_name") (env.get "is_secure") = .ok block ∧
        (Emits block helperCall ↔ (∃ secured, method.member "is_secure" = .ok secured ∧ secured.isTrue = true) ∧
          (env.get "is_secure").isTrue = true)) methods blocks ∧
      ¬ Emits head helperCall ∧ ¬ Emits tail helperCall ∧
      (Emits fragments helperDeclaration ↔ (env.get "is_secure").isTrue = true) ∧
      (Emits fragments helperCall → Emits head helperDeclaration) ∧
      ∀ credential : Credential,
        (Emits head credential.start ↔ (env.get credential.flag).isTrue = true) ∧
        (Emits fragments credential.use → Emits head credential.start) := by
  obtain ⟨before, after, nodes, parts⟩ := Templates.builtin_parts builtin
  obtain ⟨fragments, made, text⟩ := Outcome.map_eq_ok.mp rendered
  have whole := made
  obtain ⟨extra, given⟩ := exists_extraNames made
  rw [fragmentsOf_eq defaults given, parts.fragments_eq] at made
  obtain ⟨head, headDone, made⟩ := Outcome.bind_eq_ok.mp made
  obtain ⟨blocks, blocksDone, made⟩ := Outcome.bind_eq_ok.mp made
  obtain ⟨tail, tailDone, same⟩ := Outcome.bind_eq_ok.mp made
  obtain ⟨methods, listed, each⟩ := Outcome.bind_eq_ok.mp blocksDone
  cases same
  replace each := Outcome.forall₂_of_mapM each
  -- What stands outside of methods is copied before them, or nowhere.
  have onlyHead {text : List Char} (outside : text ∈ outsideMethods)
      (emits : Emits (head.1 ++ (blocks.map (.copied ['\n'] :: ·)).flatten ++ tail.1) text) : Emits head.1 text := by
    have watched := List.mem_cons_of_mem helperCall outside
    rcases (emits_enclosed watched).mp emits with emits | ⟨block, inside, emits⟩ | emits
    · exact emits
    · obtain ⟨d, _, made⟩ := Outcome.exists_of_forall₂ each inside
      exact absurd emits (parts.methodFragments_hides outside made)
    · exact absurd emits (parts.tail_hides watched tailDone)
  have headCall := parts.head_hides_call headDone
  have tailCall := parts.tail_hides List.mem_cons_self tailDone
  have declared := parts.head_declaration headDone
  refine ⟨extra ++ contextOf view, methods, _, head.1, tail.1, blocks, ?_, listed, whole, text.symm, rfl, ?_,
    headCall, tailCall, ?_, fun emits => ?_, fun credential => ?_⟩
  · rw [given]
    rfl
  · exact each.imp fun d block made => ⟨made, parts.methodFragments_emits_call made⟩
  · rw [← declared]
    exact ⟨onlyHead List.mem_cons_self, fun emits => (emits_enclosed (by simp [outsideMethods])).mpr (.inl emits)⟩
  · rcases (emits_enclosed List.mem_cons_self).mp emits with emits | ⟨block, inside, emits⟩ | emits
    · exact absurd emits headCall
    · obtain ⟨d, _, made⟩ := Outcome.exists_of_forall₂ each inside
      exact declared.mpr ((parts.methodFragments_emits_call made).mp emits).2
    · exact absurd emits tailCall
  · obtain ⟨used, started⟩ := parts.head_credential headDone credential
    exact ⟨⟨fun emits => used (emits.of_infix credential.use_infix_start), started⟩,
      fun emits => started (used (onlyHead credential.use_mem_outsideMethods emits))⟩

theorem helper_declared_mixed :
    ∃ (head tail guarded free : List Fragment),
      renderView { securedView with methods := [guardedMethod, openMethod] } "javascript" unformatted =
        .ok (textOf (head ++ [.copied ['\n'] :: guarded, .copied ['\n'] :: free].flatten ++ tail)) ∧
      Emits guarded helperCall ∧ ¬ Emits free helperCall ∧ Emits head helperDeclaration ∧
      Emits head Credential.token.start ∧ ¬ Emits head Credential.apiKey.start := by
  obtain ⟨code, rendered⟩ := renderView_secured
  obtain ⟨env, methods, fragments, head, tail, blocks, given, listed, _, rfl, rfl, calls, _, _, _, declared,
    credentials⟩ := helper_declared javascript_builtin javascript_defaults _ rendered
  rw [unformatted_names] at given
  cases given
  cases listed
  obtain _ | ⟨⟨_, first⟩, _ | ⟨⟨_, second⟩, ⟨⟩⟩⟩ := calls
  have called := first.mpr ⟨⟨_, rfl, rfl⟩, rfl⟩
  refine ⟨head, tail, _, _, rendered, called, fun emits => ?_, declared ?_, (credentials .token).1.mpr rfl,
    fun emits => ?_⟩
  · obtain ⟨⟨_, asked, holds⟩, _⟩ := second.mp emits
    cases asked
    cases holds
  · exact (emits_enclosed List.mem_cons_self).mpr (.inr (.inl ⟨_, List.mem_cons_self, called⟩))
  · cases (credentials .apiKey).1.mp emits

end Generation

end ClientGen
