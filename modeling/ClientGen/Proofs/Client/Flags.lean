import ClientGen.Proofs.Client.Extension

/-! The authorisation flags of a view. The view has the flag of a kind exactly when one of its methods has it: a
method with such a flag counts as secured, so none is lost where methods join, and the view then counts as
secured too. -/

set_option autoImplicit false

namespace ClientGen

namespace Security

inductive Kind where
  | token
  | apiKey
  | basic
  deriving DecidableEq, Repr

def uses (security : Security) : Kind → Bool
  | .token => security.token
  | .apiKey => security.apiKey
  | .basic => security.basic

@[simp] theorem raise_isSecure (security method : Security) :
    (security.raise method).isSecure = security.isSecure := by
  unfold raise
  split <;> rfl

theorem raise_uses (security method : Security) (kind : Kind) :
    (security.raise method).uses kind = (security.uses kind || (method.isSecure && method.uses kind)) := by
  unfold raise
  split
  next secured => cases kind <;> simp [uses, secured]
  next open_ => simp [open_]

theorem Implies.uses {first second : Security} (implies : first.Implies second) (kind : Kind)
    (flag : first.uses kind = true) : second.uses kind = true := by
  cases kind with
  | token => exact implies.token flag
  | apiKey => exact implies.apiKey flag
  | basic => exact implies.basic flag

section
variable (document operation : List (Key × Value))

def entryOf (entries : List (Key × Value)) (name : String) : Value := ((Key.text name).lookup entries).getD .null

def mentioned : Bool :=
  ((Key.text "security").lookup document).isSome || ((Key.text "security").lookup operation).isSome

/-- The kinds of the schemes that are referred to. -/
def kindsReferred : Except Failure (List Key) := do
  let merged ← mergeRequirements ((entryOf document "security").orElse (.list []))
    ((entryOf operation "security").orElse (.list []))
  schemeKinds (merged.flatMap fun entries => entries.map (·.1))
    (← ((entryOf document "securityDefinitions").orElse (.object [])).entries)

/-- Either there are no schemes to look up, and there is no flag, or the flags are those of the schemes referred
to. -/
theorem ofOperation_either :
    (entryOf document "securityDefinitions" = .null ∧
      ofOperation (.object document) (.object operation) = .ok { isSecure := mentioned document operation }) ∨
    ofOperation (.object document) (.object operation) = (do
      let kinds ← kindsReferred document operation
      return {
        isSecure := mentioned document operation
        token := kinds.contains (.text "oauth2")
        apiKey := kinds.contains (.text "apiKey")
        basic := kinds.contains (.text "basic") }) := by
  simp only [ofOperation, Value.has, Value.field, Value.field?, Outcome.map_ok, Outcome.ok_bind,
    Outcome.pure_eq, kindsReferred, entryOf, mentioned, bind_assoc]
  cases own : (Key.text "security").lookup document <;>
    cases mine : (Key.text "security").lookup operation <;>
    simp only [Option.isSome_some, Option.isSome_none, if_true, Bool.false_eq_true, if_false, Bool.not_true,
      Bool.not_false, Bool.or_true, Bool.or_false] <;>
    split <;> simp [*]

end

theorem schemeKinds_of_nothing (schemes : List (Key × Value)) : schemeKinds [] schemes = .ok [] := by
  simp only [schemeKinds, List.any_nil, List.filter_false]
  rfl

theorem kindsReferred_of_nothing {document operation : List (Key × Value)} {kinds : List Key}
    (referred : kindsReferred document operation = .ok kinds)
    (nothing : mentioned document operation = false ∨
      (Key.text "securityDefinitions").lookup document = none) : kinds = [] := by
  obtain ⟨merged, required, referred⟩ := Outcome.bind_eq_ok.mp referred
  obtain ⟨schemes, listed, found⟩ := Outcome.bind_eq_ok.mp referred
  rcases nothing with silent | undefined
  · simp only [mentioned, Bool.or_eq_false_iff, Option.isSome_eq_false_iff, Option.isNone_iff_eq_none] at silent
    rw [entryOf, entryOf, silent.1, silent.2] at required
    cases required
    change schemeKinds [] schemes = .ok kinds at found
    rw [schemeKinds_of_nothing] at found
    exact (Except.ok.inj found).symm
  · rw [entryOf, undefined] at listed
    cases listed
    exact (Except.ok.inj found).symm

theorem ofOperation_uses {document operation : List (Key × Value)} {security : Security} {kind : Kind}
    (resolved : ofOperation (.object document) (.object operation) = .ok security)
    (flag : security.uses kind = true) :
    security.isSecure = true ∧ (Key.text "securityDefinitions").lookup document ≠ none := by
  rcases ofOperation_either document operation with ⟨_, same⟩ | same <;> rw [same] at resolved
  · cases resolved
    cases kind <;> cases flag
  · obtain ⟨kinds, referred, same⟩ := Outcome.bind_eq_ok.mp resolved
    cases same
    have some : kinds ≠ [] := by
      rintro rfl
      cases kind <;> cases flag
    constructor
    · by_contra silent
      exact some (kindsReferred_of_nothing referred (.inl (by simpa using silent)))
    · exact fun undefined => some (kindsReferred_of_nothing referred (.inr undefined))

end Security

namespace View

/-- A view has the flag of a kind when a secured method of it has it. -/
def FlagsOfMethods (view : View) : Prop :=
  ∀ kind, view.security.uses kind = true ↔
    ∃ method ∈ view.methods, method.security.isSecure = true ∧ method.security.uses kind = true

theorem FlagsOfMethods.addMethod {view : View} (flags : FlagsOfMethods view) (method : Method) :
    FlagsOfMethods (view.addMethod method) := by
  intro kind
  simp only [View.addMethod, Security.raise_uses, Bool.or_eq_true, Bool.and_eq_true, flags kind,
    List.mem_append, List.mem_singleton]
  constructor
  · rintro (⟨other, member, flag⟩ | flag)
    · exact ⟨other, .inl member, flag⟩
    · exact ⟨method, .inr rfl, flag⟩
  · rintro ⟨other, member | rfl, flag⟩
    · exact .inl ⟨other, member, flag⟩
    · exact .inr flag

theorem header_security {document : Value} {target : String} {options : Options} {start : View}
    (headed : header document target options = .ok start) :
    ∃ entries, document = .object entries ∧
      start.security = { isSecure := ((Key.text "securityDefinitions").lookup entries).isSome } := by
  simp only [header, checkVersion, Outcome.bind_eq_ok] at headed
  obtain ⟨_, ⟨_, versioned, _⟩, _, _, _, _, _, _, _, _, isSecure, defined, _, _, same⟩ := headed
  cases document with
  | object entries =>
    cases defined
    cases same
    exact ⟨entries, rfl, rfl⟩
  | _ => cases versioned

end View

namespace Assembly.Run

variable {document : Value} {className : Option String} {assembly final : Assembly}
  {operations : List Operation}

theorem flagsOfMethods (ran : Run document className assembly operations final)
    (flags : assembly.view.FlagsOfMethods) : final.view.FlagsOfMethods := by
  induction ran with
  | done => exact flags
  | next _ _ _ _ ih => exact ih (flags.addMethod _)

theorem isSecure_eq (ran : Run document className assembly operations final) :
    final.view.security.isSecure = assembly.view.security.isSecure := by
  induction ran with
  | done => rfl
  | next _ _ _ _ ih => rw [ih, View.addMethod, Security.raise_isSecure]

theorem method_uses {entries : List (Key × Value)}
    (ran : Run (.object entries) className assembly operations final) (nothing : assembly.view.methods = [])
    {method : Method} (member : method ∈ final.view.methods) {kind : Security.Kind}
    (flag : method.security.uses kind = true) :
    method.security.isSecure = true ∧ (Key.text "securityDefinitions").lookup entries ≠ none := by
  obtain ⟨methods, whole, made⟩ := ran.methods
  rw [whole, nothing, List.nil_append] at member
  clear whole ran
  induction made with
  | nil => cases member
  | cons first _ ih =>
    rcases List.mem_cons.mp member with rfl | later
    · obtain ⟨_, _, resolved, details, object⟩ := Operation.method_parts first
      rw [object] at resolved
      exact Security.ofOperation_uses resolved flag
    · exact ih later

end Assembly.Run

namespace View

/-- A view has the flag of a kind of scheme exactly when one of its methods has it. A method with such a flag is
secured, and so is a view; and from one operation to a later one no flag is lost. -/
theorem build_flags {document : Value} {target : String} {options : Options} {view : View}
    (built : build document target options = .ok view) :
    (∀ kind, view.security.uses kind = true ↔
      ∃ method ∈ view.methods, method.security.uses kind = true) ∧
    (∀ method ∈ view.methods, ∀ kind, method.security.uses kind = true →
      method.security.isSecure = true) ∧
    (∀ kind, view.security.uses kind = true → view.security.isSecure = true) ∧
    ∃ start paths operations final, header document target options = .ok start ∧
      pathsOf document = .ok paths ∧ operationsIn paths = .ok operations ∧
      operations.foldlM (Assembly.addOrFail document options.className) ⟨start, []⟩ = .ok final ∧
      view.security = final.view.security ∧
      ∀ n m, n ≤ m → ∃ earlier later,
        (operations.take n).foldlM (Assembly.addOrFail document options.className) ⟨start, []⟩ =
          .ok earlier ∧
        (operations.take m).foldlM (Assembly.addOrFail document options.className) ⟨start, []⟩ =
          .ok later ∧
        ∀ kind, earlier.view.security.uses kind = true → later.view.security.uses kind = true := by
  obtain ⟨start, paths, operations, final, definitions, headed, listed, read, ran, _, rfl⟩ :=
    build_eq_ok.mp built
  obtain ⟨entries, rfl, flags⟩ := header_security headed
  have nothing := header_methods headed
  have uses {method : Method} (member : method ∈ final.view.methods) {kind : Security.Kind}
      (flag : method.security.uses kind = true) := ran.method_uses nothing member flag
  have flagsStart : start.FlagsOfMethods := by
    intro kind
    rw [flags, nothing]
    cases kind <;> simp [Security.uses]
  have flagsFinal := ran.flagsOfMethods flagsStart
  refine ⟨fun kind => ?_, fun method member kind flag => (uses member flag).1, fun kind flag => ?_,
    start, paths, operations, final, headed, listed, read, Assembly.foldlM_addOrFail_eq_ok.mpr ran, rfl, ?_⟩
  -- The condition that a method is secured holds of all methods with a flag.
  · refine (flagsFinal kind).trans ⟨?_, ?_⟩
    · rintro ⟨method, member, _, flag⟩
      exact ⟨method, member, flag⟩
    · rintro ⟨method, member, flag⟩
      exact ⟨method, member, (uses member flag).1, flag⟩
  · obtain ⟨method, member, _, used⟩ := (flagsFinal kind).mp flag
    have secured : start.security.isSecure = true := by
      rw [flags]
      exact Option.isSome_iff_ne_none.mpr (uses member used).2
    exact ran.isSecure_eq.trans secured
  · intro n m before
    -- The run passes through its state after m operations, and on the way there through that after n.
    rw [← List.take_append_drop m operations] at ran
    obtain ⟨later, ranLater, _⟩ := ran.split
    have ranBetween := ranLater
    rw [← List.take_append_drop n (operations.take m), List.take_take, Nat.min_eq_left before] at ranBetween
    obtain ⟨earlier, ranEarlier, between⟩ := ranBetween.split
    exact ⟨earlier, later, Assembly.foldlM_addOrFail_eq_ok.mpr ranEarlier,
      Assembly.foldlM_addOrFail_eq_ok.mpr ranLater, between.grows.2.uses⟩

def guardedOnce : Value :=
  .object [
    (.text "swagger", .text "2.0"),
    (.text "securityDefinitions", .object [(.text "key", .object [(.text "type", .text "apiKey")])]),
    (.text "paths", .object [
      (.text "/a", .object [
        (.text "get", .object [(.text "security", .list [.object [(.text "key", .list [])]])]),
        (.text "put", .object [])])])]

theorem build_flags_guardedOnce :
    ∃ view, build guardedOnce "typescript" {} = .ok view ∧
      view.methods.map (fun method => method.security.uses .apiKey) = [true, false] ∧
      view.security.uses .apiKey = true ∧ view.security.isSecure = true ∧
      ∃ method ∈ view.methods, method.security.uses .apiKey = true := by
  have evaluated : (build guardedOnce "typescript" {}).toOption.map (fun view =>
      (view.methods.map (fun method => method.security.uses .apiKey), view.security.uses .apiKey)) =
      some ([true, false], true) := by decide +kernel
  obtain ⟨view, built, both⟩ := Outcome.eq_ok_of_toOption_map evaluated
  obtain ⟨methods, flag⟩ := Prod.mk.inj both
  obtain ⟨iff, _, secured, _⟩ := build_flags built
  exact ⟨view, built, methods, flag, secured _ flag, (iff .apiKey).mp flag⟩

end View

end ClientGen
