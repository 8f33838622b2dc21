import ClientGen.Proofs.Client.Assembly
import ClientGen.Proofs.Naming.Unique
import ClientGen.Proofs.Outcome

/-! The names of the methods of a view. Each operation suggests a name, which is kept when no method before
has it and numbered otherwise, so no two methods have the same name. -/

set_option autoImplicit false

namespace ClientGen

/-- Names given to operations one after another, while others are in use. -/
inductive NamedInOrder : List String → List Operation → List String → Prop where
  | done (used : List String) : NamedInOrder used [] []
  | next {used names : List String} {operation : Operation} {rest : List Operation}
      {candidate name : String} :
      operation.candidate = .ok candidate → Naming.Chosen candidate used name →
      NamedInOrder (used ++ [name]) rest names →
      NamedInOrder used (operation :: rest) (name :: names)

namespace NamedInOrder

theorem length_eq {used names : List String} {operations : List Operation}
    (named : NamedInOrder used operations names) : names.length = operations.length := by
  induction named with
  | done => rfl
  | next _ _ _ ih => simp only [List.length_cons, ih]

theorem at_index {used names : List String} {operations : List Operation}
    (named : NamedInOrder used operations names) {i : Nat} {operation : Operation}
    (found : operations[i]? = some operation) :
    ∃ candidate name, operation.candidate = .ok candidate ∧ names[i]? = some name ∧
      Naming.Chosen candidate (used ++ names.take i) name := by
  induction named generalizing i with
  | done => simp at found
  | @next used names _ rest candidate name suggested chosen _ ih =>
    cases i with
    | zero =>
      cases found
      exact ⟨candidate, name, suggested, rfl, by simpa using chosen⟩
    | succ i =>
      obtain ⟨candidate, other, suggested, selected, chosen⟩ := ih found
      refine ⟨candidate, other, suggested, selected, ?_⟩
      simpa only [List.take_succ_cons, List.append_assoc, List.singleton_append] using chosen

theorem nodup {used names : List String} {operations : List Operation}
    (named : NamedInOrder used operations names) (distinct : used.Nodup) : (used ++ names).Nodup := by
  induction named with
  | done => simpa using distinct
  | next _ chosen _ ih =>
    have := ih (List.nodup_append.mpr ⟨distinct, List.nodup_singleton _, by
      rintro other member _ same rfl
      rw [List.mem_singleton] at same
      exact chosen.not_mem (same ▸ member)⟩)
    simpa only [List.append_assoc, List.singleton_append] using this

end NamedInOrder

theorem Assembly.Run.names {document : Value} {className : Option String} {assembly final : Assembly}
    {operations : List Operation} (ran : Run document className assembly operations final)
    (inUse : assembly.used = assembly.view.methodNames) :
    final.used = final.view.methodNames ∧ ∃ names,
      final.view.methodNames = assembly.view.methodNames ++ names ∧
      NamedInOrder assembly.view.methodNames operations names := by
  induction ran with
  | done assembly => exact ⟨inUse, [], by simp, .done _⟩
  | @next assembly final operation rest candidate method suggested named _ _ ih =>
    have appended : (assembly.view.addMethod method).methodNames =
        assembly.view.methodNames ++ [method.name] := by
      simp [View.methodNames, View.addMethod]
    -- The name that is given out is that of the method, so the names in use are still those of the methods.
    obtain ⟨used, names, whole, chosen⟩ := ih (by rw [appended, inUse])
    rw [appended] at whole chosen
    refine ⟨used, method.name :: names, by simpa using whole, .next suggested ?_ chosen⟩
    rw [named, inUse]
    exact Naming.unique_chosen _ _

/-- A view gives each method the name that its operation suggests or, when a method before has it, the
least number that makes it new; and a name is given out in this way whatever names are in use, at a number
that is at most their count. -/
theorem View.methodNames_chosen :
    (∀ (document : Value) (target : String) (options : View.Options) (view : View),
      View.build document target options = .ok view →
        view.methodNames.Nodup ∧
        ∃ paths operations, View.pathsOf document = .ok paths ∧
          View.operationsIn paths = .ok operations ∧ view.methodNames.length = operations.length ∧
          ∀ i operation, operations[i]? = some operation →
            ∃ candidate name, operation.candidate = .ok candidate ∧
              view.methodNames[i]? = some name ∧
              Naming.Chosen candidate (view.methodNames.take i) name) ∧
    ∀ (name : String) (used : List String),
      (Naming.giveOut name used).1 ∉ used ∧
      (Naming.giveOut name used).2 = used ++ [(Naming.giveOut name used).1] ∧
      (name ∉ used → (Naming.giveOut name used).1 = name) ∧
      (name ∈ used → ∃ k, k ≤ used.toFinset.card ∧
        IsLeast {k | 0 < k ∧ Naming.numbered name k ∉ used} k ∧
        (Naming.giveOut name used).1 = Naming.numbered name k) := by
  constructor
  · intro document target options view built
    obtain ⟨start, paths, operations, final, definitions, headed, listed, read, ran, _, rfl⟩ :=
      build_eq_ok.mp built
    have nothing : start.methodNames = [] := by rw [methodNames, header_methods headed, List.map_nil]
    obtain ⟨_, names, whole, named⟩ := ran.names nothing.symm
    rw [nothing] at whole named
    rw [List.nil_append] at whole
    have same : methodNames { final.view with definitions } = names := whole
    rw [same]
    refine ⟨by simpa using named.nodup List.nodup_nil, paths, operations, listed, read, named.length_eq, ?_⟩
    intro i operation found
    simpa using named.at_index found
  · intro name used
    exact ⟨(Naming.unique_chosen name used).not_mem, rfl, Naming.unique_of_not_mem, Naming.unique_of_mem⟩

def repeatedIdentifiers : Value :=
  let operation (identifier : String) : Value := .object [(.text "operationId", .text identifier)]
  .object [
    (.text "swagger", .text "2.0"),
    (.text "paths", .object [
      (.text "/a", .object [(.text "get", operation "dup_1"), (.text "post", operation "dup")]),
      (.text "/b", .object [(.text "get", operation "dup"), (.text "put", operation "dup_1")])])]

theorem View.methodNames_chosen_repeated :
    (∃ view, View.build repeatedIdentifiers "typescript" {} = .ok view ∧
      view.methodNames = ["dup_1", "dup", "dup_2", "dup_1_1"] ∧ view.methodNames.Nodup) ∧
    (Naming.giveOut "dup" []).1 = "dup" ∧
    ∃ k, k ≤ ["dup", "dup_1"].toFinset.card ∧
      IsLeast {k | 0 < k ∧ Naming.numbered "dup" k ∉ ["dup", "dup_1"]} k ∧
      (Naming.giveOut "dup" ["dup", "dup_1"]).1 = Naming.numbered "dup" k := by
  refine ⟨?_, (methodNames_chosen.2 "dup" []).2.2.1 (by decide),
    (methodNames_chosen.2 "dup" ["dup", "dup_1"]).2.2.2 (by decide)⟩
  have evaluated : (View.build repeatedIdentifiers "typescript" {}).toOption.map methodNames =
      some ["dup_1", "dup", "dup_2", "dup_1_1"] := by decide +kernel
  obtain ⟨view, built, names⟩ := Outcome.eq_ok_of_toOption_map evaluated
  exact ⟨view, built, names, (methodNames_chosen.1 _ _ _ _ built).1⟩

end ClientGen
