import ClientGen.Proofs.Client.Names
import ClientGen.Proofs.Naming.Derived

/-! Which names that no verb begins are names of methods: those that operations ask for. -/

set_option autoImplicit false

namespace ClientGen

theorem NamedInOrder.mem_iff {used names : List String} {operations : List Operation}
    (named : NamedInOrder used operations names) {name : String} (own : Naming.IsOwn name) :
    name ∈ used ++ names ↔ name ∈ used ∨ ∃ operation ∈ operations, operation.candidate = .ok name := by
  induction named with
  | done => simp
  | @next used names operation rest candidate chosen suggested choice _ ih =>
    -- A numbered name is never an own one, so numbering gives out no own name.
    have here : name ∈ used ∨ name = chosen ↔ name ∈ used ∨ operation.candidate = .ok name := by
      rw [suggested, Except.ok.injEq]
      rcases choice with ⟨_, rfl⟩ | ⟨taken, k, _, rfl⟩
      · rw [eq_comm]
      · have other := own.ne_numbered candidate k
        constructor
        · rintro (before | same)
          · exact .inl before
          · exact absurd same other
        · rintro (before | rfl)
          · exact .inl before
          · exact .inl taken
    rw [List.append_assoc, List.singleton_append] at ih
    rw [ih, List.mem_append, List.mem_singleton, here, or_assoc, List.exists_mem_cons_iff]

namespace View

theorem isSupported_of_operationsIn {paths : List (Key × Value)} {operations : List Operation}
    (read : operationsIn paths = .ok operations) : ∀ operation ∈ operations, isSupported operation.verb = true := by
  induction paths generalizing operations with
  | nil =>
    cases read
    exact nofun
  | cons path rest ih =>
    obtain ⟨first, others, readFirst, readOthers, rfl⟩ := operationsIn_cons_eq_ok.mp read
    refine List.forall_mem_append.mpr ⟨?_, ih readOthers⟩
    simp only [operationsOf, Outcome.bind_eq_ok] at readFirst
    obtain ⟨entries, _, shared, _, same⟩ := readFirst
    cases same
    intro operation among
    obtain ⟨entry, kept, rfl⟩ := List.mem_map.mp among
    exact (List.mem_filter.mp kept).2

variable {document : Value} {target : String} {options : Options} {view : View}

theorem methodNames_eq (built : build document target options = .ok view) :
    ∃ paths operations, pathsOf document = .ok paths ∧ operationsIn paths = .ok operations ∧
      NamedInOrder [] operations view.methodNames := by
  obtain ⟨start, paths, operations, final, definitions, headed, listed, read, ran, _, rfl⟩ := build_eq_ok.mp built
  have nothing : start.methodNames = [] := by rw [methodNames, header_methods headed, List.map_nil]
  obtain ⟨_, names, whole, named⟩ := ran.names nothing.symm
  rw [nothing] at whole named
  rw [List.nil_append] at whole
  subst whole
  exact ⟨paths, operations, listed, read, named⟩

theorem mem_methodNames_iff {operations : List Operation} (named : NamedInOrder [] operations view.methodNames)
    (supported : ∀ operation ∈ operations, isSupported operation.verb = true) {name : String}
    (own : Naming.IsOwn name) : name ∈ view.methodNames ↔ ∃ operation ∈ operations, operation.IsCalled name := by
  have suggested := named.mem_iff own
  simp only [List.nil_append, List.not_mem_nil, false_or] at suggested
  rw [suggested]
  refine exists_congr fun operation => and_congr_right fun among => ?_
  exact Operation.candidate_eq_iff own (supported operation among)

end View

end ClientGen
