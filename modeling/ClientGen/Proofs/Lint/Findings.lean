import ClientGen.Lint
import ClientGen.Standard
import Mathlib.Data.List.DropRight

/-! What a check of a script finds, and in which order. The parser speaks first, so its error stands before everything
else and no limit on the number of findings cuts it off. -/

set_option autoImplicit false

namespace ClientGen.Lint

variable {judge : Script.Judge} {options : Options} {source : String}

def EndsInBlank (line : List Char) : Prop := ∃ c ∈ line.getLast?, Text.isBlank c = true

theorem trimRightBlanks_eq_self_iff {line : List Char} : Text.trimRightBlanks line = line ↔ ¬ EndsInBlank line := by
  change line.rdropWhile Text.isBlank = line ↔ _
  rw [List.rdropWhile_eq_self_iff]
  rcases List.eq_nil_or_concat' line with rfl | ⟨front, last, rfl⟩ <;> simp [EndsInBlank]

theorem trailingBlanks_cons (number : Nat) (line : List Char) (rest : List (List Char)) :
    trailingBlanks number (line :: rest) =
      (if Text.trimRightBlanks line = line then [] else [blankWarning number line]) ++
        trailingBlanks (number + 1) rest := by
  simp only [trailingBlanks, beq_iff_eq]
  split <;> rfl

theorem mem_trailingBlanks_iff {number : Nat} {lines : List (List Char)} {finding : Finding} :
    finding ∈ trailingBlanks number lines ↔ ∃ (index : Nat) (line : List Char),
      lines[index]? = some line ∧ EndsInBlank line ∧ finding = blankWarning (number + index) line := by
  induction lines generalizing number with
  | nil => simp [trailingBlanks]
  | cons line rest ih =>
    have moved (index : Nat) : number + 1 + index = number + (index + 1) := by omega
    -- A line that is trimmed to itself has no finding, and the others keep their numbers.
    rw [trailingBlanks_cons, List.mem_append, ih]
    constructor
    · rintro (here | ⟨index, other, there, blank, rfl⟩)
      · split at here
        next => cases here
        next trimmed =>
          rw [trimRightBlanks_eq_self_iff, not_not] at trimmed
          exact ⟨0, line, rfl, trimmed, List.mem_singleton.mp here⟩
      · exact ⟨index + 1, other, there, blank, by rw [moved]⟩
    · rintro ⟨index, other, there, blank, rfl⟩
      cases index with
      | zero =>
        cases there
        rw [if_neg fun same => trimRightBlanks_eq_self_iff.mp same blank]
        exact .inl (List.mem_singleton.mpr rfl)
      | succ index => exact .inr ⟨index, other, there, blank, by rw [moved]⟩

theorem mem_blankWarnings_iff {lines : List (List Char)} {finding : Finding} :
    finding ∈ blankWarnings options lines ↔ options.trailing = true ∧ ∃ (index : Nat) (line : List Char),
      lines[index]? = some line ∧ EndsInBlank line ∧ finding = blankWarning (1 + index) line := by
  unfold blankWarnings
  split <;> simp [mem_trailingBlanks_iff, *]

theorem code_of_mem_strictWarnings {lines : List (List Char)} {text : List Char} {finding : Finding}
    (among : finding ∈ strictWarnings options lines text) : finding.code = "W097" := by
  unfold strictWarnings at among
  split at among
  · rw [List.mem_singleton.mp among]
  · cases among

theorem limit_eq_take {count : Int} (sense : 0 ≤ count) (found : List Finding) :
    limit count found = found.take count.toNat := if_pos sense

theorem mem_of_mem_limit {count : Int} {found : List Finding} {finding : Finding} (among : finding ∈ limit count found) :
    finding ∈ found := by
  unfold limit at among
  split at among <;> exact List.mem_of_mem_take among

theorem check_rejected {line : Nat} {reason : String} (room : 1 ≤ options.maxFindings)
    (rejects : judge options.esnext source = .rejected line reason) :
    check judge options source =
      .error (.rejected ⟨"E001", reason, evidence (Text.lines source.toList) line, line⟩) := by
  obtain ⟨more, size⟩ := Nat.exists_eq_add_one.mpr (by omega : 0 < options.maxFindings.toNat)
  rw [check, findings, limit_eq_take (by omega), size, allFindings, rejects, ofVerdict, List.cons_append,
    List.cons_append, List.take_succ_cons, List.find?_cons_of_pos (by simp [Finding.isError])]

theorem isError_of_accepted {remarks : List Script.Remark} (accepts : judge options.esnext source = .accepted remarks)
    {finding : Finding} (among : finding ∈ allFindings judge options source) : finding.isError = false := by
  rw [allFindings, accepts, ofVerdict, List.mem_append, List.mem_append] at among
  rcases among with (remarked | blank) | strict
  · obtain ⟨remark, _, rfl⟩ := List.mem_map.mp remarked
    simp [Finding.isError]
  · obtain ⟨_, _, _, _, _, rfl⟩ := mem_blankWarnings_iff.mp blank
    simp [Finding.isError, blankWarning]
  · simp [Finding.isError, code_of_mem_strictWarnings strict]

theorem check_accepted {remarks : List Script.Remark} (accepts : judge options.esnext source = .accepted remarks) :
    check judge options source = .ok () := by
  have none : (findings judge options source).find? Finding.isError = none :=
    List.find?_eq_none.mpr fun finding among => by simp [isError_of_accepted accepts (mem_of_mem_limit among)]
  rw [check, none]

end ClientGen.Lint
