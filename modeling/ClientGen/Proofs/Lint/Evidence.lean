import ClientGen.Proofs.Lint.Findings
import ClientGen.Proofs.Script.Lines

/-! The line that a finding of the parser shows. The parser counts the lines of scripts, and the line is looked up among
those between all line boundaries of Unicode. -/

set_option autoImplicit false

namespace ClientGen.Lint

variable {lines : List (List Char)} {number : Nat} {shown : String} {finding : Finding}

def lineAt (lines : List (List Char)) : Nat → Option (List Char)
  | 0 => none
  | index + 1 => lines[index]?

/-- A text is the line with a number without the blanks around it, and empty exactly if this line is blank or there
is none. -/
structure ShowsLine (lines : List (List Char)) (number : Nat) (shown : String) : Prop where
  line : ∀ line ∈ lineAt lines number, shown = String.ofList (Text.trimBlanks line)
  empty : shown = "" ↔ ∀ line ∈ lineAt lines number, ∀ c ∈ line, Text.isBlank c = true

theorem showsLine_iff :
    ShowsLine lines number shown ↔ shown = String.ofList (Text.trimBlanks ((lineAt lines number).getD [])) := by
  constructor
  · intro shows
    cases found : lineAt lines number with
    | none => exact shows.empty.mpr (by simp [found])
    | some line => exact shows.line line found
  · rintro rfl
    cases found : lineAt lines number with
    | none => exact ⟨by simp [found], by simp [found, Text.trimBlanks, Text.trimRightBlanks]⟩
    | some line =>
      refine ⟨by simp [found], ?_⟩
      rw [found, Option.getD_some, String.ofList_eq_empty_iff, Text.trimBlanks_eq_nil_iff]
      simp

theorem evidence_eq (lines : List (List Char)) (number : Nat) :
    evidence lines number = String.ofList (Text.trimBlanks ((lineAt lines number).getD [])) := by
  cases number with
  | zero => rfl
  | succ index =>
    rw [evidence, if_neg (Nat.succ_ne_zero index), Nat.add_sub_cancel, lineAt]
    cases lines[index]? <;> rfl

theorem showsLine_evidence (lines : List (List Char)) (number : Nat) : ShowsLine lines number (evidence lines number) :=
  showsLine_iff.mpr (evidence_eq lines number)

/-! ## Lines of the text and of the script -/

theorem getD_lineAt_lines (text : List Char) (index : Nat) :
    (lineAt (Text.lines text) (index + 1)).getD [] = Text.nthLine Text.isLineEnd (Text.unifyBreaks text) index := by
  rw [lineAt, Text.nthLine]
  obtain same | behind := Text.splitOnP_unifyBreaks text
  · rw [same]
  · -- The empty line behind the last end is no other than the one beyond all lines.
    rw [behind]
    obtain within | beyond := Nat.lt_or_ge index (Text.lines text).length
    · rw [List.getElem?_append_left within]
    · rw [List.getElem?_append_right beyond, List.getElem?_eq_none beyond]
      cases index - (Text.lines text).length <;> rfl

theorem showsLine_succ_iff (text : List Char) (index : Nat) :
    ShowsLine (Script.lines text) (index + 1) (evidence (Text.lines text) (index + 1)) ↔
      Text.trimBlanks (Text.nthLine Text.isLineEnd (Text.unifyBreaks text) index) =
        Text.trimBlanks (Text.nthLine Script.isLineEnd (Text.unifyBreaks text) index) := by
  rw [showsLine_iff, evidence_eq, getD_lineAt_lines, String.ofList_inj]
  rfl

theorem showsLine_iff_blankBehind (text : List Char) (count : Nat) :
    (∀ number ≤ count, ShowsLine (Script.lines text) number (evidence (Text.lines text) number)) ↔
      Text.BlankBehind ((Script.lines text).take count).flatten := by
  change _ ↔ Text.BlankBehind (Text.firstLines Script.isLineEnd (Text.unifyBreaks text) count)
  constructor
  · intro shows
    exact Text.trimBlanks_nthLine_iff.mp fun index early => (showsLine_succ_iff text index).mp (shows (index + 1) early)
  · intro behind number reached
    cases number with
    | zero => exact showsLine_iff.mpr rfl
    | succ index => exact (showsLine_succ_iff text index).mpr (Text.trimBlanks_nthLine_iff.mpr behind index reached)

/-! ## Findings of the parser -/

def TellsOf (line : Nat) : Script.Verdict → Prop
  | .rejected broken _ => broken = line
  | .accepted remarks => ∃ remark ∈ remarks, remark.line = line

theorem exists_of_mem_ofVerdict {verdict : Script.Verdict} (among : finding ∈ ofVerdict lines verdict) :
    ∃ number : Nat, TellsOf number verdict ∧ finding.line = number ∧ finding.evidence = evidence lines number := by
  cases verdict with
  | rejected line reason =>
    obtain rfl := List.mem_singleton.mp among
    exact ⟨line, rfl, rfl, rfl⟩
  | accepted remarks =>
    obtain ⟨remark, told, rfl⟩ := List.mem_map.mp among
    exact ⟨remark.line, ⟨remark, told, rfl⟩, rfl, rfl⟩

theorem mem_ofVerdict_of_code {judge : Script.Judge} {options : Options} {source : String}
    (among : finding ∈ findings judge options source) (parsed : finding.code = "E001" ∨ finding.code = "W001") :
    finding ∈ ofVerdict (Text.lines source.toList) (judge options.esnext source) := by
  have all := mem_of_mem_limit among
  rw [allFindings, List.mem_append, List.mem_append] at all
  obtain (verdict | blank) | strict := all
  · exact verdict
  · obtain ⟨_, _, _, _, _, rfl⟩ := mem_blankWarnings_iff.mp blank
    simp [blankWarning] at parsed
  · rw [code_of_mem_strictWarnings strict] at parsed
    simp at parsed

/-- A finding of the parser shows the line with its number, by the line boundaries of Unicode. For all lines up to any
number, these are the lines that the parser counts, exactly if there nothing but blanks stands behind the first line
boundary that is none of a script. -/
theorem evidence_shown (judge : Script.Judge) (options : Options) (source : String) :
    (∀ finding ∈ findings judge options source, finding.code = "E001" ∨ finding.code = "W001" →
      ∃ number : Nat, TellsOf number (judge options.esnext source) ∧ finding.line = number ∧
        ShowsLine (Text.lines source.toList) number finding.evidence ∧
        (Text.BlankBehind ((Script.lines source.toList).take number).flatten →
          ShowsLine (Script.lines source.toList) number finding.evidence)) ∧
    ∀ count,
      (∀ number ≤ count, ShowsLine (Script.lines source.toList) number (evidence (Text.lines source.toList) number)) ↔
        Text.BlankBehind ((Script.lines source.toList).take count).flatten := by
  have same := showsLine_iff_blankBehind source.toList
  refine ⟨fun finding among parsed => ?_, same⟩
  obtain ⟨number, told, line, shown⟩ := exists_of_mem_ofVerdict (mem_ofVerdict_of_code among parsed)
  refine ⟨number, told, line, ?_, fun behind => ?_⟩ <;> rw [shown]
  · exact showsLine_evidence _ number
  · exact (same number).mpr behind number (Nat.le_refl number)

/-- Line boundaries behind the line of the error change nothing. -/
theorem evidence_shown_carriage :
    (⟨"E001", "Line 2: Unexpected token =", "var = ;", 2⟩ : Finding) ∈
      findings Script.judge {} "'use strict';\r\nvar = ;\n// \x0C.\n" ∧
    ShowsLine (Script.lines "'use strict';\r\nvar = ;\n// \x0C.\n".toList) 2 "var = ;" := by
  have found : (⟨"E001", "Line 2: Unexpected token =", "var = ;", 2⟩ : Finding) ∈
      findings Script.judge {} "'use strict';\r\nvar = ;\n// \x0C.\n" := by decide +kernel
  obtain ⟨shown, _⟩ := evidence_shown Script.judge {} "'use strict';\r\nvar = ;\n// \x0C.\n"
  obtain ⟨number, -, line, -, shows⟩ := shown _ found (.inl rfl)
  obtain rfl : number = 2 := (Int.ofNat.inj line).symm
  exact ⟨found, shows (by decide +kernel)⟩

/-- A form feed puts the evidence on another line: an empty one, or the end of a comment before the error. -/
theorem evidence_misplaced :
    ((⟨"E001", "Line 2: Unexpected token =", "", 2⟩ : Finding) ∈ findings Script.judge {} "var a;\x0C\nvar = ;\n" ∧
      lineAt (Script.lines "var a;\x0C\nvar = ;\n".toList) 2 = some "var = ;".toList ∧
      ¬ ShowsLine (Script.lines "var a;\x0C\nvar = ;\n".toList) 2 "") ∧
    ((⟨"E001", "Line 2: Unexpected token =", "b */", 2⟩ : Finding) ∈
        findings Script.judge {} "/* a \x0C b */\nvar = ;\n" ∧
      lineAt (Script.lines "/* a \x0C b */\nvar = ;\n".toList) 2 = some "var = ;".toList ∧
      ¬ ShowsLine (Script.lines "/* a \x0C b */\nvar = ;\n".toList) 2 "b */") := by
  have feed : lineAt (Script.lines "var a;\x0C\nvar = ;\n".toList) 2 = some "var = ;".toList := by decide +kernel
  have comment : lineAt (Script.lines "/* a \x0C b */\nvar = ;\n".toList) 2 = some "var = ;".toList := by decide +kernel
  exact ⟨⟨by decide +kernel, feed, fun shows => absurd (shows.line _ feed) (by decide +kernel)⟩,
    ⟨by decide +kernel, comment, fun shows => absurd (shows.line _ comment) (by decide +kernel)⟩⟩

end ClientGen.Lint
