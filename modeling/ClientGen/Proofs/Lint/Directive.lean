import ClientGen.Proofs.Lint.Findings

/-! The warning that a script is not strict. It is left out where a directive can be reached over white space and
comments when a block comment may go on behind its end, a line comment ends only with a line feed, and the quotes of the
directive need not match. Where none of this matters, these are the scripts that begin with the directive. -/

set_option autoImplicit false

namespace ClientGen.Lint

/-- A directive can be reached over white space, line comments up to their line feed and block comments that hold any
text. -/
inductive LooselyStrict : List Char → Prop
  | blank {c : Char} {rest : List Char} : Text.isBlank c = true → LooselyStrict rest → LooselyStrict (c :: rest)
  | block (inside : List Char) {rest : List Char} : LooselyStrict rest →
    LooselyStrict ('/' :: '*' :: (inside ++ '*' :: '/' :: rest))
  | line {inside rest : List Char} : '\n' ∉ inside → LooselyStrict rest →
    LooselyStrict ('/' :: '/' :: (inside ++ '\n' :: rest))
  | directive {text : List Char} : startsWithDirective text = true → LooselyStrict text

mutual

/-- What is left of a text behind white space and comments; a line comment ends with a character that ends lines. -/
def afterGap (endsLine : Char → Bool) : List Char → List Char
  | '/' :: '*' :: rest => afterBlock endsLine rest
  | '/' :: '/' :: rest => afterLine endsLine rest
  | c :: rest => if Text.isBlank c then afterGap endsLine rest else c :: rest
  | [] => []

def afterBlock (endsLine : Char → Bool) : List Char → List Char
  | '*' :: '/' :: rest => afterGap endsLine rest
  | _ :: rest => afterBlock endsLine rest
  | [] => []

def afterLine (endsLine : Char → Bool) : List Char → List Char
  | c :: rest => if endsLine c then afterGap endsLine rest else afterLine endsLine rest
  | [] => []

end

def BeginsStrict (text : List Char) : Prop := ∃ quote ∈ ['\'', '"'], quote :: "use strict".toList ++ [quote] <+: text

instance (text : List Char) : Decidable (BeginsStrict text) := List.decidableBEx _ _

variable {judge : Script.Judge} {options : Options} {source : String} {text rest : List Char} {endsLine : Char → Bool}

theorem startsWithDirective_iff : startsWithDirective text = true ↔ ∃ opening closing rest,
    isQuote opening = true ∧ isQuote closing = true ∧ text = opening :: ("use strict".toList ++ closing :: rest) := by
  constructor
  · intro starts
    unfold startsWithDirective at starts
    split at starts
    next opening rest =>
      simp only [Bool.and_eq_true] at starts
      obtain ⟨⟨opens, words⟩, closes⟩ := starts
      obtain ⟨more, rfl⟩ := List.isPrefixOf_iff_prefix.mp words
      rw [show ("use strict".toList ++ more).drop 10 = more from rfl] at closes
      cases more with
      | nil => cases closes
      | cons closing rest => exact ⟨opening, closing, rest, opens, closes, rfl⟩
    next => cases starts
  · rintro ⟨opening, closing, rest, opens, closes, rfl⟩
    simp only [startsWithDirective, Bool.and_eq_true]
    exact ⟨⟨opens, List.isPrefixOf_iff_prefix.mpr (List.prefix_append _ _)⟩, closes⟩

theorem isQuote_iff {c : Char} : isQuote c = true ↔ c ∈ ['\'', '"'] := by
  simp [isQuote]

theorem BeginsStrict.startsWithDirective (begins : BeginsStrict text) : startsWithDirective text = true := by
  obtain ⟨quote, among, rest, rfl⟩ := begins
  exact startsWithDirective_iff.mpr ⟨quote, quote, rest, isQuote_iff.mpr among, isQuote_iff.mpr among, by simp⟩

theorem isBlank_of_isQuote {c : Char} (quote : isQuote c = true) : Text.isBlank c = false := by
  rcases List.mem_pair.mp (isQuote_iff.mp quote) with rfl | rfl <;> decide

/-! ## Reaching the directive -/

theorem mem_afterCommentEnds_iff : rest ∈ afterCommentEnds text ↔ '*' :: '/' :: rest <:+ text := by
  fun_induction afterCommentEnds text with
  | case1 others ih => simp [ih, List.suffix_cons_iff]
  | case2 c others other ih =>
    rw [ih, List.suffix_cons_iff]
    refine ⟨.inr, fun found => found.resolve_left fun same => ?_⟩
    obtain ⟨rfl, rfl⟩ := List.cons.inj same
    exact other rest rfl rfl
  | case3 => simp

theorem eq_of_dropWhile_cons {c : Char} {after : List Char} (reached : text.dropWhile (· ≠ '\n') = c :: after) :
    ∃ inside, '\n' ∉ inside ∧ text = inside ++ '\n' :: after := by
  induction text with
  | nil => cases reached
  | cons d rest ih =>
    by_cases ends : d = '\n'
    · rw [List.dropWhile_cons_of_neg (by simp [ends])] at reached
      exact ⟨[], List.not_mem_nil, by rw [ends, (List.cons.inj reached).2, List.nil_append]⟩
    · rw [List.dropWhile_cons_of_pos (by simp [ends])] at reached
      obtain ⟨inside, free, rfl⟩ := ih reached
      exact ⟨d :: inside, by simp [free, Ne.symm ends], rfl⟩

theorem isStrict_blank {c : Char} {bound : Nat} (blank : Text.isBlank c = true) :
    isStrict bound (c :: rest) = isStrict bound rest := by
  cases bound with
  | zero => rfl
  | succ bound =>
    unfold isStrict
    rw [List.dropWhile_cons_of_pos blank]

theorem isStrict_block {bound : Nat} :
    isStrict (bound + 1) ('/' :: '*' :: rest) = (afterCommentEnds rest).any (isStrict bound) := rfl

theorem isStrict_line {inside : List Char} {bound : Nat} (free : '\n' ∉ inside) :
    isStrict (bound + 1) ('/' :: '/' :: (inside ++ '\n' :: rest)) = isStrict bound rest := by
  have reached : (inside ++ '\n' :: rest).dropWhile (· ≠ '\n') = '\n' :: rest := by
    rw [List.dropWhile_append_of_pos fun c among => by simpa using ne_of_mem_of_not_mem among free]
    exact List.dropWhile_cons_of_neg (by simp)
  change (match (inside ++ '\n' :: rest).dropWhile (· ≠ '\n') with
    | _ :: after => isStrict bound after
    | [] => false) = _
  rw [reached]

theorem isStrict_directive {bound : Nat} (starts : startsWithDirective text = true) :
    isStrict (bound + 1) text = true := by
  obtain ⟨opening, closing, rest, opens, _, rfl⟩ := startsWithDirective_iff.mp starts
  unfold isStrict
  rw [List.dropWhile_cons_of_neg (by simp [isBlank_of_isQuote opens])]
  rcases List.mem_pair.mp (isQuote_iff.mp opens) with rfl | rfl <;> exact starts

namespace LooselyStrict

theorem of_dropWhile (strict : LooselyStrict (text.dropWhile Text.isBlank)) : LooselyStrict text := by
  induction text with
  | nil => exact strict
  | cons c rest ih =>
    by_cases blank : Text.isBlank c = true
    · rw [List.dropWhile_cons_of_pos blank] at strict
      exact .blank blank (ih strict)
    · rwa [List.dropWhile_cons_of_neg blank] at strict

theorem of_isStrict {bound : Nat} (strict : isStrict bound text = true) : LooselyStrict text := by
  induction bound generalizing text with
  | zero => cases strict
  | succ bound ih =>
    refine .of_dropWhile ?_
    unfold isStrict at strict
    -- The bound counts comments, and what is blank in front of each of them costs nothing.
    generalize text.dropWhile Text.isBlank = text at strict ⊢
    dsimp only at strict
    split at strict
    next rest =>
      obtain ⟨after, reached, later⟩ := List.any_eq_true.mp strict
      obtain ⟨inside, rfl⟩ := mem_afterCommentEnds_iff.mp reached
      exact .block inside (ih later)
    next rest =>
      split at strict
      next c after reached =>
        obtain ⟨inside, free, rfl⟩ := eq_of_dropWhile_cons reached
        exact .line free (ih strict)
      next => cases strict
    next => exact .directive strict

theorem isStrict (strict : LooselyStrict text) {bound : Nat} (enough : text.length < bound) :
    Lint.isStrict bound text = true := by
  -- Each comment that is left behind makes the text shorter, so a bound above its length is never reached.
  induction strict generalizing bound with
  | @blank c rest blank _ ih =>
    rw [List.length_cons] at enough
    rw [isStrict_blank blank]
    exact ih (by omega)
  | @block inside rest _ ih =>
    simp only [List.length_cons, List.length_append] at enough
    obtain ⟨bound, rfl⟩ := Nat.exists_eq_add_one.mpr (by omega : 0 < bound)
    rw [isStrict_block, List.any_eq_true]
    exact ⟨rest, mem_afterCommentEnds_iff.mpr ⟨inside, rfl⟩, ih (by omega)⟩
  | @line inside rest free _ ih =>
    simp only [List.length_cons, List.length_append] at enough
    obtain ⟨bound, rfl⟩ := Nat.exists_eq_add_one.mpr (by omega : 0 < bound)
    rw [isStrict_line free]
    exact ih (by omega)
  | @directive text starts =>
    obtain ⟨bound, rfl⟩ := Nat.exists_eq_add_one.mpr (by omega : 0 < bound)
    exact isStrict_directive starts

end LooselyStrict

/-! ## Comments that end at their first end -/

theorem afterGap_directive (starts : startsWithDirective text = true) : afterGap endsLine text = text := by
  obtain ⟨opening, closing, rest, opens, _, rfl⟩ := startsWithDirective_iff.mp starts
  rcases List.mem_pair.mp (isQuote_iff.mp opens) with rfl | rfl <;> rfl

theorem afterGap_blank {c : Char} (blank : Text.isBlank c = true) :
    afterGap endsLine (c :: rest) = afterGap endsLine rest := by
  have noSlash : c ≠ '/' := by
    rintro rfl
    cases blank
  rw [afterGap, if_pos blank]
  all_goals exact fun _ slash => absurd slash noSlash

theorem afterBlock_eq : afterBlock endsLine text = ((afterCommentEnds text).head?.map (afterGap endsLine)).getD [] := by
  fun_induction afterCommentEnds text with
  | case1 others _ => rfl
  | case2 c others other ih =>
    rw [afterBlock, ih]
    exact other
  | case3 => rfl

theorem afterLine_cons {c : Char} :
    afterLine endsLine (c :: rest) = if endsLine c then afterGap endsLine rest else afterLine endsLine rest := rfl

theorem afterLine_append {inside : List Char} (free : ∀ c ∈ inside, endsLine c = false) {c : Char}
    (ends : endsLine c = true) : afterLine endsLine (inside ++ c :: rest) = afterGap endsLine rest := by
  induction inside with
  | nil => rw [List.nil_append, afterLine_cons, if_pos ends]
  | cons d inside ih =>
    obtain ⟨here, later⟩ := List.forall_mem_cons.mp free
    rw [List.cons_append, afterLine_cons, if_neg (by simp [here]), ih later]

theorem afterLine_cases (text : List Char) : afterLine endsLine text = [] ∨ ∃ inside c rest,
    (∀ d ∈ inside, endsLine d = false) ∧ endsLine c = true ∧ text = inside ++ c :: rest ∧
      afterLine endsLine text = afterGap endsLine rest := by
  induction text with
  | nil => exact .inl rfl
  | cons c rest ih =>
    rw [afterLine_cons]
    split
    next ends => exact .inr ⟨[], c, rest, nofun, ends, rfl, rfl⟩
    next inLine =>
      refine ih.imp_right ?_
      rintro ⟨inside, d, more, free, ends, rfl, same⟩
      exact ⟨c :: inside, d, more, List.forall_mem_cons.mpr ⟨eq_false_of_ne_true inLine, free⟩, ends, rfl, same⟩

theorem LooselyStrict.of_afterGap (starts : startsWithDirective (afterGap (· = '\n') text) = true) :
    LooselyStrict text := by
  -- Each comment or blank that is skipped leaves a shorter text.
  induction size : text.length using Nat.strong_induction_on generalizing text with
  | _ size ih =>
    subst size
    unfold afterGap at starts
    split at starts
    next rest =>
      rw [afterBlock_eq] at starts
      cases ends : afterCommentEnds rest with
      | nil =>
        rw [ends] at starts
        cases starts
      | cons first others =>
        rw [ends] at starts
        obtain ⟨inside, rfl⟩ := mem_afterCommentEnds_iff.mp (ends ▸ List.mem_cons_self)
        refine .block inside (ih _ ?_ starts rfl)
        simp only [List.length_cons, List.length_append]
        omega
    next rest =>
      rcases afterLine_cases rest with none | ⟨inside, c, after, free, ends, rfl, same⟩
      · rw [none] at starts
        cases starts
      · rw [same] at starts
        obtain rfl := of_decide_eq_true ends
        refine .line (fun among => ?_) (ih _ ?_ starts rfl)
        · simpa using free _ among
        · simp only [List.length_cons, List.length_append]
          omega
    next c rest _ _ =>
      split at starts
      next blank => exact .blank blank (ih _ (by simp) starts rfl)
      next => exact .directive starts
    next => cases starts

theorem LooselyStrict.afterGap_or (strict : LooselyStrict text) :
    startsWithDirective (afterGap (· = '\n') text) = true ∨
      ∃ rest ∈ afterCommentEnds text, startsWithDirective (afterGap (· = '\n') rest) = true := by
  simp only [mem_afterCommentEnds_iff]
  -- A block may have ended anywhere behind its start. The ends behind an end are ends too, so one of them will do.
  induction strict with
  | @blank c rest blank _ ih =>
    rw [afterGap_blank blank]
    exact ih.imp_right fun ⟨after, behind, starts⟩ => ⟨after, behind.trans (List.suffix_cons c rest), starts⟩
  | @block inside rest _ ih =>
    have whole : '*' :: '/' :: rest <:+ '/' :: '*' :: (inside ++ '*' :: '/' :: rest) := ⟨'/' :: '*' :: inside, rfl⟩
    rcases ih with starts | ⟨after, behind, starts⟩
    · exact .inr ⟨rest, whole, starts⟩
    · exact .inr ⟨after, (behind.trans ⟨['*', '/'], rfl⟩).trans whole, starts⟩
  | @line inside rest free _ ih =>
    have same : afterGap (· = '\n') ('/' :: '/' :: (inside ++ '\n' :: rest)) = afterGap (· = '\n') rest :=
      afterLine_append (fun c among => by simpa using ne_of_mem_of_not_mem among free) (by simp)
    have whole : rest <:+ '/' :: '/' :: (inside ++ '\n' :: rest) := ⟨'/' :: '/' :: (inside ++ ['\n']), by simp⟩
    rw [same]
    exact ih.imp_right fun ⟨after, behind, starts⟩ => ⟨after, behind.trans whole, starts⟩
  | directive starts => exact .inl (by rwa [afterGap_directive starts])

/-- White space and comments can be told in one way only, as far as a directive may stand behind them. -/
structure Unambiguous (text : List Char) : Prop where
  /-- Line comments end with their line feeds, or it makes no difference. -/
  lines : afterGap Script.isLineEnd text = afterGap (· = '\n') text
  quotes : startsWithDirective (afterGap Script.isLineEnd text) = true → BeginsStrict (afterGap Script.isLineEnd text)
  /-- A directive behind the end of any comment is this one. -/
  ends : ∀ rest ∈ afterCommentEnds text, startsWithDirective (afterGap (· = '\n') rest) = true →
    afterGap (· = '\n') rest = afterGap (· = '\n') text

instance (text : List Char) : Decidable (Unambiguous text) :=
  decidable_of_iff (_ ∧ _ ∧ _)
    ⟨fun ⟨lines, quotes, ends⟩ => ⟨lines, quotes, ends⟩, fun plain => ⟨plain.lines, plain.quotes, plain.ends⟩⟩

theorem Unambiguous.looselyStrict_iff (plain : Unambiguous text) :
    LooselyStrict text ↔ BeginsStrict (afterGap Script.isLineEnd text) := by
  constructor
  · intro strict
    refine plain.quotes ?_
    rw [plain.lines]
    rcases strict.afterGap_or with starts | ⟨rest, behind, starts⟩
    · exact starts
    · exact plain.ends rest behind starts ▸ starts
  · intro begins
    exact .of_afterGap (plain.lines ▸ begins.startsWithDirective)

/-! ## The warning -/

def ReportsLaxity (judge : Script.Judge) (options : Options) (source : String) : Prop :=
  ∃ finding ∈ findings judge options source, finding.code = "W097"

theorem code_of_mem_ofVerdict {lines : List (List Char)} {verdict : Script.Verdict} {finding : Finding}
    (among : finding ∈ ofVerdict lines verdict) : finding.code ≠ "W097" := by
  cases verdict with
  | rejected line reason =>
    rw [List.mem_singleton.mp among]
    simp
  | accepted remarks =>
    obtain ⟨remark, _, rfl⟩ := List.mem_map.mp among
    simp

theorem reportsLaxity_iff (strict : options.strict = true) (script : options.esnext = false)
    (room : (allFindings judge options source).length ≤ options.maxFindings) :
    ReportsLaxity judge options source ↔ ¬ LooselyStrict source.toList := by
  have whole : findings judge options source = allFindings judge options source := by
    rw [findings, limit_eq_take (by omega), List.take_of_length_le (by omega)]
  -- With room for all findings and more comments allowed than there are characters, nothing is cut off.
  have exact : isStrict (source.toList.length + 1) source.toList = true ↔ LooselyStrict source.toList :=
    ⟨.of_isStrict, fun reached => reached.isStrict (by omega)⟩
  rw [ReportsLaxity, whole, ← exact, allFindings]
  constructor
  · rintro ⟨finding, among, code⟩ reached
    rcases List.mem_append.mp among with others | warned
    · rcases List.mem_append.mp others with parsed | blank
      · exact code_of_mem_ofVerdict parsed code
      · obtain ⟨_, _, _, _, _, rfl⟩ := mem_blankWarnings_iff.mp blank
        simp [blankWarning] at code
    · simp [strictWarnings, reached] at warned
  · intro lax
    have warned : strictWarnings options (Text.lines source.toList) source.toList ≠ [] := by
      simp [strictWarnings, strict, script, lax]
    obtain ⟨finding, among⟩ := List.exists_mem_of_ne_nil _ warned
    exact ⟨finding, List.mem_append_right _ among, code_of_mem_strictWarnings among⟩

/-- A script gets the warning exactly if no directive can be reached over white space and comments, where a block
comment may go on behind its end. There is no false warning if line comments end with line feeds, and if besides quotes
match and no other directive stands behind the end of a comment, the warning is left out exactly for the scripts that
begin with the directive behind white space, block comments up to their first ends and line comments. -/
theorem laxity_reported (judge : Script.Judge) (options : Options) (source : String) (strict : options.strict = true)
    (script : options.esnext = false) (room : (allFindings judge options source).length ≤ options.maxFindings) :
    (ReportsLaxity judge options source ↔ ¬ LooselyStrict source.toList) ∧
    (afterGap Script.isLineEnd source.toList = afterGap (· = '\n') source.toList →
      BeginsStrict (afterGap Script.isLineEnd source.toList) → ¬ ReportsLaxity judge options source) ∧
    (Unambiguous source.toList →
      (ReportsLaxity judge options source ↔ ¬ BeginsStrict (afterGap Script.isLineEnd source.toList))) := by
  have exact := reportsLaxity_iff strict script room
  refine ⟨exact, fun lines begins => ?_, fun plain => by rw [exact, plain.looselyStrict_iff]⟩
  rw [exact, not_not]
  exact .of_afterGap (lines ▸ begins.startsWithDirective)

/-- A directive within a comment is none, and one behind comments is. -/
theorem laxity_reported_commented :
    ReportsLaxity Script.judge {} "/* 'use strict' */ var a;" ∧
    ¬ ReportsLaxity Script.judge {} "/* a */\r\n// b\r\n\"use strict\"; /* c */" := by
  obtain ⟨_, _, within⟩ := laxity_reported Script.judge {} "/* 'use strict' */ var a;" rfl rfl (by decide +kernel)
  obtain ⟨_, unwarned, _⟩ :=
    laxity_reported Script.judge {} "/* a */\r\n// b\r\n\"use strict\"; /* c */" rfl rfl (by decide +kernel)
  exact ⟨(within (by decide +kernel)).mpr (by decide +kernel), unwarned (by decide +kernel) (by decide +kernel)⟩

/-- A block comment goes on to the end of another one, behind code; a single quote ends with a double one; and a line
comment ends with a carriage return. -/
theorem laxity_misjudged :
    (Script.judge false "/* a */ f(); /* b */ 'use strict';\n" = .accepted [] ∧
      ¬ ReportsLaxity Script.judge {} "/* a */ f(); /* b */ 'use strict';\n" ∧
      ¬ BeginsStrict (afterGap Script.isLineEnd "/* a */ f(); /* b */ 'use strict';\n".toList)) ∧
    (Script.judge false "'use strict\"';\n" = .accepted [] ∧ ¬ ReportsLaxity Script.judge {} "'use strict\"';\n" ∧
      ¬ BeginsStrict (afterGap Script.isLineEnd "'use strict\"';\n".toList)) ∧
    (Script.judge false "// a\r'use strict';\n" = .accepted [] ∧
      ReportsLaxity Script.judge {} "// a\r'use strict';\n" ∧
      BeginsStrict (afterGap Script.isLineEnd "// a\r'use strict';\n".toList)) := by
  unfold ReportsLaxity
  decide +kernel

end ClientGen.Lint
