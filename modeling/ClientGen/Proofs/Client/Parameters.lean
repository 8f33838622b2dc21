import ClientGen.Proofs.Client.Arguments

/-! The entries of parameter lists, taken one by one. Each entry contributes a parameter, nothing or a failure by
itself; an entry that is hidden from clients contributes nothing, and nothing else that it says matters. -/

set_option autoImplicit false

namespace ClientGen.Parameter

open Outcome (FirstFails)

/-- What a field says when it marks its entry as one that clients do not see. -/
inductive Marks : String → Value → Prop where
  | excluded : Marks "x-exclude-from-bindings" (.bool true)
  | proxied {value : Value} : value.isTrue = true → Marks "x-proxy-header" value

def IsMarked (entry : Value) : Prop := ∃ field value, entry.get? field = some value ∧ Marks field value

/-- What a field says when it hides its entry: it is a mark, or refers to a shared parameter that is marked. -/
inductive Hides (document : Value) : String → Value → Prop where
  | mark {field : String} {value : Value} : Marks field value → Hides document field value
  | reference {path : String} {shared : Value} : resolve document path = .ok shared → IsMarked shared →
      Hides document "$ref" (.text path)

def IsHidden (document entry : Value) : Prop :=
  ∃ field value, entry.get? field = some value ∧ Hides document field value

def IsMissing (document : Value) (path : String) : Prop :=
  ∃ listed, document.field "parameters" = .ok listed ∧
    (listed.orElse (.object [])).field (SchemaType.refName path) = .ok .null

/-- What an entry can contribute. -/
inductive Step (document entry : Value) : Except Failure (Option Parameter) → Prop where
  | hidden : IsHidden document entry → Step document entry (.ok none)
  | unresolved {path : String} : ¬ IsHidden document entry → entry.get? "$ref" = some (.text path) →
      IsMissing document path → Step document entry (.error (.unresolved path))
  | referred {path : String} : ¬ IsHidden document entry → entry.get? "$ref" = some (.text path) →
      ¬ IsMissing document path → Step document entry ((resolve document path >>= ofEntry document).map some)
  | described : ¬ IsHidden document entry → (∀ path, entry.get? "$ref" ≠ some (.text path)) →
      Step document entry ((ofEntry document entry).map some)

/-- Equal entries, or two that the same field hides. -/
inductive SameUse (document : Value) : Value → Value → Prop where
  | same (entry : Value) : SameUse document entry entry
  | hidden {entry other : Value} {field : String} {value : Value} : Hides document field value →
      entry.get? field = some value → other.get? field = some value → SameUse document entry other

def listing (entries : Option (List Value)) : Value := entries.elim .null .list

variable {document : Value}

theorem isMarked_iff {entry : Value} :
    IsMarked entry ↔ entry.get? "x-exclude-from-bindings" = some (.bool true) ∨
      ∃ value, entry.get? "x-proxy-header" = some value ∧ value.isTrue = true := by
  constructor
  · rintro ⟨_, value, found, ⟨⟩ | ⟨holds⟩⟩
    · exact .inl found
    · exact .inr ⟨value, found, holds⟩
  · rintro (excluded | ⟨value, proxied, holds⟩)
    · exact ⟨_, _, excluded, .excluded⟩
    · exact ⟨_, value, proxied, .proxied holds⟩

theorem isExcluded_eq_ok {entry : Value} {excluded : Bool} (told : isExcluded entry = .ok excluded) :
    excluded = true ↔ IsMarked entry := by
  obtain ⟨mark, asked, told⟩ := Outcome.bind_eq_ok.mp told
  obtain ⟨found, entered, rfl⟩ := Outcome.map_eq_ok.mp asked
  cases entry with
  | object fields =>
    cases entered
    rw [isMarked_iff]
    simp only [Value.get?]
    -- The mark decides if it is set, and otherwise the word for a header of a proxy.
    split at told
    case h_1 marked =>
      cases told
      refine iff_of_true rfl (.inl ?_)
      cases here : (Key.text "x-exclude-from-bindings").lookup fields <;> rw [here] at marked <;> cases marked
      rfl
    case h_2 unmarked =>
      obtain ⟨proxy, asked, same⟩ := Outcome.bind_eq_ok.mp told
      cases asked
      cases same
      have notExcluded : (Key.text "x-exclude-from-bindings").lookup fields ≠ some (.bool true) :=
        fun marked => unmarked (by rw [marked]; rfl)
      rw [or_iff_right notExcluded]
      cases (Key.text "x-proxy-header").lookup fields with
      | none => simp [Value.isTrue]
      | some value => simp
  | _ => cases entered

theorem exists_isExcluded (fields : List (Key × Value)) : ∃ excluded, isExcluded (.object fields) = .ok excluded := by
  unfold isExcluded
  simp only [Value.field, Value.field?, Outcome.map_ok, Outcome.ok_bind]
  split <;> exact ⟨_, rfl⟩

theorem object_of_get? {entry value : Value} {field : String} (found : entry.get? field = some value) :
    ∃ fields, entry = .object fields := by
  cases entry with
  | object fields => exact ⟨fields, rfl⟩
  | _ => cases found

theorem field_object (fields : List (Key × Value)) (name : String) :
    (Value.object fields).field name = .ok (((Value.object fields).get? name).getD .null) := rfl

theorem isExcluded_of_marked {entry : Value} (marked : IsMarked entry) : isExcluded entry = .ok true := by
  obtain ⟨fields, rfl⟩ : ∃ fields, entry = .object fields := by
    obtain ⟨_, _, found, _⟩ := marked
    exact object_of_get? found
  obtain ⟨excluded, told⟩ := exists_isExcluded fields
  rw [told, (isExcluded_eq_ok told).mpr marked]

theorem isExcluded_of_not_marked {fields : List (Key × Value)} (unmarked : ¬ IsMarked (.object fields)) :
    isExcluded (.object fields) = .ok false := by
  obtain ⟨excluded, told⟩ := exists_isExcluded fields
  rw [told, Bool.eq_false_iff.mpr (mt (isExcluded_eq_ok told).mp unmarked)]

theorem not_marked_of_not_hidden {entry : Value} (shown : ¬ IsHidden document entry) : ¬ IsMarked entry := by
  rintro ⟨field, value, found, marks⟩
  exact shown ⟨field, value, found, .mark marks⟩

theorem contribution_hidden {entry : Value} (hidden : IsHidden document entry) :
    contribution document entry = .ok none := by
  obtain ⟨field, value, found, hides⟩ := hidden
  obtain ⟨fields, rfl⟩ := object_of_get? found
  unfold contribution
  by_cases marked : IsMarked (.object fields)
  · rw [isExcluded_of_marked marked]
    rfl
  · rw [isExcluded_of_not_marked marked]
    cases hides with
    | mark marks => exact absurd ⟨field, value, found, marks⟩ marked
    | reference named marks => simp [field_object, found, named, isExcluded_of_marked marks]

theorem contribution_referred {fields : List (Key × Value)} {path : String}
    (shown : ¬ IsHidden document (.object fields)) (refers : (Value.object fields).get? "$ref" = some (.text path)) :
    contribution document (.object fields) = (resolve document path >>= ofEntry document).map some := by
  unfold contribution
  rw [isExcluded_of_not_marked (not_marked_of_not_hidden shown)]
  cases named : resolve document path with
  | error failure => simp [field_object, refers, named]
  | ok shared =>
    simp only [field_object, refers, named, Outcome.ok_bind, Option.getD_some, Bool.false_eq_true, if_false]
    cases shared with
    | object others =>
      have unmarked : ¬ IsMarked (.object others) := fun marked => shown ⟨_, _, refers, .reference named marked⟩
      rw [isExcluded_of_not_marked unmarked]
      cases ofEntry document (.object others) <;> rfl
    -- Of something else than an object neither marks nor a location can be asked.
    | _ => rfl

theorem contribution_described {fields : List (Key × Value)} (shown : ¬ IsHidden document (.object fields))
    (direct : ∀ path, (Value.object fields).get? "$ref" ≠ some (.text path)) :
    contribution document (.object fields) = (ofEntry document (.object fields)).map some := by
  unfold contribution
  rw [isExcluded_of_not_marked (not_marked_of_not_hidden shown)]
  simp only [field_object, Outcome.ok_bind, Bool.false_eq_true, if_false]
  split
  case h_1 path refers =>
    cases found : (Value.object fields).get? "$ref" with
    | none =>
      rw [found] at refers
      cases refers
    | some value =>
      rw [found] at refers
      cases refers
      exact absurd found (direct path)
  case h_2 => cases ofEntry document (.object fields) <;> rfl

theorem resolve_missing {path : String} (missing : IsMissing document path) :
    resolve document path = .error (.unresolved path) := by
  obtain ⟨listed, read, none⟩ := missing
  unfold resolve
  simp [read, none]

theorem contribution_step (fields : List (Key × Value)) :
    Step document (.object fields) (contribution document (.object fields)) := by
  by_cases hidden : IsHidden document (.object fields)
  · rw [contribution_hidden hidden]
    exact .hidden hidden
  by_cases refers : ∃ path, (Value.object fields).get? "$ref" = some (.text path)
  · obtain ⟨path, refers⟩ := refers
    rw [contribution_referred hidden refers]
    by_cases missing : IsMissing document path
    · rw [resolve_missing missing]
      exact .unresolved hidden refers missing
    · exact .referred hidden refers missing
  · rw [not_exists] at refers
    rw [contribution_described hidden refers]
    exact .described hidden refers

theorem ofEntries_append (first rest : List Value) :
    ofEntries document (first ++ rest) = do
      return (← ofEntries document first) ++ (← ofEntries document rest) := by
  unfold ofEntries
  rw [List.mapM_append]
  cases first.mapM (contribution document) with
  | error failure => rfl
  | ok parameters =>
    cases rest.mapM (contribution document) with
    | error failure => rfl
    | ok others => exact congrArg Except.ok (List.filterMap_append ..)

theorem ofEntries_singleton (entry : Value) :
    ofEntries document [entry] = (contribution document entry).map Option.toList := by
  unfold ofEntries
  rw [List.mapM_cons, List.mapM_nil]
  cases contribution document entry with
  | error failure => rfl
  | ok contributed => cases contributed <;> rfl

theorem ofEntries_cons (entry : Value) (rest : List Value) :
    ofEntries document (entry :: rest) = do
      return (← contribution document entry).toList ++ (← ofEntries document rest) := by
  rw [← List.singleton_append, ofEntries_append, ofEntries_singleton]
  cases contribution document entry <;> rfl

theorem ofEntries_eq_error_iff {entries : List Value} {failure : Failure} :
    ofEntries document entries = .error failure ↔ FirstFails (contribution document) entries failure := by
  rw [ofEntries, Outcome.bind_eq_error, Outcome.mapM_eq_error_iff]
  exact or_iff_left (by simp)

theorem ofEntries_filter {keep : Value → Bool} {entries : List Value}
    (hidden : ∀ entry ∈ entries, keep entry = false → IsHidden document entry) :
    ofEntries document (entries.filter keep) = ofEntries document entries := by
  induction entries with
  | nil => rfl
  | cons entry rest ih =>
    rw [List.forall_mem_cons] at hidden
    have others := ih hidden.2
    rw [List.filter_cons]
    cases kept : keep entry with
    | true => rw [if_pos rfl, ofEntries_cons, ofEntries_cons, others]
    | false =>
      rw [if_neg Bool.false_ne_true, ofEntries_cons, contribution_hidden (hidden.1 kept), others]
      cases ofEntries document rest <;> rfl

theorem SameUse.contribution {entry other : Value} (alike : SameUse document entry other) :
    contribution document entry = contribution document other := by
  cases alike with
  | same => rfl
  | hidden hides here there =>
    rw [contribution_hidden ⟨_, _, here, hides⟩, contribution_hidden ⟨_, _, there, hides⟩]

theorem ofEntries_sameUse {entries others : List Value} (alike : List.Forall₂ (SameUse document) entries others) :
    ofEntries document entries = ofEntries document others := by
  induction alike with
  | nil => rfl
  | cons here _ ih => rw [ofEntries_cons, ofEntries_cons, here.contribution, ih]

theorem parse_listing (own shared : Option (List Value)) :
    parse document (listing own) (listing shared) = ofEntries document (own.getD [] ++ shared.getD []) := by
  have elements (entries : Option (List Value)) :
      ((listing entries).orElse (.list [])).elements = .ok (entries.getD []) := by
    cases entries with
    | none => rfl
    | some items => cases items <;> rfl
  unfold parse listed
  rw [elements, elements]
  rfl

/-- The parameters of an operation are those that the entries of both lists contribute, one after another, and the first
entry that fails is the reason why there are none. Entries that are hidden can be left out, or say anything else as long
as they stay hidden. -/
theorem parse_entrywise (document : Value) :
    (∀ own shared, parse document (listing own) (listing shared) =
      ofEntries document (own.getD [] ++ shared.getD [])) ∧
    ofEntries document [] = .ok [] ∧
    (∀ entry, ofEntries document [entry] = (contribution document entry).map Option.toList) ∧
    (∀ first rest, ofEntries document (first ++ rest) = do
      return (← ofEntries document first) ++ (← ofEntries document rest)) ∧
    (∀ entries failure, ofEntries document entries = .error failure ↔
      FirstFails (contribution document) entries failure) ∧
    (∀ fields, Step document (.object fields) (contribution document (.object fields))) ∧
    (∀ (keep : Value → Bool) (entries : List Value),
      (∀ entry ∈ entries, keep entry = false → IsHidden document entry) →
      ofEntries document (entries.filter keep) = ofEntries document entries) ∧
    ∀ entries others, List.Forall₂ (SameUse document) entries others →
      ofEntries document entries = ofEntries document others :=
  ⟨parse_listing, rfl, ofEntries_singleton, ofEntries_append, fun _ _ => ofEntries_eq_error_iff, contribution_step,
    fun _ _ => ofEntries_filter, fun _ _ => ofEntries_sameUse⟩

/-! ## Two hidden entries, each wrong in its own way -/

def sharing : Value :=
  .object [(.text "parameters", .object [
    (.text "limit", .object [(.text "in", .text "query"), (.text "name", .text "limit")]),
    (.text "caller", .object [(.text "x-proxy-header", .text "X-Caller")])])]

def limit : Value := .object [(.text "$ref", .text "#/parameters/limit")]

def dangling : Value := .object [(.text "$ref", .text "#/parameters/none")]

def marked (location : String) : Value :=
  .object [(.text "x-exclude-from-bindings", .bool true), (.text "$ref", .text "#/parameters/none"),
    (.text "in", .text location)]

def proxied : Value := .object [(.text "$ref", .text "#/parameters/caller"), (.text "in", .text "cookie")]

theorem parse_entrywise_hidden :
    (ofEntries sharing [limit]).toOption.map (List.map Parameter.argument) = some ["limit"] ∧
    parse sharing (listing (some [marked "cookie", limit])) (listing (some [proxied])) = ofEntries sharing [limit] ∧
    ofEntries sharing [marked "cookie", dangling] = ofEntries sharing [marked "query", dangling] ∧
    ofEntries sharing [marked "query", dangling, proxied] = .error (.unresolved "#/parameters/none") := by
  obtain ⟨listings, _, _, _, failing, _, kept, altered⟩ := parse_entrywise sharing
  have mark (location : String) : IsHidden sharing (marked location) := ⟨_, _, rfl, .mark .excluded⟩
  have reference : IsHidden sharing proxied := ⟨_, _, rfl, .reference rfl ⟨_, _, rfl, .proxied rfl⟩⟩
  refine ⟨by decide +kernel, ?_, altered _ _ ?_, (failing _ _).mpr ⟨[marked "query"], dangling, [proxied], rfl, ?_, ?_⟩⟩
  · have direct : (limit.get? "in").isNone = true := by decide
    have left := kept (fun entry => (entry.get? "in").isNone) [marked "cookie", limit, proxied]
      (by simp [mark, reference, direct])
    rw [listings]
    exact left.symm
  · exact .cons (.hidden (.mark .excluded) rfl rfl) (.cons (.same _) .nil)
  · rw [List.forall_mem_singleton]
    exact ⟨none, contribution_hidden (mark _)⟩
  · exact rfl

end ClientGen.Parameter
