import ClientGen.Client.Response
import ClientGen.Proofs.Outcome
import ClientGen.Proofs.Schema.Dialects

/-! What an operation answers with when it succeeds. All its entries of success are read in order, and the last one
alone says what the response is. An entry that a later one replaces can still make the whole fail. -/

set_option autoImplicit false

namespace ClientGen.Response

open Outcome (FirstFails Yields)

def IsEntry (value : Value) : Prop := value = .null ∨ ∃ fields, value = .object fields

def schemaOf? (entry : Value) : Option Value := (entry.get? "schema").filter Value.isTrue

def successes (entries : List (Key × Value)) : List (Key × Value) :=
  entries.filter fun (status, _) => isSuccess status

def decisive (entries : List (Key × Value)) : List (Key × Value) := (successes entries).getLast?.toList

/-- The entry has a schema, and for this reason the schema has no type in any dialect. -/
def FailsToConvert (document : Value) (failure : Failure) (entry : Value) : Prop :=
  ∃ schema, schemaOf? entry = some schema ∧ ∀ dialect : Dialect, dialect.typeOf document schema = .error failure

/-- A response has types in both dialects or in neither, and a description only if it has no type. -/
structure IsConsistent (response : Response) : Prop where
  typed : response.tsType.isSome = response.flowType.isSome
  described : response.isInlineType = true → response.description = .null

variable {document : Value}

theorem ofEntry_cases {entry : Value} (shaped : IsEntry entry) :
    (∃ schema, schemaOf? entry = some schema ∧ ofEntry document entry = do
      return ⟨some (← Dialect.typescript.typeOf document schema), some (← Dialect.flow.typeOf document schema),
        .null⟩) ∨
    schemaOf? entry = none ∧ ∃ description, ofEntry document entry = .ok ⟨none, none, description⟩ := by
  obtain ⟨fields, object, schema⟩ : ∃ fields, entry.orElse (.object []) = .object fields ∧
      schemaOf? entry = ((Key.text "schema").lookup fields).filter Value.isTrue := by
    rcases shaped with rfl | ⟨fields, rfl⟩
    · exact ⟨[], rfl, rfl⟩
    · cases fields <;> exact ⟨_, rfl, rfl⟩
  unfold ofEntry
  simp only [object, Value.field, Value.field?, Outcome.map_ok, Outcome.ok_bind, schema]
  cases (Key.text "schema").lookup fields with
  | none => exact .inr ⟨rfl, _, rfl⟩
  | some value =>
    by_cases given : value.isTrue = true
    · exact .inl ⟨value, by simp [given], by simp [given]⟩
    · exact .inr ⟨by simp [given], _, by simp [given]; rfl⟩

theorem ofEntry_consistent {entry : Value} (shaped : IsEntry entry) :
    Yields IsConsistent (ofEntry document entry) := by
  rcases ofEntry_cases shaped with ⟨schema, _, read⟩ | ⟨_, description, read⟩ <;> rw [read]
  · exact .bind_any fun tsType _ => .bind_any fun flowType _ => .ok ⟨rfl, fun _ => rfl⟩
  · exact .ok ⟨rfl, nofun⟩

theorem ofEntry_eq_error_iff {entry : Value} (shaped : IsEntry entry) {failure : Failure} :
    ofEntry document entry = .error failure ↔ FailsToConvert document failure entry := by
  unfold FailsToConvert
  have inAll (schema : Value) : (∀ dialect : Dialect, dialect.typeOf document schema = .error failure) ↔
      Dialect.typescript.typeOf document schema = .error failure :=
    ⟨fun fails => fails .typescript, fun fails dialect => (dialect.typeOf_eq_error_iff .typescript).mpr fails⟩
  simp only [inAll]
  rcases @ofEntry_cases document entry shaped with ⟨schema, given, read⟩ | ⟨missing, description, read⟩
  · rw [read, given]
    simp only [Option.some.injEq, exists_eq_left', Outcome.bind_eq_error]
    -- Flow is asked only for a type that TypeScript has, and then Flow has it too.
    refine or_iff_left ?_
    rintro ⟨tsType, typescript, flow | ⟨_, _, impossible⟩⟩
    · rw [(Dialect.typeOf_eq_error_iff .flow .typescript).mp flow] at typescript
      cases typescript
    · cases impossible
  · simp [read, missing]

theorem exists_ofEntry_iff {entry : Value} (shaped : IsEntry entry) :
    (∃ response, ofEntry document entry = .ok response) ↔ ∀ reason, ¬ FailsToConvert document reason entry := by
  simp only [← ofEntry_eq_error_iff shaped]
  cases ofEntry document entry <;> simp

theorem ofEntries_eq (entries : List (Key × Value)) :
    ofEntries document entries = do
      return (← (successes entries).mapM fun entry => ofEntry document entry.2).getLastD unknown := by
  unfold ofEntries
  generalize unknown = start
  induction entries generalizing start with
  | nil => rfl
  | cons entry rest ih =>
    obtain ⟨status, value⟩ := entry
    rw [List.foldlM_cons, successes, List.filter_cons]
    by_cases success : isSuccess status = true
    · simp only [success, if_true, List.mapM_cons, bind_assoc, Outcome.pure_eq, Outcome.ok_bind, List.getLastD_cons]
      exact congrArg _ (funext ih)
    · simp only [success]
      exact ih start

theorem ofOperation_eq {operation : Value} {entries : List (Key × Value)}
    (responses : operation.field "responses" = .ok (.object entries)) :
    ofOperation document operation = ofEntries document entries := by
  unfold ofOperation
  rw [responses]
  cases entries <;> rfl

theorem successes_decisive (entries : List (Key × Value)) : successes (decisive entries) = decisive entries := by
  refine List.filter_eq_self.mpr fun entry among => ?_
  exact (List.mem_filter.mp (List.mem_of_getLast? (Option.mem_toList.mp among))).2

theorem ofEntries_decisive {entries : List (Key × Value)} {response : Response}
    (read : ofEntries document entries = .ok response) : ofEntries document (decisive entries) = .ok response := by
  rw [ofEntries_eq] at read ⊢
  rw [successes_decisive, decisive]
  obtain ⟨readings, done, same⟩ := Outcome.bind_eq_ok.mp read
  cases same
  rcases List.eq_nil_or_concat' (successes entries) with none | ⟨before, last, whole⟩
  · rw [none] at done ⊢
    cases done
    rfl
  · rw [whole] at done ⊢
    simp only [List.mapM_append, List.mapM_cons, List.mapM_nil, Outcome.bind_eq_ok, Outcome.pure_eq,
      Except.ok.injEq] at done
    obtain ⟨earlier, _, single, ⟨reading, here, _, rfl, rfl⟩, rfl⟩ := done
    simp [here]

theorem ofEntries_consistent {entries : List (Key × Value)} (shaped : ∀ entry ∈ entries, IsEntry entry.2) :
    Yields IsConsistent (ofEntries document entries) := by
  refine Yields.foldlM ⟨rfl, nofun⟩ fun response consistent entry among => ?_
  dsimp only
  split
  · exact ofEntry_consistent (shaped entry among)
  · exact .ok consistent

theorem ofEntries_eq_error_iff {entries : List (Key × Value)} (shaped : ∀ entry ∈ entries, IsEntry entry.2)
    {failure : Failure} :
    ofEntries document entries = .error failure ↔
      ∃ before entry after, successes entries = before ++ entry :: after ∧
        (∀ earlier ∈ before, ∀ reason, ¬ FailsToConvert document reason earlier.2) ∧
        FailsToConvert document failure entry.2 := by
  have shapedSuccess : ∀ entry ∈ successes entries, IsEntry entry.2 :=
    fun entry among => shaped entry (List.mem_filter.mp among).1
  have failing : ofEntries document entries = .error failure ↔
      FirstFails (fun entry => ofEntry document entry.2) (successes entries) failure := by
    rw [ofEntries_eq, Outcome.bind_eq_error, Outcome.mapM_eq_error_iff]
    exact or_iff_left (by simp)
  rw [failing, FirstFails]
  refine exists_congr fun before => exists_congr fun entry => exists_congr fun after => and_congr_right fun whole => ?_
  rw [whole, List.forall_mem_append, List.forall_mem_cons] at shapedSuccess
  obtain ⟨shapedBefore, shapedHere, _⟩ := shapedSuccess
  rw [ofEntry_eq_error_iff shapedHere]
  exact and_congr_left fun _ => forall₂_congr fun earlier among => exists_ofEntry_iff (shapedBefore earlier among)

/-- When the response of an operation can be told, the last entry of success says what it is, and without one nothing
is said. It cannot be told exactly if the schema of some entry of success has no type, be the entry replaced by a later
one or not, and the first such entry is the reason. -/
theorem ofOperation_decided {operation : Value} {entries : List (Key × Value)}
    (responses : operation.field "responses" = .ok (.object entries))
    (shaped : ∀ entry ∈ entries, IsEntry entry.2) :
    (∀ response, ofOperation document operation = .ok response →
      (∀ alone : Value, alone.field "responses" = .ok (.object (decisive entries)) →
        ofOperation document alone = .ok response) ∧
      (successes entries = [] → response = unknown) ∧ IsConsistent response) ∧
    ∀ failure, ofOperation document operation = .error failure ↔
      ∃ before entry after, successes entries = before ++ entry :: after ∧
        (∀ earlier ∈ before, ∀ reason, ¬ FailsToConvert document reason earlier.2) ∧
        FailsToConvert document failure entry.2 := by
  rw [ofOperation_eq responses]
  refine ⟨fun response read => ⟨fun alone kept => ?_, fun none => ?_, ofEntries_consistent shaped response read⟩,
    fun failure => ofEntries_eq_error_iff shaped⟩
  · rw [ofOperation_eq kept]
    exact ofEntries_decisive read
  · rw [ofEntries_eq, none] at read
    cases read
    rfl

/-! ## A type and a description, of which one replaces the other -/

def respondingWith (entries : List (Key × Value)) : Value := .object [(.text "responses", .object entries)]

def composedOfNothing : Value :=
  .object [(.text "allOf", .list [.object [(.text "$ref", .text "#/definitions/None")]])]

/-- The last entry of success, whose status is a number, has no schema, and the one that cannot be converted is none of
success. -/
def replacedType : List (Key × Value) := [
  (.text "200", .object [(.text "schema", .object [(.text "type", .text "string")])]),
  (.int 204, .object [(.text "description", .text "Done")]),
  (.text "404", .object [(.text "schema", composedOfNothing)])]

def replacedDescription : List (Key × Value) := [
  (.int 204, .object [(.text "description", .text "Done")]),
  (.text "200", .object [(.text "schema", .object [(.text "type", .text "string")])])]

def replacedFailure : List (Key × Value) :=
  [(.text "200", .object [(.text "schema", composedOfNothing)]), (.text "2XX", .null)]

def unresolved? : Except Failure TypeExpr → Option String
  | .error (.unresolved path) => some path
  | _ => none

theorem eq_of_unresolved? {x : Except Failure TypeExpr} {path : String} (found : unresolved? x = some path) :
    x = .error (.unresolved path) := by
  unfold unresolved? at found
  split at found <;> cases found
  rfl

theorem ofOperation_decided_replaced :
    (∃ response, ofOperation (.object []) (respondingWith replacedType) = .ok response ∧
      ofOperation (.object []) (respondingWith [(.int 204, .object [(.text "description", .text "Done")])]) =
        .ok response ∧ IsConsistent response) ∧
    (∃ response, ofOperation (.object []) (respondingWith replacedDescription) = .ok response ∧
      response.tsType.map TypeExpr.text = some "string" ∧ IsConsistent response) ∧
    ofOperation (.object []) (respondingWith replacedFailure) = .error (.unresolved "#/definitions/None") := by
  have statuses : isSuccess (.text "200") = true ∧ isSuccess (.int 204) = true ∧ isSuccess (.text "404") = false ∧
      isSuccess (.text "2XX") = true := by decide +kernel
  refine ⟨?_, ?_, ?_⟩
  · have evaluated : (ofOperation (.object []) (respondingWith replacedType)).toOption.map isInlineType =
        some false := by decide +kernel
    obtain ⟨response, read, _⟩ := Outcome.eq_ok_of_toOption_map evaluated
    have last : decisive replacedType = [(.int 204, .object [(.text "description", .text "Done")])] := by
      simp [decisive, successes, replacedType, statuses]
    obtain ⟨decided, _⟩ := @ofOperation_decided (.object []) (respondingWith replacedType) replacedType rfl
      (by simp [replacedType, IsEntry])
    obtain ⟨alone, _, consistent⟩ := decided response read
    exact ⟨response, read, alone _ (last ▸ rfl), consistent⟩
  · have evaluated : (ofOperation (.object []) (respondingWith replacedDescription)).toOption.map
        (fun response => response.tsType.map TypeExpr.text) = some (some "string") := by decide +kernel
    obtain ⟨response, read, typed⟩ := Outcome.eq_ok_of_toOption_map evaluated
    obtain ⟨decided, _⟩ := @ofOperation_decided (.object []) (respondingWith replacedDescription) replacedDescription
      rfl (by simp [replacedDescription, IsEntry])
    obtain ⟨_, _, consistent⟩ := decided response read
    exact ⟨response, read, typed, consistent⟩
  · obtain ⟨_, fails⟩ := @ofOperation_decided (.object []) (respondingWith replacedFailure) replacedFailure rfl
      (by simp [replacedFailure, IsEntry])
    refine (fails _).mpr ⟨[], (.text "200", .object [(.text "schema", composedOfNothing)]), [(.text "2XX", .null)], ?_,
      nofun, composedOfNothing, rfl, fun dialect => ?_⟩
    · simp [successes, replacedFailure, statuses]
    · refine eq_of_unresolved? ?_
      cases dialect <;> decide +kernel

end ClientGen.Response
