import ClientGen.Proofs.Client.Extension
import ClientGen.Proofs.Naming.Spelling
import ClientGen.Proofs.Outcome

/-! The keys under which methods take their arguments. A key depends on nothing but the name of its parameter; nothing
keeps the keys of one method apart. -/

set_option autoImplicit false

namespace ClientGen

open Outcome (Yields)

namespace Parameter

/-- What describes the parameter of an entry, in place or among the shared ones, unless it is excluded. -/
def described (document entry : Value) : Except Failure (Option Value) := do
  if ← isExcluded entry then return none
  match ← entry.field "$ref" with
  | .text path =>
    let shared ← resolve document path
    if ← isExcluded shared then return none
    return some shared
  | _ => return some entry

theorem contribution_eq (document entry : Value) :
    contribution document entry = do
      match ← described document entry with
      | none => return none
      | some value => return some (← ofEntry document value) := by
  unfold contribution described
  cases isExcluded entry with
  | error failure => rfl
  | ok hidden =>
    cases hidden with
    | true => rfl
    | false =>
      cases entry.field "$ref" with
      | error failure => rfl
      | ok reference =>
        cases reference with
        | text path =>
          cases found : resolve document path with
          | error failure => simp [found]
          | ok shared =>
            cases excluded : isExcluded shared with
            | error failure => simp [found, excluded]
            | ok hidden => cases hidden <;> simp [found, excluded]
        | _ => rfl

def IsNamedBy (value : Value) (parameter : Parameter) : Prop :=
  value.field? "name" = .ok (some (.text parameter.name)) ∧ parameter.argument = Naming.camelCase parameter.name

theorem ofEntry_named (document value : Value) : Yields (IsNamedBy value) (ofEntry document value) := by
  refine .bind_any fun location _ => .bind_any fun enumerated _ => ?_
  dsimp only
  -- Where the parameter is carried has no part in its key.
  split
  all_goals refine .bind_any fun pattern _ => .bind_any fun declared _ => .bind_any fun given read => ?_
  all_goals
    split
    · exact .error _
    · refine .bind_any fun name same => .bind_any fun required _ => .bind_any fun tsType _ => ?_
      refine .bind_any fun flowType _ => .bind_any fun description _ => .ok ?_
      cases same
      exact ⟨read, rfl⟩
    · exact .error _

theorem ofEntries_named {document : Value} {entries : List Value} {parameters : List Parameter}
    (all : ofEntries document entries = .ok parameters) :
    ∃ values, entries.mapM (described document) = .ok values ∧
      List.Forall₂ IsNamedBy (values.filterMap id) parameters := by
  obtain ⟨contributions, made, same⟩ := Outcome.bind_eq_ok.mp all
  cases same
  clear all
  -- One entry after another, with what each contributes: nothing, or the parameter that its description names.
  induction entries generalizing contributions with
  | nil =>
    cases made
    exact ⟨[], rfl, .nil⟩
  | cons entry rest ih =>
    simp only [List.mapM_cons, Outcome.bind_eq_ok, contribution_eq] at made
    obtain ⟨_, ⟨value, found, made⟩, others, madeRest, same⟩ := made
    cases same
    obtain ⟨values, foundRest, named⟩ := ih others madeRest
    refine ⟨value :: values, by rw [List.mapM_cons, found, foundRest]; rfl, ?_⟩
    cases value with
    | none =>
      cases made
      exact named
    | some value =>
      obtain ⟨parameter, read, same⟩ := Outcome.bind_eq_ok.mp made
      cases same
      exact .cons (ofEntry_named document value parameter read) named

theorem argument_of_named {values : List Value} {parameters : List Parameter}
    (named : List.Forall₂ IsNamedBy values parameters) :
    ∀ p ∈ parameters, p.argument = Naming.camelCase p.name := by
  intro p among
  obtain ⟨_, _, _, key⟩ := Outcome.exists_of_forall₂ named among
  exact key

end Parameter

namespace Naming

theorem camelCase_eq_empty_iff {name : String} : camelCase name = "" ↔ ∀ c ∈ name.toList, isKept c = false := by
  rw [camelCase, String.ofList_eq_empty_iff, camelCaseChars_eq_nil_iff]

theorem camelCase_eq_iff {name other : String} :
    camelCase name = camelCase other ↔ spelling name.toList = spelling other.toList := by
  rw [camelCase, camelCase, String.ofList_inj, camelCaseChars_eq_iff]

theorem lettersOf_of_camelCase {name other : String} (same : camelCase name = camelCase other) :
    lettersOf name.toList = lettersOf other.toList := by
  rw [← spelling_letters, ← spelling_letters, camelCase_eq_iff.mp same]

end Naming

namespace Operation

theorem method_parameters {document : Value} {operation : Operation} {name : String} {className : Option String}
    {method : Method} (made : operation.method document name className = .ok method) :
    ∃ own entries values, operation.details.field "parameters" = .ok own ∧
      Parameter.listed own operation.sharedParameters = .ok entries ∧
      entries.mapM (Parameter.described document) = .ok values ∧
      List.Forall₂ Parameter.IsNamedBy (values.filterMap id) method.parameters := by
  simp only [Operation.method, Outcome.bind_eq_ok] at made
  obtain ⟨_, _, _, _, _, _, _, _, _, _, own, given, parameters, parsed, _, _, _, _, same⟩ := made
  cases same
  obtain ⟨entries, listed, made⟩ := Outcome.bind_eq_ok.mp parsed
  obtain ⟨values, described, named⟩ := Parameter.ofEntries_named made
  exact ⟨own, entries, values, given, listed, described, named⟩

end Operation

namespace View

variable {document : Value} {target : String} {options : Options} {view : View}

theorem exists_operation (built : build document target options = .ok view) {method : Method}
    (among : method ∈ view.methods) : ∃ paths operations operation, pathsOf document = .ok paths ∧
      operationsIn paths = .ok operations ∧ operation ∈ operations ∧
      operation.method document method.name options.className = .ok method := by
  obtain ⟨start, paths, operations, final, definitions, headed, listed, read, ran, _, rfl⟩ := build_eq_ok.mp built
  obtain ⟨methods, whole, made⟩ := ran.methods
  rw [header_methods headed, List.nil_append] at whole
  obtain ⟨operation, member, made⟩ := Outcome.exists_of_forall₂ made (whole ▸ among)
  exact ⟨paths, operations, operation, listed, read, member, made⟩

theorem argument_of_built (built : build document target options = .ok view) {method : Method}
    (among : method ∈ view.methods) : ∀ p ∈ method.parameters, p.argument = Naming.camelCase p.name := by
  obtain ⟨_, _, _, _, _, _, made⟩ := exists_operation built among
  obtain ⟨_, _, _, _, _, _, named⟩ := Operation.method_parameters made
  exact Parameter.argument_of_named named

/-- The parameters of a method are those that the entries of its operation describe, and behind them those of its
path; no two of them are taken as one. The key of each depends on its name only. It is empty exactly if the name has
neither letters nor digits, and two keys are the same exactly if the names have the same letters and digits, whatever
their case, and words after the first begin at the same ones. -/
theorem build_argument_keys (built : build document target options = .ok view) {method : Method}
    (among : method ∈ view.methods) :
    (∃ paths operations operation own entries values, pathsOf document = .ok paths ∧
      operationsIn paths = .ok operations ∧ operation ∈ operations ∧
      operation.path = method.path ∧ operation.verbWord = .ok method.verb ∧
      operation.details.field "parameters" = .ok own ∧
      Parameter.listed own operation.sharedParameters = .ok entries ∧
      entries.mapM (Parameter.described document) = .ok values ∧
      List.Forall₂ Parameter.IsNamedBy (values.filterMap id) method.parameters) ∧
    (∀ p ∈ method.parameters, p.argument = "" ↔ ∀ c ∈ p.name.toList, Naming.isKept c = false) ∧
    (∀ p ∈ method.parameters, ∀ q ∈ method.parameters,
      (p.argument = q.argument ↔ Naming.spelling p.name.toList = Naming.spelling q.name.toList) ∧
      (p.argument = q.argument → Naming.lettersOf p.name.toList = Naming.lettersOf q.name.toList)) ∧
    ((method.parameters.map (·.argument)).Nodup ↔
      (method.parameters.map fun p => Naming.spelling p.name.toList).Nodup) := by
  obtain ⟨paths, operations, operation, listed, read, member, made⟩ := exists_operation built among
  obtain ⟨path, spoken, _⟩ := Operation.method_parts made
  obtain ⟨own, entries, values, given, together, described, named⟩ := Operation.method_parameters made
  have key := argument_of_built built among
  refine ⟨⟨paths, operations, operation, own, entries, values, listed, read, member, path.symm, spoken, given, together,
    described, named⟩, fun p among => ?_, fun p first q second => ?_, ?_⟩
  · rw [key p among, Naming.camelCase_eq_empty_iff]
  · rw [key p first, key q second]
    exact ⟨Naming.camelCase_eq_iff, Naming.lettersOf_of_camelCase⟩
  · rw [List.Nodup, List.Nodup, List.pairwise_map, List.pairwise_map]
    refine List.Pairwise.iff_of_mem fun first second => not_congr ?_
    rw [key _ first, key _ second, Naming.camelCase_eq_iff]

def crowdedPath : Value :=
  let parameter (name location : String) : Value := .object [(.text "name", .text name), (.text "in", .text location)]
  documentOf [(.text "/items/\x7bid\x7d", .object [
    (.text "get", .object [(.text "parameters", .list [parameter "-" "query", parameter "id" "query"])]),
    (.text "parameters", .list [parameter "Id" "path"])])]

theorem build_crowdedPath : ∃ view, build crowdedPath "javascript" {} = .ok view ∧
    view.methods.map (fun method => method.parameters.map (·.name)) = [["-", "id", "Id"]] := by
  have evaluated : (build crowdedPath "javascript" {}).toOption.map
      (fun view => view.methods.map fun method => method.parameters.map (·.name)) = some [["-", "id", "Id"]] := by
    decide +kernel
  exact Outcome.eq_ok_of_toOption_map evaluated

theorem crowded_parameters {view : View} (named : view.methods.map (fun method => method.parameters.map (·.name)) =
    [["-", "id", "Id"]]) : ∃ method p q r, view.methods = [method] ∧ method.parameters = [p, q, r] ∧
      p.name = "-" ∧ q.name = "id" ∧ r.name = "Id" := by
  obtain ⟨method, single, names⟩ := List.map_eq_singleton_iff.mp named
  match parameters : method.parameters with
  | [p, q, r] =>
    simp only [parameters, List.map_cons, List.map_nil, List.cons.injEq, and_true] at names
    exact ⟨method, p, q, r, single, parameters, names⟩
  | [] | [_] | [_, _] | _ :: _ :: _ :: _ :: _ => simp [parameters] at names

/-- Arguments can share a key, and a key can be empty. -/
theorem arguments_share_key : ¬ ∀ (document : Value) (target : String) (options : Options) (view : View),
    build document target options = .ok view → ∀ method ∈ view.methods,
      (∀ p ∈ method.parameters, p.argument ≠ "") ∧ (method.parameters.map (·.argument)).Nodup := by
  intro distinct
  obtain ⟨view, built, named⟩ := build_crowdedPath
  obtain ⟨method, p, q, r, single, parameters, first, second, third⟩ := crowded_parameters named
  have among : method ∈ view.methods := single ▸ List.mem_singleton_self _
  have key := argument_of_built built among
  obtain ⟨_, apart⟩ := distinct _ _ _ _ built method among
  have same : q.argument = r.argument := by
    rw [key q (by simp [parameters]), key r (by simp [parameters]), second, third, Naming.camelCase_eq_iff]
    decide
  simp [parameters, same] at apart

/-- Of three arguments one has no key, and the others share theirs. -/
theorem build_argument_keys_crowded : ∃ view, build crowdedPath "javascript" {} = .ok view ∧
    ∃ method p q r, view.methods = [method] ∧ method.parameters = [p, q, r] ∧
      p.argument = "" ∧ q.argument = r.argument ∧ ¬ (method.parameters.map (·.argument)).Nodup ∧
      p.argument ≠ q.argument := by
  obtain ⟨view, built, named⟩ := build_crowdedPath
  obtain ⟨method, p, q, r, single, parameters, first, second, third⟩ := crowded_parameters named
  obtain ⟨_, empty, alike, distinct⟩ := build_argument_keys built (single ▸ List.mem_singleton_self method)
  have pIn : p ∈ method.parameters := by simp [parameters]
  have qIn : q ∈ method.parameters := by simp [parameters]
  have rIn : r ∈ method.parameters := by simp [parameters]
  refine ⟨view, built, method, p, q, r, single, parameters, (empty p pIn).mpr ?_, (alike q qIn r rIn).1.mpr ?_,
    mt distinct.mp ?_, mt (alike p pIn q qIn).1.mp ?_⟩
  · rw [first]
    intro c among
    obtain rfl : c = '-' := by simpa using among
    decide
  · rw [second, third]
    decide
  · have same : Naming.spelling "id".toList = Naming.spelling "Id".toList := by decide
    simp only [parameters, List.map_cons, second, third, same]
    simp
  · rw [first, second]
    decide

end View

end ClientGen
