import ClientGen.Proofs.Client.Agreement
import ClientGen.Proofs.Client.Assembly
import ClientGen.Proofs.Client.Extension
import ClientGen.Proofs.Outcome

/-! Which entries of a path count. Two tests that disregard letter case pick out its operations and its shared
parameters, and no key passes both. All other entries can be left out, and the shared parameters can stand
anywhere among the operations. -/

set_option autoImplicit false

namespace ClientGen

namespace View

theorem length_of_supported {verb : String} (supported : verb ∈ supportedVerbs) : verb.length < 10 := by
  have each : ∀ verb ∈ supportedVerbs, verb.length < 10 := by decide
  exact each verb supported

theorem lower_ne_parameters {key : String} (supported : Text.upper key ∈ supportedVerbs) :
    Text.lower key ≠ "parameters" := by
  -- A key whose lower case is the word for shared parameters has ten letters, upper case keeps at least as many,
  -- and all verbs are shorter.
  intro shared
  have short := length_of_supported supported
  have long := Text.length_le_length_upper key
  have same : (Text.lower key).length = key.length := Text.length_lower (by rw [shared]; decide)
  rw [shared] at same
  have : "parameters".length = 10 := by decide
  omega

def requestAt (path : Key) : Key × Value → Option (Key × String)
  | (.text key, _) => if Text.upper key ∈ supportedVerbs then some (path, Text.upper key) else none
  | _ => none

/-- The paths and verbs that the entries of a path ask for, in order. -/
def requestsOf (path : Key × Value) : List (Key × String) :=
  match path.2 with
  | .object entries => entries.filterMap (requestAt path.1)
  | _ => []

def operationRequest? (operation : Operation) : Option (Key × String) :=
  operation.verbWord.toOption.map fun verb => (operation.path, verb)

theorem requests_of_made {document : Value} {className : Option String} {operations : List Operation}
    {methods : List Method}
    (made : List.Forall₂ (fun operation method =>
      operation.method document method.name className = .ok method) operations methods) :
    methods.map (fun method => (method.path, method.verb)) = operations.filterMap operationRequest? := by
  induction made with
  | nil => rfl
  | @cons operation method _ _ first _ ih =>
    obtain ⟨path, spoken, _⟩ := Operation.method_parts first
    have request : operationRequest? operation = some (method.path, method.verb) := by
      rw [operationRequest?, spoken, path]
      rfl
    rw [List.map_cons, ih, List.filterMap_cons_some request]

theorem requestAt_eq (shared : Value) (key : Key) (entry : Key × Value) :
    requestAt key entry =
      if isSupported entry.1 then operationRequest? ⟨key, entry.1, entry.2, shared⟩ else none := by
  obtain ⟨verb, details⟩ := entry
  cases verb with
  | text verb => by_cases among : Text.upper verb ∈ supportedVerbs <;>
      simp [requestAt, isSupported, operationRequest?, Operation.verbWord, among, Except.toOption]
  | _ => rfl

theorem requests_operationsOf {path : Key × Value} {operations : List Operation}
    (read : operationsOf path.1 path.2 = .ok operations) :
    operations.filterMap operationRequest? = requestsOf path := by
  obtain ⟨key, item⟩ := path
  simp only [operationsOf, Outcome.bind_eq_ok] at read
  obtain ⟨entries, listed, shared, _, same⟩ := read
  cases same
  cases item with
  | object all =>
    cases listed
    rw [List.filterMap_map, List.filterMap_filter]
    exact List.filterMap_congr fun entry _ => (requestAt_eq shared key entry).symm
  | _ => cases listed

theorem requests_operationsIn {paths : List (Key × Value)} {operations : List Operation}
    (read : operationsIn paths = .ok operations) :
    operations.filterMap operationRequest? = paths.flatMap requestsOf := by
  induction paths generalizing operations with
  | nil => cases read; rfl
  | cons path rest ih =>
    obtain ⟨first, others, readFirst, readOthers, rfl⟩ := operationsIn_cons_eq_ok.mp read
    rw [List.filterMap_append, requests_operationsOf readFirst, ih readOthers, List.flatMap_cons]

def isShared : Key → Bool
  | .text key => Text.lower key = "parameters"
  | _ => false

/-- Entries under text keys that hold the same operations in the same order, and the same shared parameters in
the same order. How the ones stand among the others, and what else there is, does not matter. -/
structure SameUse (first second : List (Key × Value)) : Prop where
  firstTexts : ∀ entry ∈ first, ∃ key, entry.1 = .text key
  secondTexts : ∀ entry ∈ second, ∃ key, entry.1 = .text key
  operations : (first.filter fun (key, _) => isSupported key) = second.filter fun (key, _) => isSupported key
  shared : (first.filter fun (key, _) => isShared key) = second.filter fun (key, _) => isShared key

/-- Equal paths, or two whose entries are used in the same way. -/
inductive SamePath : Key × Value → Key × Value → Prop where
  | same (path : Key × Value) : SamePath path path
  | entries (key : Key) {first second : List (Key × Value)} : SameUse first second →
      SamePath (key, .object first) (key, .object second)

def sharedAt (entry : Key × Value) : Value := entry.2.orElse (.list [])

/-- What the operations of a path share: the parameters at the last entry that shares any. -/
def lastShared (entries : List (Key × Value)) : Value :=
  ((entries.filter fun (key, _) => isShared key).getLast?.map sharedAt).getD (.list [])

theorem foldlM_shareEntry_eq {entries : List (Key × Value)}
    (texts : ∀ entry ∈ entries, ∃ key, entry.1 = .text key) (shared : Value) :
    entries.foldlM shareEntry shared =
      .ok (((entries.filter fun (key, _) => isShared key).getLast?.map sharedAt).getD shared) := by
  induction entries generalizing shared with
  | nil => rfl
  | cons entry rest ih =>
    obtain ⟨key, value⟩ := entry
    obtain ⟨word, same⟩ := texts _ (List.mem_cons_self ..)
    obtain rfl : key = .text word := same
    rw [List.foldlM_cons, shareEntry, Outcome.ok_bind,
      ih fun entry member => texts entry (List.mem_cons_of_mem _ member), List.filter_cons]
    by_cases here : Text.lower word = "parameters"
    · have shares : isShared (.text word) = true := decide_eq_true here
      rw [if_pos here, if_pos shares, List.getLast?_cons]
      cases (rest.filter fun (key, _) => isShared key).getLast? <;> rfl
    · have silent : ¬ isShared (.text word) = true := fun shares => here (of_decide_eq_true shares)
      rw [if_neg here, if_neg silent]

theorem operationsOf_object {entries : List (Key × Value)} (texts : ∀ entry ∈ entries, ∃ key, entry.1 = .text key)
    (path : Key) : operationsOf path (.object entries) =
      .ok ((entries.filter fun (key, _) => isSupported key).map fun (verb, details) =>
        ⟨path, verb, details, lastShared entries⟩) := by
  rw [operationsOf, Value.entries, Outcome.ok_bind, sharedParameters, foldlM_shareEntry_eq texts]
  rfl

theorem SameUse.operationsOf_eq {first second : List (Key × Value)} (same : SameUse first second)
    (path : Key) : operationsOf path (.object first) = operationsOf path (.object second) := by
  rw [operationsOf_object same.firstTexts, operationsOf_object same.secondTexts, lastShared, lastShared, same.operations,
    same.shared]

end View

namespace Assembly

variable {first second : Value}

theorem addOrFail_congr (agree : first.AgreeOutside ["paths"] second) :
    addOrFail first = addOrFail second := by
  funext className assembly operation
  simp only [addOrFail, add, Operation.method_congr agree]

theorem addPath_congr (agree : first.AgreeOutside ["paths"] second) {path other : Key × Value}
    (same : View.SamePath path other) (className : Option String) (assembly : Assembly) :
    addPath first className assembly path = addPath second className assembly other := by
  cases same with
  | same => rw [addPath, addPath, addOrFail_congr agree]
  | entries key use => rw [addPath, addPath, addOrFail_congr agree, use.operationsOf_eq]

theorem foldlM_addPath_congr (agree : first.AgreeOutside ["paths"] second) {paths others : List (Key × Value)}
    (same : List.Forall₂ View.SamePath paths others) (className : Option String) (assembly : Assembly) :
    paths.foldlM (addPath first className) assembly = others.foldlM (addPath second className) assembly := by
  induction same generalizing assembly with
  | nil => rfl
  | cons here _ ih =>
    rw [List.foldlM_cons, List.foldlM_cons, addPath_congr agree here]
    exact congrArg _ (funext ih)

end Assembly

namespace View

/-- A view has a method for each entry of a path whose key is a supported verb, whatever the case of its
letters, and no other, in document order. Each is made of its entry and what the last entry that shares parameters has.
No key of an operation names shared parameters; and documents whose paths are used in the same way have the same view,
or fail alike. -/
theorem build_of_entries (document : Value) (target : String) (options : Options) :
    (∀ view, build document target options = .ok view → ∃ paths operations, pathsOf document = .ok paths ∧
      view.methods.map (fun method => (method.path, method.verb)) = paths.flatMap requestsOf ∧
      operationsIn paths = .ok operations ∧
      List.Forall₂ (fun operation method => operation.method document method.name options.className = .ok method)
        operations view.methods) ∧
    (∀ path entries, (∀ entry ∈ entries, ∃ key, entry.1 = .text key) → operationsOf path (.object entries) =
      .ok ((entries.filter fun (key, _) => isSupported key).map fun (verb, details) =>
        ⟨path, verb, details, lastShared entries⟩)) ∧
    (∀ key, Text.upper key ∈ supportedVerbs → Text.lower key ≠ "parameters") ∧
    ∀ other paths others, document.AgreeOutside ["paths"] other → pathsOf document = .ok paths →
      pathsOf other = .ok others → List.Forall₂ SamePath paths others →
      build document target options = build other target options := by
  refine ⟨fun view built => ?_, fun path entries texts => operationsOf_object texts path, fun _ => lower_ne_parameters, ?_⟩
  · obtain ⟨start, paths, operations, final, definitions, headed, listed, read, ran, _, rfl⟩ :=
      build_eq_ok.mp built
    obtain ⟨methods, whole, made⟩ := ran.methods
    rw [header_methods headed, List.nil_append] at whole
    refine ⟨paths, operations, listed, ?_, read, whole ▸ made⟩
    dsimp only
    rw [whole, requests_of_made made, requests_operationsIn read]
  · intro other paths others agree listed otherListed same
    simp only [build, header_congr agree, definitionsFor_congr agree, listed, otherListed, Outcome.ok_bind,
      Assembly.foldlM_addPath_congr agree same]

def queryParameter (name : String) : Value :=
  .list [.object [(.text "name", .text name), (.text "in", .text "query")]]

def scatteredEntries : List (Key × Value) :=
  [(.text "parameters", queryParameter "offset"), (.text "Get", operationCalled "list"), (.text "x-note", .null),
    (.text "propfind", operationCalled "list"), (.text "PARAMETERS", queryParameter "limit")]

def sortedEntries : List (Key × Value) :=
  [(.text "parameters", queryParameter "offset"), (.text "PARAMETERS", queryParameter "limit"),
    (.text "Get", operationCalled "list"), (.text "propfind", operationCalled "list")]

theorem sameUse_scattered : SameUse scatteredEntries sortedEntries := by
  have get : isSupported (.text "Get") = true ∧ isShared (.text "Get") = false := by decide +kernel
  have find : isSupported (.text "propfind") = true ∧ isShared (.text "propfind") = false := by
    decide +kernel
  have note : isSupported (.text "x-note") = false ∧ isShared (.text "x-note") = false := by decide +kernel
  have first : isSupported (.text "parameters") = false ∧ isShared (.text "parameters") = true := by
    decide +kernel
  have second : isSupported (.text "PARAMETERS") = false ∧ isShared (.text "PARAMETERS") = true := by
    decide +kernel
  refine ⟨by simp [scatteredEntries], by simp [sortedEntries], ?_, ?_⟩ <;>
    simp [scatteredEntries, sortedEntries, get, find, note, first, second]

theorem build_of_entries_scattered :
    SamePath (.text "/items", .object scatteredEntries) (.text "/items", .object sortedEntries) ∧
    ∃ view, build (documentOf [(.text "/items", .object scatteredEntries)]) "flow" {} = .ok view ∧
      view.methods.map (fun method => method.parameters.map Parameter.name) = [["limit"], ["limit"]] ∧
      view.methods.map (fun method => (method.path, method.verb)) =
        [(.text "/items", "GET"), (.text "/items", "PROPFIND")] ∧
      build (documentOf [(.text "/items", .object sortedEntries)]) "flow" {} = .ok view := by
  have alike : SamePath (.text "/items", .object scatteredEntries) (.text "/items", .object sortedEntries) :=
    .entries _ sameUse_scattered
  refine ⟨alike, ?_⟩
  have evaluated : (build (documentOf [(.text "/items", .object scatteredEntries)]) "flow" {}).toOption.map
      (fun view => view.methods.map fun method => method.parameters.map Parameter.name) =
        some [["limit"], ["limit"]] := by
    decide +kernel
  obtain ⟨view, built, shared⟩ := Outcome.eq_ok_of_toOption_map evaluated
  obtain ⟨ofView, _, _, sameView⟩ :=
    build_of_entries (documentOf [(.text "/items", .object scatteredEntries)]) "flow" {}
  obtain ⟨paths, _, listed, requests, _⟩ := ofView view built
  cases listed
  refine ⟨view, built, shared, requests.trans (by decide +kernel), ?_⟩
  rw [← built]
  exact (sameView _ _ _ (agree_documentOf _ _) rfl rfl (.cons alike .nil)).symm

end View

end ClientGen
