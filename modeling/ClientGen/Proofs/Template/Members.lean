import ClientGen.Proofs.Template.Builtin
import ClientGen.Proofs.Template.Gathered

/-! The members that the built-in templates declare, line by line. All of them are declared by the class; methods are
declared under names that are printed. -/

set_option autoImplicit false

namespace ClientGen

namespace Template

/-- The member that a line declares: its name is indented by four blanks, and its arguments or its type follow. -/
def declared? (line : List Char) : Option String :=
  match line with
  | ' ' :: ' ' :: ' ' :: ' ' :: rest =>
    let plain := if "private ".toList.isPrefixOf rest then rest.drop "private ".length else rest
    match plain.dropWhile Char.isAlphanum with
    | '(' :: _ | ':' :: _ =>
      let name := plain.takeWhile Char.isAlphanum
      if name.isEmpty then none else some (String.ofList name)
    | _ => none
  | _ => none

def declared (text : List Char) : List String := (Naming.splitAt '\n' text).filterMap declared?

namespace Credential

def setter : Credential → String
  | .token => "setToken"
  | .apiKey => "setApiKey"
  | .basic => "setBasicAuth"

end Credential

def fieldDeclarations : List (List String × String) :=
  ([], "domain") :: Credential.all.map fun credential => ([credential.flag], credential.field)

def helperDeclarations : List (List String × String) :=
  [([], "constructor"), ([], "request")] ++
    Credential.all.map (fun credential => ([credential.flag], credential.setter)) ++
    [(["is_secure"], "setAuthHeaders")]

def declarations (target : String) : List (List String × String) :=
  if target = "javascript" then helperDeclarations else fieldDeclarations ++ helperDeclarations

/-- The nodes of a class declare these members themselves, and leave the rest to the templates they include. -/
def declares (declarations : List (List String × String)) (nodes : List Node) : Bool :=
  nodesKeepNames nodes && nodesGather declared ["type", "method"] nodes == some declarations

def includedTexts : List String :=
  [Builtin.method, Builtin.typescriptMethod, Builtin.flowMethod, Builtin.type, Builtin.flowType]

section
set_option maxRecDepth 1000000

theorem classes_declare : ∀ builtin ∈ [("javascript", Builtin.javascriptClass),
    ("typescript", Builtin.typescriptClass), ("flow", Builtin.flowClass)],
    ∃ nodes, ofSource (.text builtin.2) = .ok nodes ∧ declares (declarations builtin.1) nodes = true := by
  simp only [List.forall_mem_cons, List.not_mem_nil, false_imp_iff, implies_true, and_true]
  refine ⟨?_, ?_, ?_⟩
  all_goals
    apply exists_nodes_of_spells
    · repeat (apply List.Forall₂.cons; rfl)
      exact .nil
    · decide +kernel

theorem included_declareNothing : ∀ text ∈ includedTexts,
    ∃ nodes, ofSource (.text text) = .ok nodes ∧ nodesLack declared [] nodes = true := by
  simp only [includedTexts, List.forall_mem_cons, List.not_mem_nil, false_imp_iff, implies_true, and_true]
  refine ⟨?_, ?_, ?_, ?_, ?_⟩
  all_goals
    apply exists_nodes_of_spells
    · repeat (apply List.Forall₂.cons; rfl)
      exact .nil
    · decide +kernel

end

end Template

end ClientGen
