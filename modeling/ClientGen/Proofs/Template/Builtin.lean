import ClientGen.Generation.Templates
import ClientGen.Proofs.Template.Shape

/-! What the built-in templates are made of: a class around the loop over its methods, a method that knows nothing
of the others, and a type. The texts that have to do with authorisation stand in branches of their own. -/

set_option autoImplicit false

namespace ClientGen.Template

inductive Credential where
  | token
  | apiKey
  | basic

namespace Credential

def field : Credential → String
  | .token => "token"
  | .apiKey => "apiKey"
  | .basic => "basic"

def flag : Credential → String
  | .token => "is_secure_token"
  | .apiKey => "is_secure_api_key"
  | .basic => "is_secure_basic"

def use (credential : Credential) : List Char := "this.".toList ++ credential.field.toList

def start (credential : Credential) : List Char :=
  credential.use ++ " = options.".toList ++ credential.field.toList ++ " || \x7b\x7d;".toList

def all : List Credential := [.token, .apiKey, .basic]

theorem mem_all (credential : Credential) : credential ∈ all := by
  cases credential <;> simp [all]

theorem use_infix_start (credential : Credential) : credential.use <:+: credential.start :=
  (((List.prefix_append _ _).trans (List.prefix_append _ _)).trans (List.prefix_append _ _)).isInfix

end Credential

def helperCall : List Char := "this.setAuthHeaders(headers, queryParameters);".toList

def helperDeclaration : List Char := " setAuthHeaders(headers".toList

def Expr.isVar (name : String) : Expr → Bool
  | .var s => s == name
  | _ => false

theorem Expr.eval_of_isVar {name : String} {e : Expr} (isVar : e.isVar name = true) (env : Env) :
    e.eval env = .ok (env.get name) := by
  cases e with
  | var s =>
    obtain rfl := beq_iff_eq.mp isVar
    rfl
  | _ => cases isVar

def securedMethod : Expr := .both (.member (.var "method") "is_secure") (.var "is_secure")

def Expr.isSecuredMethod : Expr → Bool
  | .both (.member (.var variableName) field) (.var flag) =>
    variableName == "method" && field == "is_secure" && flag == "is_secure"
  | _ => false

theorem Expr.eq_securedMethod {e : Expr} (asks : e.isSecuredMethod = true) : e = securedMethod := by
  unfold isSecuredMethod at asks
  split at asks
  · simp only [Bool.and_eq_true, beq_iff_eq] at asks
    obtain ⟨⟨rfl, rfl⟩, rfl⟩ := asks
    rfl
  · cases asks

def otherThanMethods : Names := fun name => name != "methods"

def methodNames : Names := fun name => ["method", "class_name", "is_secure"].contains name

/-- Texts that stand outside of methods only. -/
def outsideMethods : List (List Char) := helperDeclaration :: Credential.all.map Credential.use

theorem Credential.use_mem_outsideMethods (credential : Credential) : credential.use ∈ outsideMethods :=
  List.mem_cons_of_mem _ (List.mem_map_of_mem credential.mem_all)

/-- Nodes around the methods of a class, which take no notice of them. -/
@[mk_iff]
structure IsClass (before after : List Node) : Prop where
  keep : nodesKeepNames before = true
  before_within : nodesWithin ["type"] otherThanMethods before = true
  after_within : nodesWithin [] otherThanMethods after = true
  declaration : GuardedBy (Expr.isVar "is_secure") ["type"] helperDeclaration helperDeclaration before
  credentials : ∀ credential ∈ Credential.all,
    GuardedBy (Expr.isVar credential.flag) ["type"] credential.use credential.start before
  before_hides : nodesHide helperCall ["type"] none before = true
  after_hides : ∀ text ∈ helperCall :: outsideMethods, nodesHide text [] none after = true

@[mk_iff]
structure IsMethod (nodes : List Node) : Prop where
  keep : nodesKeepNames nodes = true
  within : nodesWithin [] methodNames nodes = true
  call : GuardedBy Expr.isSecuredMethod [] helperCall helperCall nodes
  hides : ∀ text ∈ outsideMethods, nodesHide text [] none nodes = true

@[mk_iff]
structure IsType (nodes : List Node) : Prop where
  within : nodesWithin [] otherThanMethods nodes = true
  hides : ∀ text ∈ helperCall :: outsideMethods, nodesHide text [] none nodes = true

instance (isGuarded : Expr → Bool) (included : List String) (hidden shown : List Char) (nodes : List Node) :
    Decidable (GuardedBy isGuarded included hidden shown nodes) :=
  decidable_of_iff _ (guardedBy_iff ..).symm

instance (before after : List Node) : Decidable (IsClass before after) :=
  decidable_of_iff _ (isClass_iff ..).symm

instance (nodes : List Node) : Decidable (IsMethod nodes) := decidable_of_iff _ (isMethod_iff nodes).symm

instance (nodes : List Node) : Decidable (IsType nodes) := decidable_of_iff _ (isType_iff nodes).symm

def isClass (nodes : List Node) : Bool :=
  (aroundMethods? nodes).any fun (before, after) => decide (IsClass before after)

theorem eq_of_isClass {nodes : List Node} (holds : isClass nodes = true) :
    ∃ before after, nodes = before ++ methodsLoop :: after ∧ IsClass before after := by
  unfold isClass at holds
  cases found : aroundMethods? nodes with
  | none =>
    rw [found] at holds
    cases holds
  | some around =>
    rw [found] at holds
    exact ⟨around.1, around.2, eq_of_aroundMethods? found, of_decide_eq_true holds⟩

/-! ## Reading the templates -/

abbrev Spells : List (List Char) → List String → Prop := List.Forall₂ fun chars line => String.ofList chars = line

theorem toList_ofLines {spelling : List (List Char)} {lines : List String} (spells : Spells spelling lines) :
    (Builtin.ofLines lines).toList = spelling.flatMap (· ++ ['\n']) := by
  unfold Builtin.ofLines
  induction spells with
  | nil => rfl
  | cons same _ ih =>
    rw [List.map_cons, String.join_cons, String.toList_append, String.toList_append, ih, ← same,
      String.toList_ofList, List.flatMap_cons]
    rfl

theorem exists_nodes_of_spells {lines : List String} {spelling : List (List Char)} {check : List Node → Bool}
    (spells : Spells spelling lines)
    (checked : (read (spelling.flatMap (· ++ ['\n']))).toOption.any check = true) :
    ∃ nodes, ofSource (.text (Builtin.ofLines lines)) = .ok nodes ∧ check nodes = true := by
  cases came : read (spelling.flatMap (· ++ ['\n'])) with
  | error failure =>
    rw [came] at checked
    cases checked
  | ok nodes =>
    rw [came] at checked
    refine ⟨nodes, ?_, checked⟩
    rw [ofSource, toList_ofLines spells, came]

section
set_option maxRecDepth 1000000

theorem builtin_areClasses : ∀ text ∈ [Builtin.javascriptClass, Builtin.typescriptClass, Builtin.flowClass],
    ∃ nodes, ofSource (.text text) = .ok nodes ∧ isClass nodes = true := by
  simp only [List.forall_mem_cons, List.not_mem_nil, false_imp_iff, implies_true, and_true]
  refine ⟨?_, ?_, ?_⟩
  all_goals
    apply exists_nodes_of_spells
    · repeat (apply List.Forall₂.cons; rfl)
      exact .nil
    · decide +kernel

theorem builtin_areMethods : ∀ text ∈ [Builtin.method, Builtin.typescriptMethod, Builtin.flowMethod],
    ∃ nodes, ofSource (.text text) = .ok nodes ∧ (decide <| IsMethod ·) nodes = true := by
  simp only [List.forall_mem_cons, List.not_mem_nil, false_imp_iff, implies_true, and_true]
  refine ⟨?_, ?_, ?_⟩
  all_goals
    apply exists_nodes_of_spells
    · repeat (apply List.Forall₂.cons; rfl)
      exact .nil
    · decide +kernel

theorem builtin_areTypes : ∀ text ∈ [Builtin.type, Builtin.flowType],
    ∃ nodes, ofSource (.text text) = .ok nodes ∧ (decide <| IsType ·) nodes = true := by
  simp only [List.forall_mem_cons, List.not_mem_nil, false_imp_iff, implies_true, and_true]
  refine ⟨?_, ?_⟩
  all_goals
    apply exists_nodes_of_spells
    · repeat (apply List.Forall₂.cons; rfl)
      exact .nil
    · decide +kernel

end

end ClientGen.Template
