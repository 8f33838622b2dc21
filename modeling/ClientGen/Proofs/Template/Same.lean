import ClientGen.Proofs.Template.Shape

/-! Parts that templates have in common. -/

set_option autoImplicit false

namespace ClientGen.Template

def Expr.same : Expr → Expr → Bool
  | .literal (.text s), .literal (.text t) => s == t
  | .var s, .var t => s == t
  | .member e name, .member f other => e.same f && name == other
  | .item e index, .item f other => e.same f && index.same other
  | .filter e name, .filter f other => e.same f && name == other
  | .either a b, .either c d => a.same c && b.same d
  | .both a b, .both c d => a.same c && b.same d
  | .negation e, .negation f => e.same f
  | .joined a b, .joined c d => a.same c && b.same d
  | _, _ => false

mutual

def Node.same : Node → Node → Bool
  | .text s, .text t => s == t
  | .output e, .output f => e.same f
  | .choice branches otherwise, .choice others rest => branchesSame branches others && nodesSame otherwise rest
  | .loop variableName elements none body otherwise, .loop other all none nodes rest =>
    variableName == other && elements.same all && nodesSame body nodes && nodesSame otherwise rest
  | .assign variableName e, .assign other f => variableName == other && e.same f
  | _, _ => false

def branchesSame : List (Expr × List Node) → List (Expr × List Node) → Bool
  | [], [] => true
  | (test, nodes) :: rest, (other, alike) :: others =>
    test.same other && nodesSame nodes alike && branchesSame rest others
  | _, _ => false

def nodesSame : List Node → List Node → Bool
  | [], [] => true
  | node :: rest, other :: others => node.same other && nodesSame rest others
  | _, _ => false

end

theorem Expr.eq_of_same {e f : Expr} (same : e.same f = true) : e = f := by
  fun_induction Expr.same e f <;> simp_all

mutual

theorem Node.eq_of_same {node other : Node} (same : node.same other = true) : node = other := by
  unfold Node.same at same
  split at same
  · rw [beq_iff_eq.mp same]
  · rw [Expr.eq_of_same same]
  · simp only [Bool.and_eq_true] at same
    rw [eq_of_branchesSame same.1, eq_of_nodesSame same.2]
  · simp only [Bool.and_eq_true, beq_iff_eq] at same
    obtain ⟨⟨⟨rfl, elements⟩, body⟩, otherwise⟩ := same
    rw [Expr.eq_of_same elements, eq_of_nodesSame body, eq_of_nodesSame otherwise]
  · simp only [Bool.and_eq_true, beq_iff_eq] at same
    rw [same.1, Expr.eq_of_same same.2]
  · cases same

theorem eq_of_branchesSame {branches others : List (Expr × List Node)} (same : branchesSame branches others = true) :
    branches = others := by
  unfold branchesSame at same
  split at same
  · rfl
  · simp only [Bool.and_eq_true] at same
    rw [Expr.eq_of_same same.1.1, eq_of_nodesSame same.1.2, eq_of_branchesSame same.2]
  · cases same

theorem eq_of_nodesSame {nodes others : List Node} (same : nodesSame nodes others = true) : nodes = others := by
  unfold nodesSame at same
  split at same
  · rfl
  · simp only [Bool.and_eq_true] at same
    rw [Node.eq_of_same same.1, eq_of_nodesSame same.2]
  · cases same

end

def after? : List Node → List Node → Option (List Node)
  | [], nodes => some nodes
  | first :: others, node :: rest => if first.same node then after? others rest else none
  | _ :: _, [] => none

theorem eq_of_after? {first nodes rest : List Node} (found : after? first nodes = some rest) :
    nodes = first ++ rest := by
  fun_induction after? first nodes with
  | case1 nodes =>
    cases found
    rfl
  | case2 first others node rest same ih => rw [ih found, Node.eq_of_same same, List.cons_append]
  | case3 => cases found
  | case4 => cases found

/-- The nodes before and after the first place where these nodes stand. -/
def around? (part : List Node) : List Node → Option (List Node × List Node)
  | [] => none
  | node :: rest =>
    match after? part (node :: rest) with
    | some after => some ([], after)
    | none => (around? part rest).map fun (before, after) => (node :: before, after)

theorem eq_of_around? {part nodes before after : List Node} (found : around? part nodes = some (before, after)) :
    nodes = before ++ part ++ after := by
  induction nodes generalizing before with
  | nil => cases found
  | cons node rest ih =>
    unfold around? at found
    split at found
    case h_1 _ here =>
      cases found
      exact eq_of_after? here
    case h_2 =>
      obtain ⟨⟨earlier, _⟩, found, same⟩ := Option.map_eq_some_iff.mp found
      cases same
      rw [ih found]
      rfl

end ClientGen.Template
