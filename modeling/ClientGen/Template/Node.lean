import ClientGen.Document.Value

/-! Templates: text with expressions to be printed and statements that choose, repeat, name and include. -/

set_option autoImplicit false

namespace ClientGen.Template

inductive Expr where
  | literal (v : Value)
  | var (s : String)
  | member (e : Expr) (name : String)
  | item (e index : Expr)
  | filter (e : Expr) (name : String)
  | either (a b : Expr)
  | both (a b : Expr)
  | negation (e : Expr)
  | joined (a b : Expr)
  deriving Repr, Inhabited

inductive Node where
  | text (s : List Char)
  | output (e : Expr)
  /-- The nodes of the first branch whose test is true, or else the others. -/
  | choice (branches : List (Expr × List Node)) (otherwise : List Node)
  /-- The body for each element that passes the test, or the others when there is none. -/
  | loop (variableName : String) (elements : Expr) (test : Option Expr) (body otherwise : List Node)
  | assign (variableName : String) (e : Expr)
  /-- Another template in place, which may be missing if so said. -/
  | inclusion (template : Expr) (mayBeMissing : Bool)
  deriving Repr, Inhabited

def filterNames : List String := ["tojson", "length", "count"]

def Expr.filtersExist : Expr → Bool
  | .literal _ | .var _ => true
  | .member e _ | .negation e => e.filtersExist
  | .filter e which => filterNames.contains which && e.filtersExist
  | .item a b | .either a b | .both a b | .joined a b => a.filtersExist && b.filtersExist

mutual

/-- Whether all filters exist that are looked up before the template runs: those outside of choices. A loop
within a choice is looked through again. -/
def Node.filtersExist (withinChoice : Bool) : Node → Bool
  | .text _ => true
  | .output e | .assign _ e | .inclusion e _ => withinChoice || e.filtersExist
  | .choice branches otherwise => branchFiltersExist branches && nodeFiltersExist true otherwise
  | .loop _ elements test body otherwise =>
    (withinChoice || elements.filtersExist) && test.all Expr.filtersExist &&
      nodeFiltersExist false body && nodeFiltersExist false otherwise

def branchFiltersExist : List (Expr × List Node) → Bool
  | [] => true
  | (_, nodes) :: rest => nodeFiltersExist true nodes && branchFiltersExist rest

def nodeFiltersExist (withinChoice : Bool) : List Node → Bool
  | [] => true
  | node :: rest => node.filtersExist withinChoice && nodeFiltersExist withinChoice rest

end

end ClientGen.Template
