import ClientGen.Template.Datum
import ClientGen.Template.Reader

/-! Rendering templates. A name that a loop's body sets is forgotten at the end of its turn, and one that an
included template sets at the end of that template. -/

set_option autoImplicit false

namespace ClientGen.Template

/-- What names stand for, the latest meaning first. -/
abbrev Env := List (String × Datum)

def builtinNames : List String := ["range", "dict", "lipsum", "cycler", "joiner", "namespace"]

def Env.get (env : Env) (name : String) : Datum :=
  (List.lookup name env).getD (if builtinNames.contains name then .operation else .undefined)

def applyFilter (name : String) (d : Datum) : Except Failure Datum :=
  if name = "tojson" then d.json.map .text
  else if name = "length" || name = "count" then d.length.map fun n => .value (.int n)
  else .error (.template .unknownFilterReached)

def Expr.eval (env : Env) : Expr → Except Failure Datum
  | .literal v => .ok (.value v)
  | .var s => .ok (env.get s)
  | .member e name => do (← e.eval env).member name
  | .item e index => do
    let d ← e.eval env
    d.item (← index.eval env)
  | .filter e name => do applyFilter name (← e.eval env)
  | .either a b => do
    let left ← a.eval env
    if left.isTrue then return left else b.eval env
  | .both a b => do
    let left ← a.eval env
    if left.isTrue then b.eval env else return left
  | .negation e => do return .bool !(← e.eval env).isTrue
  | .joined a b => do
    let left ← a.eval env
    return .text (left.shown ++ (← b.eval env).shown)

/-- What a loop's body sees of the loop: where it stands among all its turns. -/
def loopRecord (elements : List Datum) (i : Nat) : Datum :=
  let count := elements.length
  let number (n : Nat) : Datum := .value (.int n)
  .record [
    ("index", number (i + 1)), ("index0", number i), ("first", .bool (i == 0)),
    ("last", .bool (i + 1 == count)), ("length", number count), ("revindex", number (count - i)),
    ("revindex0", number (count - i - 1)), ("depth", number 1), ("depth0", number 0),
    ("previtem", if i = 0 then .undefined else (elements[i - 1]?).getD .undefined),
    ("nextitem", (elements[i + 1]?).getD .undefined)]

def passing (env : Env) (variableName : String) (test : Option Expr) (elements : List Datum) :
    Except Failure (List Datum) :=
  match test with
  | none => .ok elements
  | some test => elements.filterM fun d => do
    return (← test.eval ((variableName, d) :: env)).isTrue

def turns (env : Env) (variableName : String) (elements : List Datum) : List Env :=
  (List.range elements.length).zipWith
    (fun i d => (variableName, d) :: ("loop", loopRecord elements i) :: env) elements

/-- A stretch of what is rendered: copied from the text of a template, or printed for one of its
expressions. -/
inductive Fragment where
  | copied (text : List Char)
  | printed (text : String)
  deriving DecidableEq, Repr

def Fragment.text : Fragment → String
  | .copied text => String.ofList text
  | .printed text => text

def textOf (fragments : List Fragment) : String := String.join (fragments.map Fragment.text)

/-- What to put in the place of a template's name. -/
abbrev Inclusion := Env → Datum → Bool → Except Failure (List Fragment)

mutual

def Node.render (inclusion : Inclusion) (env : Env) : Node → Except Failure (List Fragment × Env)
  | .text s => .ok ([.copied s], env)
  | .output e => do return ([.printed (← e.eval env).shown], env)
  | .choice branches otherwise => do
    match ← renderBranches inclusion env branches with
    | some result => return result
    | none => renderNodes inclusion env otherwise
  | .loop variableName elements test body otherwise => do
    let all ← (← elements.eval env).elements
    let passed ← passing env variableName test all
    if passed.isEmpty then return ((← renderNodes inclusion env otherwise).1, env)
    -- Each turn starts from the names before the loop, so nothing is carried from one to the next.
    let parts ← (turns env variableName passed).mapM fun turn =>
      (renderNodes inclusion turn body).map (·.1)
    return (parts.flatten, env)
  | .assign variableName e => do return ([], (variableName, ← e.eval env) :: env)
  | .inclusion template mayBeMissing => do
    return (← inclusion env (← template.eval env) mayBeMissing, env)

def renderBranches (inclusion : Inclusion) (env : Env) :
    List (Expr × List Node) → Except Failure (Option (List Fragment × Env))
  | [] => .ok none
  | (test, nodes) :: rest => do
    if (← test.eval env).isTrue then return some (← renderNodes inclusion env nodes)
    else renderBranches inclusion env rest

def renderNodes (inclusion : Inclusion) (env : Env) :
    List Node → Except Failure (List Fragment × Env)
  | [] => .ok ([], env)
  | node :: rest => do
    let (first, env) ← node.render inclusion env
    let (more, env) ← renderNodes inclusion env rest
    return (first ++ more, env)

end

/-- A set of templates that can be included. Their texts are values, as the caller gave them. -/
abbrev Partials := List (String × Value)

def ofSource : Value → Except Failure (List Node)
  | .text source => read source.toList
  | _ => .error .wrongKind

def inclusionDepth : Nat := 200

/-- What is included by name, once the nodes of a template can be rendered. A name that is no text is a template
that does not exist; what is undefined is not even a name. -/
def includeFrom (partials : Partials) (rendered : Env → List Node → Except Failure (List Fragment)) :
    Inclusion := fun env name mayBeMissing =>
  match name with
  | .undefined => .error (.template .undefinedUse)
  | .value (.text name) =>
    match partials.lookup name with
    | some source => do rendered env (← ofSource source)
    | none => if mayBeMissing then .ok [] else .error (.template .notFound)
  | _ => if mayBeMissing then .ok [] else .error (.template .notFound)

def renderWithin (partials : Partials) : Nat → Env → List Node → Except Failure (List Fragment)
  | 0, _, _ => .error .circular
  | depth + 1, env, nodes =>
    (renderNodes (includeFrom partials (renderWithin partials depth)) env nodes).map (·.1)

/-- What a template is rendered to when its names stand for the given data. It is read before anything is known of
them. -/
def fragmentsUnder (partials : Partials) (source : Value) (names : Except Failure Env) :
    Except Failure (List Fragment) := do
  let nodes ← ofSource source
  renderWithin partials inclusionDepth (← names) nodes

def fragments (partials : Partials) (source : Value) (env : Env) : Except Failure (List Fragment) :=
  fragmentsUnder partials source (.ok env)

theorem fragments_of_read {source : Value} {nodes : List Node} (read : ofSource source = .ok nodes)
    (partials : Partials) (env : Env) :
    fragments partials source env = renderWithin partials inclusionDepth env nodes := by
  rw [fragments, fragmentsUnder, read]
  rfl

def render (partials : Partials) (source : Value) (env : Env) : Except Failure String :=
  (fragments partials source env).map textOf

end ClientGen.Template
