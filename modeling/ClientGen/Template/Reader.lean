import ClientGen.Failure
import ClientGen.Template.Node
import ClientGen.Template.Piece

/-! Reading a template: expressions from tokens, and nodes from pieces. The pieces are taken in order, with
the statements that are still open kept as a stack. -/

set_option autoImplicit false

namespace ClientGen.Template

private abbrev Rule := List Token → Option (Expr × List Token)

private def chain (operand : Rule) (isOperator : Token → Bool) (combine : Expr → Expr → Expr) :
    Nat → Expr → Rule
  | 0, left, tokens => some (left, tokens)
  | bound + 1, left, tokens =>
    match tokens with
    | token :: rest =>
      if isOperator token then
        (operand rest).bind fun (right, rest) =>
          chain operand isOperator combine bound (combine left right) rest
      else some (left, tokens)
    | [] => some (left, [])

private def isName (word : String) : Token → Bool
  | .name s => s == word
  | _ => false

private def isSymbol (mark : String) : Token → Bool
  | .symbol s => s == mark
  | _ => false

private def constant? : String → Option Value
  | "true" | "True" => some (.bool true)
  | "false" | "False" => some (.bool false)
  | "none" | "None" => some .null
  | _ => none

private def adjacentTexts : List Token → String × List Token
  | .literal (.text s) :: rest =>
    let (more, after) := adjacentTexts rest
    (s ++ more, after)
  | tokens => ("", tokens)

/-- Filters, applied from the left. Points in the name of a filter belong to it. -/
private def filters : Expr → List Token → Option String → Option (Expr × List Token)
  | e, .symbol "|" :: .name s :: rest, none => filters e rest (some s)
  | _, .symbol "|" :: _, none => none
  | e, .symbol "." :: .name s :: rest, some name => filters e rest (some (name ++ "." ++ s))
  | e, .symbol "|" :: .name s :: rest, some name => filters (.filter e name) rest (some s)
  | _, .symbol "|" :: _, some _ => none
  | e, tokens, none => some (e, tokens)
  | e, tokens, some name => some (.filter e name, tokens)

mutual

private def orRule : Nat → Rule
  | 0, _ => none
  | bound + 1, tokens =>
    (andRule bound tokens).bind fun (left, rest) =>
      chain (andRule bound) (isName "or") .either rest.length left rest

private def andRule : Nat → Rule
  | 0, _ => none
  | bound + 1, tokens =>
    (notRule bound tokens).bind fun (left, rest) =>
      chain (notRule bound) (isName "and") .both rest.length left rest

private def notRule : Nat → Rule
  | 0, _ => none
  | bound + 1, tokens =>
    match tokens with
    | .name "not" :: rest => (notRule bound rest).map fun (e, rest) => (.negation e, rest)
    | _ =>
      (partsRule bound tokens).bind fun (left, rest) =>
        chain (partsRule bound) (isSymbol "~") .joined rest.length left rest

private def partsRule : Nat → Rule
  | 0, _ => none
  | bound + 1, tokens =>
    (operandRule bound tokens).bind fun (e, rest) =>
      (appliedRule bound e rest).bind fun (e, rest) => filters e rest none

private def operandRule : Nat → Rule
  | 0, _ => none
  | bound + 1, tokens =>
    match tokens with
    | .symbol "(" :: rest =>
      (orRule bound rest).bind fun (e, rest) =>
        match rest with
        | .symbol ")" :: rest => some (e, rest)
        | _ => none
    | .symbol "-" :: .literal (.int n) :: rest => some (.literal (.int (-n)), rest)
    | .literal (.text _) :: _ =>
      let (s, rest) := adjacentTexts tokens
      some (.literal (.text s), rest)
    | .literal v :: rest => some (.literal v, rest)
    | .name s :: rest => some ((constant? s).elim (.var s) .literal, rest)
    | _ => none

private def appliedRule : Nat → Expr → Rule
  | 0, _, _ => none
  | bound + 1, e, tokens =>
    match tokens with
    | .symbol "." :: .name s :: rest => appliedRule bound (.member e s) rest
    | .symbol "." :: .literal (.int n) :: rest => appliedRule bound (.item e (.literal (.int n))) rest
    | .symbol "." :: _ => none
    | .symbol "[" :: rest =>
      (orRule bound rest).bind fun (index, rest) =>
        match rest with
        | .symbol "]" :: rest => appliedRule bound (.item e index) rest
        | _ => none
    | _ => some (e, tokens)

end

def readExpr? (tokens : List Token) : Option (Expr × List Token) :=
  orRule (6 * (tokens.length + 1)) tokens

def wholeExpr? (tokens : List Token) : Option Expr :=
  match readExpr? tokens with
  | some (e, []) => some e
  | _ => none

private def isAssignable (name : String) : Bool := (constant? name).isNone

inductive Statement where
  | startChoice (test : Expr)
  | nextBranch (test : Expr)
  | otherwise
  | endChoice
  | startLoop (variableName : String) (elements : Expr) (test : Option Expr)
  | endLoop
  | single (node : Node)

private def inclusionWords? : List Token → Option Bool
  | [] => some false
  | [.name "ignore", .name "missing"] => some true
  | [.name "with", .name "context"] => some false
  | [.name "ignore", .name "missing", .name "with", .name "context"] => some true
  | _ => none

def readStatement? : List Token → Option Statement
  | .name "if" :: rest => (wholeExpr? rest).map .startChoice
  | .name "elif" :: rest => (wholeExpr? rest).map .nextBranch
  | [.name "else"] => some .otherwise
  | [.name "endif"] => some .endChoice
  | [.name "endfor"] => some .endLoop
  | .name "for" :: .name s :: .name "in" :: rest =>
    if isAssignable s then
      match readExpr? rest with
      | some (elements, []) => some (.startLoop s elements none)
      | some (elements, .name "if" :: rest) =>
        (wholeExpr? rest).map fun test => .startLoop s elements (some test)
      | _ => none
    else none
  | .name "set" :: .name s :: .symbol "=" :: rest =>
    if isAssignable s then (wholeExpr? rest).map fun e => .single (.assign s e) else none
  | .name "include" :: rest =>
    (readExpr? rest).bind fun (e, rest) =>
      (inclusionWords? rest).map fun mayBeMissing => .single (.inclusion e mayBeMissing)
  | _ => none

/-- A statement that is still open, with the nodes before it, backwards. -/
inductive OpenStatement where
  | choice (before : List Node) (branches : List (Expr × List Node)) (test : Option Expr)
  | loop (before : List Node) (variableName : String) (elements : Expr) (test : Option Expr)
    (body : Option (List Node))

/-- Puts pieces together; `nodes` are those of the innermost open statement, backwards. -/
def assemble? : List Piece → List Node → List OpenStatement → Option (List Node)
  | [], nodes, [] => some nodes.reverse
  | [], _, _ :: _ => none
  | .text s :: rest, nodes, stack => assemble? rest (.text s :: nodes) stack
  | .output tokens :: rest, nodes, stack =>
    match wholeExpr? tokens with
    | some e => assemble? rest (.output e :: nodes) stack
    | none => none
  | .statement tokens :: rest, nodes, stack =>
    match readStatement? tokens, stack with
    | some (.single node), _ => assemble? rest (node :: nodes) stack
    | some (.startChoice test), _ => assemble? rest [] (.choice nodes [] (some test) :: stack)
    | some (.startLoop s elements test), _ =>
      assemble? rest [] (.loop nodes s elements test none :: stack)
    | some (.nextBranch next), .choice before branches (some test) :: outer =>
      assemble? rest [] (.choice before (branches ++ [(test, nodes.reverse)]) (some next) :: outer)
    | some .otherwise, .choice before branches (some test) :: outer =>
      assemble? rest [] (.choice before (branches ++ [(test, nodes.reverse)]) none :: outer)
    | some .otherwise, .loop before s elements test none :: outer =>
      assemble? rest [] (.loop before s elements test (some nodes.reverse) :: outer)
    | some .endChoice, .choice before branches (some test) :: outer =>
      assemble? rest (.choice (branches ++ [(test, nodes.reverse)]) [] :: before) outer
    | some .endChoice, .choice before branches none :: outer =>
      assemble? rest (.choice branches nodes.reverse :: before) outer
    | some .endLoop, .loop before s elements test none :: outer =>
      assemble? rest (.loop s elements test nodes.reverse [] :: before) outer
    | some .endLoop, .loop before s elements test (some body) :: outer =>
      assemble? rest (.loop s elements test body nodes.reverse :: before) outer
    | _, _ => none

def read (text : List Char) : Except Failure (List Node) :=
  match (pieces? text).bind fun pieces => assemble? pieces [] [] with
  | none => .error (.template .malformed)
  | some nodes =>
    if nodeFiltersExist false nodes then .ok nodes else .error (.template .unknownFilter)

end ClientGen.Template
