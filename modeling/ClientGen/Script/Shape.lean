import ClientGen.Script.Parse

/-! What the grammar has to know of the expressions and patterns it has read. -/

set_option autoImplicit false

namespace ClientGen.Script

inductive Pattern where
  | name (text : String)
  | rest (inner : Pattern)
  /-- A pattern with a default; the flag is there if the default is a yield, and says whether it has a value. -/
  | withDefault (target : Pattern) (yields : Option Bool)
  | array (elements : List Pattern)
  | object (properties : List Pattern)
  | yielded
  | other

inductive Shape where
  | name (text : String)
  | literal
  | importer
  | unary
  | yielded (hasValue : Bool)
  | assignment (target : Pattern) (yields : Option Bool)
  | parameters (patterns : List Pattern) (isAsync : Bool)
  | other (pattern : Pattern)

namespace Shape

def plain : Shape := .other .other

def toPattern : Shape → Pattern
  | name text => .name text
  | assignment target yields => .withDefault target yields
  | yielded _ => .yielded
  | other pattern => pattern
  | _ => .other

def yields? : Shape → Option Bool
  | yielded hasValue => some hasValue
  | _ => none

def isRestricted : Shape → Bool
  | name text => Token.isRestricted text
  | _ => false

def isName : Shape → Bool
  | name _ => true
  | _ => false

end Shape

def Pattern.isName : Pattern → Bool
  | .name _ => true
  | _ => false

def Pattern.isRest : Pattern → Bool
  | .rest _ => true
  | _ => false

/-- A pattern with the tokens of the names it binds. -/
structure Bound where
  pattern : Pattern
  names : List Token

inductive PropertyKey where
  | name (text : String)
  | string (text : String)
  | other
  deriving DecidableEq

def PropertyKey.is (key : PropertyKey) (text : String) : Bool := key = .name text || key = .string text

inductive Declaration where
  | free | variable | lexical | constant
  deriving DecidableEq

/-- The parameters of a function. A restricted name is wrong if the function turns out to be strict; a strict
fault was found while the script was strict already. -/
structure Parameters where
  isSimple : Bool := true
  patterns : List Pattern := []
  names : List String := []
  restricted : Option Site := none
  fault : Option Site := none
  cause : Option Cause := none

namespace Parameters

def add (params : Parameters) (isStrict : Bool) (site : Site) (name : String) : Parameters :=
  let known := params.names.contains name
  let params := { params with names := name :: params.names }
  if isStrict then
    let params :=
      if Token.isRestricted name then { params with
        fault := some site
        cause := some .strictParameter }
      else params
    if known then { params with
      fault := some site
      cause := some .strictParameterTwice }
    else params
  else if params.restricted.isSome then params
  else if Token.isRestricted name then { params with
    restricted := some site
    cause := some .strictParameter }
  else if Token.isStrictlyReserved name then { params with
    restricted := some site
    cause := some .strictWord }
  else if known then { params with
    fault := some site
    cause := some .strictParameterTwice }
  else params

mutual

def addPattern (isStrict : Bool) (params : Parameters) : Pattern → Parameters
  | .name text => params.add isStrict .here text
  | .rest inner => complex (addPattern isStrict params inner)
  | .withDefault target _ => complex (addPattern isStrict params target)
  | .array elements => complex (addPatterns isStrict params elements)
  | .object properties => complex (addPatterns isStrict params properties)
  | _ => complex params
where
  complex (params : Parameters) : Parameters := { params with isSimple := false }

def addPatterns (isStrict : Bool) (params : Parameters) : List Pattern → Parameters
  | [] => params
  | pattern :: rest => addPatterns isStrict (addPattern isStrict params pattern) rest

end

end Parameters

end ClientGen.Script
