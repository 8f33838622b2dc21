import ClientGen.Client.View

/-! What the expressions of a template denote: values of the document, parts of the view, and the value that
is not defined. Parts of the view are seen by the names of their attributes. -/

set_option autoImplicit false

namespace ClientGen.Template

inductive Datum where
  | undefined
  /-- An operation of a value, named but not applied. -/
  | operation
  | value (v : Value)
  | list (items : List Datum)
  | tuple (items : List Datum)
  | record (entries : List (String × Datum))
  | type (t : TypeExpr)
  | location (l : Location)
  | parameter (p : Parameter)
  | header (h : Header)
  | security (s : Security)
  | response (r : Response)
  | method (m : Method)
  | definition (d : Definition)

namespace Datum

def text (s : String) : Datum := .value (.text s)

def bool (b : Bool) : Datum := .value (.bool b)

def ofText? (s : Option String) : Datum := .value (s.elim .null .text)

def ofType? (t : Option TypeExpr) : Datum := t.elim (.value .null) .type

def isTrue : Datum → Bool
  | .undefined => false
  | .value v => v.isTrue
  | .list items | .tuple items => !items.isEmpty
  | _ => true

def locationName (l : Location) : String := String.ofList (l.word.toList.map Char.toUpper)

/-! ## The text of a datum

Parts of the view are shown by their fields. -/

private def fieldList (name : String) (fields : List (String × String)) : String :=
  name ++ "(" ++ ", ".intercalate (fields.map fun (field, shown) => field ++ "=" ++ shown) ++ ")"

private def tupleText : List String → String
  | [only] => "(" ++ only ++ ",)"
  | items => "(" ++ ", ".intercalate items ++ ")"

private def boolText (b : Bool) : String := (Value.bool b).quoted

private def textText? (s : Option String) : String := s.elim "None" Text.quoted

mutual

def quotedType : TypeExpr → String
  | ⟨kind, text, description, target, element, properties, name, optional⟩ =>
    fieldList "TypeSpec" [
      ("kind", Text.quoted kind.word), ("expression", Text.quoted text),
      ("description", description.quoted), ("target", textText? target),
      ("element_type", quotedElement element), ("properties", tupleText (quotedTypes properties)),
      ("name", name.elim "None" Key.quoted), ("optional", boolText optional)]

def quotedElement : Option TypeExpr → String
  | none => "None"
  | some t => quotedType t

def quotedTypes : List TypeExpr → List String
  | [] => []
  | t :: rest => quotedType t :: quotedTypes rest

end

def quotedLocation (l : Location) : String :=
  "<ParameterLocation." ++ locationName l ++ ": " ++ Text.quoted l.word ++ ">"

def quotedParameter (p : Parameter) : String :=
  fieldList "Parameter" [
    ("name", Text.quoted p.name), ("camel_case_name", Text.quoted p.argument),
    ("location", quotedLocation p.location), ("required", boolText p.required),
    ("ts_type", quotedType p.tsType), ("flow_type", quotedType p.flowType),
    ("type", p.declaredType.quoted), ("description", p.description.quoted),
    ("is_singleton", boolText p.singleton.isSome), ("singleton", (p.singleton.getD .null).quoted),
    ("is_pattern_type", boolText p.pattern.isSome), ("pattern", (p.pattern.getD .null).quoted)]

def quotedHeader (h : Header) : String :=
  fieldList "Header" [("name", Text.quoted h.name), ("value", Text.quoted h.value)]

def quotedSecurity (s : Security) : String :=
  fieldList "SecurityFlags" [
    ("is_secure", boolText s.isSecure), ("is_secure_token", boolText s.token),
    ("is_secure_api_key", boolText s.apiKey), ("is_secure_basic", boolText s.basic)]

def quotedResponse (r : Response) : String :=
  fieldList "ResponseInfo" [
    ("ts_type", quotedElement r.tsType), ("flow_type", quotedElement r.flowType),
    ("description", r.description.quoted)]

private def bracketed (items : List String) : String := "[" ++ ", ".intercalate items ++ "]"

def quotedMethod (m : Method) : String :=
  fieldList "Method" [
    ("path", m.path.quoted), ("http_verb", Text.quoted m.verb), ("method_name", Text.quoted m.name),
    ("summary", m.summary.quoted), ("security", quotedSecurity m.security),
    ("response", quotedResponse m.response),
    ("parameters", bracketed (m.parameters.map quotedParameter)),
    ("headers", bracketed (m.headers.map quotedHeader)),
    ("class_name", textText? m.className), ("external_docs", m.externalDocs.quoted)]

def quotedDefinition (d : Definition) : String :=
  fieldList "Definition" [
    ("name", d.name.quoted), ("ts_type", quotedType d.tsType), ("flow_type", quotedType d.flowType),
    ("description", d.description.quoted)]

mutual

def quoted : Datum → String
  | .undefined => "Undefined"
  | .operation => "<operation>"
  | .value v => v.quoted
  | .list items => bracketed (quotedItems items)
  | .tuple items => tupleText (quotedItems items)
  | .record _ => "<record>"
  | .type t => quotedType t
  | .location l => quotedLocation l
  | .parameter p => quotedParameter p
  | .header h => quotedHeader h
  | .security s => quotedSecurity s
  | .response r => quotedResponse r
  | .method m => quotedMethod m
  | .definition d => quotedDefinition d

def quotedItems : List Datum → List String
  | [] => []
  | d :: rest => d.quoted :: quotedItems rest

end

def shown : Datum → String
  | .undefined => ""
  | .value v => v.shown
  | .type t => t.text
  | .location l => "ParameterLocation." ++ locationName l
  | d => d.quoted

/-! ## Attributes -/

def typeAttribute? (t : TypeExpr) : String → Option Datum
  | "kind" => some (text t.kind.word)
  | "expression" => some (text t.text)
  | "description" => some (.value t.description)
  | "target" => some (ofText? t.target)
  | "element_type" => some (ofType? t.element)
  | "properties" => some (.tuple (t.properties.map .type))
  | "name" => some (.value (t.name.elim .null Key.toValue))
  | "optional" => some (bool t.optional)
  | "is_ref" => some (bool (t.kind = .ref))
  | "is_object" => some (bool (t.kind = .object))
  | "is_array" => some (bool (t.kind = .array))
  | "is_enum" => some (bool (t.kind = .enum))
  | "is_atomic" => some (bool t.kind.isAtomic)
  | _ => none

def parameterAttribute? (p : Parameter) : String → Option Datum
  | "name" => some (text p.name)
  | "camel_case_name" => some (text p.argument)
  | "location" => some (.location p.location)
  | "required" => some (bool p.required)
  | "ts_type" => some (.type p.tsType)
  | "flow_type" => some (.type p.flowType)
  | "type" => some (.value p.declaredType)
  | "description" => some (.value p.description)
  | "is_singleton" => some (bool p.singleton.isSome)
  | "singleton" => some (.value (p.singleton.getD .null))
  | "is_pattern_type" => some (bool p.pattern.isSome)
  | "pattern" => some (.value (p.pattern.getD .null))
  | "cardinality" => some (text p.cardinality)
  | "is_body_parameter" => some (bool (p.location = .body))
  | "is_path_parameter" => some (bool (p.location = .path))
  | "is_query_parameter" => some (bool (p.location = .query))
  | "is_header_parameter" => some (bool (p.location = .header))
  | "is_form_parameter" => some (bool (p.location = .form))
  | _ => none

def securityAttribute? (s : Security) : String → Option Datum
  | "is_secure" => some (bool s.isSecure)
  | "is_secure_token" => some (bool s.token)
  | "is_secure_api_key" => some (bool s.apiKey)
  | "is_secure_basic" => some (bool s.basic)
  | _ => none

def responseAttribute? (r : Response) : String → Option Datum
  | "ts_type" => some (ofType? r.tsType)
  | "flow_type" => some (ofType? r.flowType)
  | "description" => some (.value r.description)
  | "is_inline_type" => some (bool r.isInlineType)
  | _ => none

def methodAttribute? (m : Method) : String → Option Datum
  | "path" => some (.value m.path.toValue)
  | "http_verb" => some (text m.verb)
  | "method_name" => some (text m.name)
  | "summary" => some (.value m.summary)
  | "security" => some (.security m.security)
  | "response" => some (.response m.response)
  | "parameters" => some (.list (m.parameters.map .parameter))
  | "headers" => some (.list (m.headers.map .header))
  | "class_name" => some (ofText? m.className)
  | "external_docs" => some (.value m.externalDocs)
  | "is_get" => some (bool m.isGet)
  | "is_post" => some (bool m.isPost)
  | "has_parameters" => some (bool m.hasParameters)
  | "has_required_parameters" => some (bool m.hasRequiredParameters)
  | "is_inline_type" => some (bool m.response.isInlineType)
  | "response_type" => some (ofType? m.response.tsType)
  | "response_description" => some (.value m.response.description)
  | "method_ts_type" => some (ofType? m.response.tsType)
  | "method_flow_type" => some (ofType? m.response.flowType)
  | name => securityAttribute? m.security name

def definitionAttribute? (d : Definition) : String → Option Datum
  | "name" => some (.value d.name.toValue)
  | "ts_type" => some (.type d.tsType)
  | "flow_type" => some (.type d.flowType)
  | "description" => some (.value d.description)
  | _ => none

def headerAttribute? (h : Header) : String → Option Datum
  | "name" => some (text h.name)
  | "value" => some (text h.value)
  | _ => none

/-- The operations that objects have; an entry of the same name is found by its key only. -/
def objectOperations : List String :=
  ["clear", "copy", "fromkeys", "get", "items", "keys", "pop", "popitem", "setdefault", "update", "values"]

def listOperations : List String :=
  ["append", "clear", "copy", "count", "extend", "index", "insert", "pop", "remove", "reverse", "sort"]

def textOperations : List String :=
  ["capitalize", "casefold", "center", "count", "encode", "endswith", "expandtabs", "find", "format",
    "format_map", "index", "isalnum", "isalpha", "isascii", "isdecimal", "isdigit", "isidentifier",
    "islower", "isnumeric", "isprintable", "isspace", "istitle", "isupper", "join", "ljust", "lower",
    "lstrip", "maketrans", "partition", "removeprefix", "removesuffix", "replace", "rfind", "rindex",
    "rjust", "rpartition", "rsplit", "rstrip", "split", "splitlines", "startswith", "strip", "swapcase",
    "title", "translate", "upper", "zfill"]

private def operationOf (operations : List String) (name : String) : Option Datum :=
  if operations.contains name then some .operation else none

def locationAttribute? (l : Location) : String → Option Datum
  | "value" => some (text l.word)
  | "name" => some (text (locationName l))
  | name => operationOf textOperations name

def ownAttribute? (d : Datum) (name : String) : Option Datum :=
  match d with
  | .type t => typeAttribute? t name
  | .location l => locationAttribute? l name
  | .parameter p => parameterAttribute? p name
  | .header h => headerAttribute? h name
  | .security s => securityAttribute? s name
  | .response r => responseAttribute? r name
  | .method m => methodAttribute? m name
  | .definition d => definitionAttribute? d name
  | .record entries => entries.lookup name
  | .value (.object _) => operationOf objectOperations name
  | .value (.text _) => operationOf textOperations name
  | .value (.list _) | .list _ => operationOf listOperations name
  | _ => none

private def place? {α : Type} (items : List α) (i : Int) : Option α :=
  if 0 ≤ i then items[i.toNat]? else if (-i).toNat ≤ items.length then
    items[items.length - (-i).toNat]? else none

/-- A whole number by which elements are counted; truth values count as 1 and 0. -/
private def position? : Datum → Option Int
  | .value (.int i) => some i
  | .value (.bool b) => some (if b then 1 else 0)
  | _ => none

def ownItem? (d index : Datum) : Option Datum :=
  match d with
  | .list items | .tuple items => (position? index).bind (place? items)
  | .value (.list items) => ((position? index).bind (place? items)).map .value
  | .value (.text s) =>
    ((position? index).bind (place? s.toList)).map fun c => text (String.singleton c)
  | .location l =>
    ((position? index).bind (place? l.word.toList)).map fun c => text (String.singleton c)
  | .value (.object entries) =>
    match index with
    | .value v => (v.toKey?.bind fun k => k.lookup entries).map .value
    | .location l => ((Key.text l.word).lookup entries).map .value
    | _ => none
  | _ => none

/-- An attribute; failing that, the entry of that name. -/
def member (d : Datum) (name : String) : Except Failure Datum :=
  match d with
  | .undefined => .error (.template .undefinedUse)
  | d => .ok (((ownAttribute? d name).or (ownItem? d (text name))).getD .undefined)

/-- An item; failing that, the attribute of that name. -/
def item (d index : Datum) : Except Failure Datum :=
  match d with
  | .undefined => .error (.template .undefinedUse)
  | d =>
    let named := match index with
      | .value (.text name) => ownAttribute? d name
      | _ => none
    .ok (((ownItem? d index).or named).getD .undefined)

def elements : Datum → Except Failure (List Datum)
  | .undefined => .ok []
  | .list items | .tuple items => .ok items
  | .value v => v.elements.map fun items => items.map .value
  | .location l => .ok (l.word.toList.map fun c => text (String.singleton c))
  | _ => .error .wrongKind

def length (d : Datum) : Except Failure Nat :=
  match d with
  | .undefined => .ok 0
  | .list items | .tuple items => .ok items.length
  | .value v => v.count
  | .location l => .ok l.word.length
  | _ => .error .wrongKind

mutual

def toValue? : Datum → Option Value
  | .value v => some v
  | .location l => some (.text l.word)
  | .list items | .tuple items => (toValues? items).map .list
  | _ => none

def toValues? : List Datum → Option (List Value)
  | [] => some []
  | d :: rest => d.toValue?.bind fun v => (toValues? rest).map (v :: ·)

end

/-- A character as JSON text that is put into a page shows it. -/
def pageChar (c : Char) : List Char :=
  if c = '<' || c = '>' || c = '&' || c = '\'' then Text.unitEscape c.toNat else [c]

def json (d : Datum) : Except Failure String :=
  match d.toValue?.bind Value.sortKeys? with
  | some v => .ok (String.ofList (v.json.toList.flatMap pageChar))
  | none => .error .wrongKind

end Datum

end ClientGen.Template
