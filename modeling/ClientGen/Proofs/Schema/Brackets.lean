import ClientGen.Proofs.Document.Json
import ClientGen.Proofs.Schema.Invariant
import ClientGen.Proofs.Schema.Nodes

/-! What a reader of brackets and literals makes of a written type. Every type can be read to its end, the
members of an object come apart at the separators next to its brackets, and the brackets of an array follow
one type. None of this depends on what property names and literals hold. -/

set_option autoImplicit false

namespace ClientGen

open Brackets

namespace Dialect

/-- Flow has angle brackets; in TypeScript the characters mean nothing in a type. -/
def angles : Dialect → Bool
  | .typescript => false
  | .flow => true

def mark : Dialect → Char
  | .typescript => ';'
  | .flow => ','

def opening : Dialect → String
  | .typescript => "\x7b "
  | .flow => "\x7b| "

def ending : Dialect → String
  | .typescript => " \x7d"
  | .flow => " |\x7d"

/-- The members between the brackets of an object, if the text is that of one. They are told apart by the
separators that are in no other brackets. -/
def membersIn? (dialect : Dialect) (text : List Char) : Option (List (List Char)) :=
  if text = (dialect.membersText []).toList then some []
  else do
    let rest ← text.dropPrefix? dialect.opening.toList
    let body ← rest.dropSuffix? dialect.ending.toList
    return split dialect.angles dialect.mark 1 ⟨['\x7d'], .plain⟩ body

theorem membersText_of_ne_nil (dialect : Dialect) {members : List String} (present : members ≠ []) :
    (dialect.membersText members).toList = dialect.opening.toList ++
      [dialect.mark, ' '].intercalate (members.map String.toList) ++ dialect.ending.toList := by
  obtain ⟨first, rest, rfl⟩ := List.exists_cons_of_ne_nil present
  cases dialect <;> simp only [membersText, String.toList_append, String.toList_intercalate] <;> rfl

theorem split_members (dialect : Dialect) {members : List (List Char)} (present : members ≠ [])
    (each : ∀ member ∈ members, FreeOf dialect.angles memberMarks member) :
    split dialect.angles dialect.mark 1 ⟨['\x7d'], .plain⟩ ([dialect.mark, ' '].intercalate members) =
      members := by
  refine split_intercalate present ⟨rfl, rfl⟩ fun member among => ?_
  have free := each member among
  refine ⟨read_within ['\x7d'] free.read, fun met => ?_⟩
  have outside : dialect.mark ∈ charsAt dialect.angles 0 start member := by
    rwa [← charsAt_within ['\x7d'] free.read]
  exact free.free _ outside (by cases dialect <;> decide)

theorem membersIn?_membersText (dialect : Dialect) {members : List String}
    (each : ∀ member ∈ members, FreeOf dialect.angles memberMarks member.toList) :
    dialect.membersIn? (dialect.membersText members).toList = some (members.map String.toList) := by
  -- Without members the text is a constant. Otherwise the marks are cut off at both ends and the rest is split.
  by_cases empty : members = []
  · subst empty
    exact if_pos rfl
  have written := dialect.membersText_of_ne_nil empty
  have differs : (dialect.membersText members).toList ≠ (dialect.membersText []).toList := by
    rw [written]
    cases dialect <;> simp [opening, membersText]
  have opens := List.dropPrefix?_eq_some_iff.mpr
    ⟨_, written.trans (List.append_assoc _ _ _), beq_self_eq_true dialect.opening.toList⟩
  have ends (body : List Char) : (body ++ dialect.ending.toList).dropSuffix? dialect.ending.toList = some body :=
    List.dropSuffix?_eq_some_iff.mpr ⟨_, rfl, beq_self_eq_true dialect.ending.toList⟩
  have free : ∀ member ∈ members.map String.toList, FreeOf dialect.angles memberMarks member :=
    List.forall_mem_map.mpr each
  rw [membersIn?, if_neg differs, opens, Option.bind_eq_bind, Option.bind_some, ends, Option.bind_some,
    dialect.split_members (by simpa using empty) free]
  rfl

theorem free_membersText (dialect : Dialect) {members : List String}
    (each : ∀ member ∈ members, FreeOf dialect.angles memberMarks member.toList) :
    FreeOf dialect.angles separators (dialect.membersText members).toList := by
  have kind : ('\x7b', '\x7d') ∈ kinds dialect.angles := by simp [kinds]
  by_cases empty : members = []
  · subst empty
    cases dialect with
    | typescript => exact .enclosed kind (by decide) (rfl : WellBracketed false [])
    | flow => exact .enclosed kind (by decide) (rfl : WellBracketed true ['|', '|'])
  obtain ⟨lead, trail, opens, ends, before, after⟩ : ∃ lead trail,
      dialect.opening.toList = '\x7b' :: lead ∧ dialect.ending.toList = trail ++ ['\x7d'] ∧
      FreeOf dialect.angles [] lead ∧ FreeOf dialect.angles [] trail := by
    cases dialect
    · exact ⟨[' '], [' '], rfl, rfl, .of_ordinary (by decide), .of_ordinary (by decide)⟩
    · exact ⟨['|', ' '], [' ', '|'], rfl, rfl, .of_ordinary (by decide), .of_ordinary (by decide)⟩
  -- What is written between two members brings no bracket, and no separator outside of the braces.
  have between : FreeOf dialect.angles [] [dialect.mark, ' '] := by
    cases dialect <;> exact .of_ordinary (by decide)
  have inner : FreeOf dialect.angles [] ([dialect.mark, ' '].intercalate (members.map String.toList)) := by
    refine between.intercalate (List.forall_mem_map.mpr fun member among => ?_)
    exact (each member among).mono (List.nil_subset _)
  have enclosed := FreeOf.enclosed kind (by decide : '\x7b' ∉ separators)
    ((before.append inner).append after).wellBracketed
  rw [dialect.membersText_of_ne_nil empty, opens, ends]
  simpa only [List.cons_append, List.append_assoc] using enclosed

end Dialect

open Text

namespace TypeExpr

theorem free_propertyKey (angles : Bool) (name : String) :
    FreeOf angles separators (propertyKey name).toList := by
  unfold propertyKey
  split
  next identifier => exact (Bare.of_identifier identifier).free
  next => exact free_escape angles name

theorem free_nameText (angles : Bool) {name : Option Key} {key : String} (written : nameText name = .ok key) :
    FreeOf angles separators key.toList := by
  unfold nameText at written
  split at written
  next => cases written; exact free_propertyKey angles _
  next =>
    split at written
    next => cases written
    next => cases written; exact free_propertyKey angles _
  next => cases written; exact free_propertyKey angles _

def IsMember (property : TypeExpr) (member : List Char) : Prop :=
  ∃ key, nameText property.name = .ok key ∧
    member = (key ++ (if property.optional then "?" else "") ++ ": " ++ property.text).toList

theorem isMember_of_memberText {property : TypeExpr} {member : String}
    (written : property.memberText = .ok member) : property.IsMember member.toList := by
  obtain ⟨key, named, same⟩ := Outcome.bind_eq_ok.mp written
  cases same
  exact ⟨key, named, rfl⟩

theorem IsMember.free {angles : Bool} {property : TypeExpr} {member : List Char}
    (written : property.IsMember member) (type : FreeOf angles memberMarks property.text.toList) :
    FreeOf angles memberMarks member := by
  obtain ⟨key, named, rfl⟩ := written
  have keyed := (free_nameText angles named).mono (List.subset_cons_self '|' memberMarks)
  have optional : FreeOf angles memberMarks (if property.optional then "?" else "").toList := by
    split <;> exact .of_ordinary (by decide)
  simp only [String.toList_append]
  exact ((keyed.append optional).append (.of_ordinary (by decide))).append type

/-- The text of a type has no separators outside of its brackets, except that a union of literals has bars there.
Whether it has can be told by searching the text, since only then a search can find one. -/
structure Apart (angles : Bool) (type : TypeExpr) : Prop where
  free : FreeOf angles memberMarks type.text.toList
  whole : FreeOf angles separators type.text.toList ∨
    type.kind = .enum ∧ Text.contains type.text " | " = true

theorem Apart.of_free {angles : Bool} {type : TypeExpr} (free : FreeOf angles separators type.text.toList) :
    Apart angles type :=
  ⟨free.mono (List.subset_cons_self '|' memberMarks), .inl free⟩

theorem apart_enum (angles : Bool) (description : Value) (values : List Value) :
    Apart angles (enum description (values.map Value.json)) := by
  -- The literals are separated by bars as soon as there are two of them.
  match values with
  | [] => exact .of_free (Bare.free (by decide : Bare "any".toList))
  | [v] =>
    refine .of_free ?_
    change FreeOf angles separators (" | ".intercalate [v.json]).toList
    rw [String.toList_intercalate]
    simpa using v.free_json angles
  | v :: w :: rest =>
    have written : (enum description ((v :: w :: rest).map Value.json)).text.toList =
        " | ".toList.intercalate ((v :: w :: rest).map fun v => v.json.toList) := by
      change (" | ".intercalate ((v :: w :: rest).map Value.json)).toList = _
      rw [String.toList_intercalate, List.map_map]
      rfl
    constructor
    · rw [written]
      have between : FreeOf angles memberMarks " | ".toList := .of_ordinary (by decide)
      refine between.intercalate (List.forall_mem_map.mpr fun value _ => ?_)
      exact (value.free_json angles).mono (List.subset_cons_self '|' memberMarks)
    · refine .inr ⟨rfl, ?_⟩
      rw [Text.contains, written, List.map_cons, List.map_cons, List.intercalate_cons_cons]
      exact isPartOf_append _ _ _

theorem apart_primitive (angles : Bool) (description : Value) (which : Primitive) :
    Apart angles (primitive description which) := by
  refine .of_free (Bare.free ?_)
  cases which
  · exact (by decide : Bare "string".toList)
  · exact (by decide : Bare "number".toList)
  · exact (by decide : Bare "boolean".toList)
  · exact (by decide : Bare "any".toList)

end TypeExpr

namespace Dialect

open TypeExpr

theorem apart_ref (dialect : Dialect) (description : Value) {target : String}
    (identifier : isIdentifier target.toList = true) : Apart dialect.angles (dialect.ref description target) := by
  have free : FreeOf dialect.angles separators target.toList := (Bare.of_identifier identifier).free
  refine .of_free ?_
  change FreeOf _ _ (dialect.typeName target).toList
  unfold typeName
  split
  · rw [String.toList_append]
    exact free.append (Bare.free (by decide))
  · exact free

theorem arrayText_typescript {element : TypeExpr} (apart : Apart false element) :
    ∃ whole, typescript.arrayText element = whole ++ "[]" ∧
      (whole = element.text ∨ whole = "(" ++ element.text ++ ")") ∧ FreeOf false separators whole.toList := by
  unfold arrayText
  dsimp only
  split
  next union =>
    refine ⟨"(" ++ element.text ++ ")", by simp [String.append_assoc], .inr rfl, ?_⟩
    have kind : ('(', ')') ∈ kinds false := by decide
    rw [String.toList_append, String.toList_append]
    exact .enclosed kind (by decide) apart.free.wellBracketed
  next single =>
    refine ⟨element.text, rfl, .inl rfl, apart.whole.resolve_right ?_⟩
    rintro ⟨enumerates, shows⟩
    exact single (by simp [enumerates, shows])

theorem apart_array (dialect : Dialect) (description : Value) {element : TypeExpr}
    (apart : Apart dialect.angles element) : Apart dialect.angles (dialect.array description element) := by
  refine .of_free ?_
  change FreeOf _ _ (dialect.arrayText element).toList
  cases dialect with
  | typescript =>
    obtain ⟨whole, written, _, free⟩ := arrayText_typescript apart
    have kind : ('[', ']') ∈ kinds false := by decide
    rw [written, String.toList_append]
    exact free.append (.enclosed kind (by decide) (rfl : WellBracketed false []))
  | flow =>
    have kind : ('<', '>') ∈ kinds true := by decide
    have array : FreeOf true separators "Array".toList := Bare.free (by decide)
    have enclosed := FreeOf.enclosed kind (by decide : '<' ∉ separators) apart.free.wellBracketed
    have written : (flow.arrayText element).toList = "Array".toList ++ ('<' :: element.text.toList ++ ['>']) := by
      simp [arrayText]
    rw [written]
    exact array.append enclosed

end Dialect

namespace TypeExpr

/-- A type whose text can be read back as far as its brackets tell. -/
structure Legible (dialect : Dialect) (type : TypeExpr) : Prop where
  wellBracketed : WellBracketed dialect.angles type.text.toList
  members : type.kind = .object → ∃ members, dialect.membersIn? type.text.toList = some members ∧
    List.Forall₂ IsMember type.properties members
  /-- What stands before the brackets of an array has nothing but one type outside of its own brackets. -/
  elements : dialect = .typescript → type.kind = .array → ∃ element whole, type.element = some element ∧
    type.text = whole ++ "[]" ∧ (whole = element.text ∨ whole = "(" ++ element.text ++ ")") ∧
    WellBracketed false whole.toList ∧ '|' ∉ charsAt false 0 start whole.toList

theorem Legible.of_apart {dialect : Dialect} {type : TypeExpr} (apart : Apart dialect.angles type)
    (noObject : type.kind ≠ .object) (noArray : type.kind ≠ .array) : Legible dialect type where
  wellBracketed := apart.free.wellBracketed
  members object := absurd object noObject
  elements _ array := absurd array noArray

def NamesIdentifier (type : TypeExpr) : Prop :=
  ∀ target, type.target = some target → isIdentifier target.toList = true

instance : DecidablePred NamesIdentifier := fun type =>
  decidable_of_iff (∀ target ∈ type.target, isIdentifier target.toList = true) Iff.rfl

/-- The type can be read, and stand within others, if all references in it go by names that can stand in
code. -/
def Readable (dialect : Dialect) (type : TypeExpr) : Prop :=
  type.Everywhere NamesIdentifier → Apart dialect.angles type ∧ Legible dialect type

end TypeExpr

namespace Dialect

open TypeExpr

theorem legible_array (dialect : Dialect) (description : Value) {element : TypeExpr}
    (apart : Apart dialect.angles element) : Legible dialect (dialect.array description element) where
  wellBracketed := (dialect.apart_array description apart).free.wellBracketed
  members object := by cases object
  elements isTypescript _ := by
    subst isTypescript
    obtain ⟨whole, written, same, free⟩ := arrayText_typescript apart
    exact ⟨element, whole, rfl, written, same, free.wellBracketed, fun met => free.free _ met (by decide)⟩

theorem readable_object (dialect : Dialect) (description : Value) {properties : List TypeExpr}
    (each : ∀ property ∈ properties, property.Everywhere (Readable dialect)) :
    Outcome.Yields (Readable dialect) (dialect.object description properties) := by
  intro type done named
  obtain ⟨members, written, same⟩ := Outcome.bind_eq_ok.mp done
  cases same
  -- Each member is free of marks at its outside, since its type is.
  have free : ∀ member ∈ members, FreeOf dialect.angles memberMarks member.toList :=
    Outcome.Yields.mapM (fun property among member written =>
      have apart := ((each property among).here (named.of_child (.property among))).1
      (isMember_of_memberText written).free apart.free) members written
  refine ⟨.of_free (dialect.free_membersText free), ?_⟩
  constructor
  · exact (dialect.free_membersText free).wellBracketed
  · rintro -
    refine ⟨_, dialect.membersIn?_membersText free, ?_⟩
    rw [List.forall₂_map_right_iff]
    exact (Outcome.forall₂_of_mapM written).imp fun _ _ => isMember_of_memberText
  · rintro - array
    cases array

theorem invariant_readable (dialect : Dialect) :
    dialect.Invariant (Everywhere (Readable dialect)) (Everywhere (Readable dialect)) := by
  refine .everywhere ?ref ?enum ?primitive ?array ?property fun description _ => dialect.readable_object description
  case ref =>
    intro description target named
    have apart := dialect.apart_ref description (named.here target rfl)
    exact ⟨apart, .of_apart apart (by rintro ⟨⟩) (by rintro ⟨⟩)⟩
  case enum =>
    intro description values _
    have apart := apart_enum dialect.angles description values
    exact ⟨apart, .of_apart apart (by rintro ⟨⟩) (by rintro ⟨⟩)⟩
  case primitive =>
    intro description which _
    have apart := apart_primitive dialect.angles description which
    cases which <;> exact ⟨apart, .of_apart apart (by rintro ⟨⟩) (by rintro ⟨⟩)⟩
  case array =>
    intro description element readable named
    have apart := (readable.here (named.of_child (.element rfl))).1
    exact ⟨dialect.apart_array description apart, dialect.legible_array description apart⟩
  case property =>
    intro name optional type readable named
    have alone : type.Everywhere NamesIdentifier :=
      .intro named.here fun child step => named.of_child (Child.asProperty_iff.mpr step)
    obtain ⟨apart, legible⟩ := readable.here alone
    exact ⟨⟨apart.free, apart.whole⟩, ⟨legible.wellBracketed, legible.members, legible.elements⟩⟩

/-- Every type within a type that a schema converts to can be read back as far as its brackets tell, if its
references go by names that can stand in code. -/
theorem typeOf_legible (dialect : Dialect) {document schema : Value} {type : TypeExpr}
    (converted : dialect.typeOf document schema = .ok type) (named : type.Everywhere NamesIdentifier) :
    type.Everywhere (Legible dialect) := by
  have readable := dialect.invariant_readable.typeOf document schema type converted
  intro node reached
  exact (readable node reached fun inner within => named inner (reached.trans within)).2

def spikyRecord : Value := .object [
  (.text "properties", .object [
    (.text "left, \"right; ", .object [
      (.text "type", .text "array"),
      (.text "items", .object [(.text "enum", .list [.text "a | b)", .object [(.text "\x7d", .int 1)]])])]),
    (.text "next", .object [(.text "$ref", .text "#/definitions/Node")])]),
  (.text "required", .list [.text "next"])]

theorem typeOf_legible_spikyRecord : ∃ type, typescript.typeOf .null spikyRecord = .ok type ∧
    type.text =
      "\x7b \"left, \\\"right; \"?: (\"a | b)\" | \x7b\"\x7d\": 1\x7d)[]; next: Node \x7d" ∧
    type.Everywhere NamesIdentifier ∧ type.Everywhere (Legible typescript) := by
  have evaluated : (typescript.typeOf .null spikyRecord).toOption.map
      (fun type => (type.text, decide (type.Everywhere NamesIdentifier))) =
      some ("\x7b \"left, \\\"right; \"?: (\"a | b)\" | \x7b\"\x7d\": 1\x7d)[]; next: Node \x7d", true) := by
    decide +kernel
  obtain ⟨type, converted, both⟩ := Outcome.eq_ok_of_toOption_map evaluated
  obtain ⟨text, named⟩ := Prod.mk.inj both
  have named := of_decide_eq_true named
  exact ⟨type, converted, text, named, typescript.typeOf_legible converted named⟩

end Dialect

end ClientGen
