import ClientGen.Client.Method
import ClientGen.Proofs.Outcome
import ClientGen.Proofs.Script.Literal
import Mathlib.Data.List.Forall2

/-! Headers of the client's requests. Each value is printed as an expression, so it has to be a literal that denotes the
media types of the document. -/

set_option autoImplicit false

namespace ClientGen

open Script

/-- What is said of a field: the operation speaks for itself if it says anything. -/
def stated (document operation : List (Key × Value)) (field : String) : Value :=
  (((Key.text field).lookup operation).orElse fun _ => (Key.text field).lookup document).getD .null

def mediaTypes (types : Option (List String)) : Value :=
  types.elim .null fun types => .list (types.map .text)

/-- Media types to name in a header, and what stands between each two. -/
structure Announcement where
  name : String
  between : String
  types : List String

namespace Announcement

def text (announcement : Announcement) : String := announcement.between.intercalate announcement.types

def IsPlain (announcement : Announcement) : Prop := ∀ type ∈ announcement.types, Scan.AllPlain '\'' type.toList

instance (announcement : Announcement) : Decidable announcement.IsPlain := List.decidableBAll _ _

/-- The header has the announced name, and its value is a literal of the announced types exactly if they are plain. -/
def DenotedIffPlain (announcement : Announcement) (header : Header) : Prop :=
  header.name = announcement.name ∧ (IsLiteralOf header.value announcement.text ↔ announcement.IsPlain)

def header (announcement : Announcement) : Header := ⟨announcement.name, "'" ++ announcement.text ++ "'"⟩

end Announcement

def announcements (produces consumes : Option (List String)) : List Announcement :=
  (produces.map (Announcement.mk "Accept" ", ")).toList ++ (consumes.map (Announcement.mk "Content-Type" ",")).toList

section
variable {document operation : List (Key × Value)} {produces consumes : Option (List String)}
  {announcement : Announcement} {field name between : String}

theorem Value.join_texts (types : List String) :
    (Value.list (types.map .text)).join between = .ok (between.intercalate types) := by
  have texts : (types.map Value.text).mapM (fun element => element.asText.elim (.error .wrongKind) .ok) =
      (.ok types : Except Failure (List String)) := by
    rw [List.mapM_map]
    exact (Outcome.mapM_eq_ok (g := id) fun _ _ => rfl).trans (by rw [List.map_id])
  rw [join, elements, Outcome.ok_bind, texts]
  rfl

theorem mediaHeader_eq : mediaHeader (.object document) (.object operation) field name between =
    match stated document operation field with
    | .null => .ok []
    | types => (types.join between).map fun joined => [⟨name, "'" ++ joined ++ "'"⟩] := by
  rw [mediaHeader, Value.field?, Value.field, Value.field?, Outcome.ok_bind, stated]
  cases (Key.text field).lookup operation with
  | none =>
    cases (Key.text field).lookup document with
    | none => rfl
    | some types => cases types <;> rfl
  | some types => cases types <;> rfl

theorem mediaHeader_stated {types : Option (List String)}
    (given : stated document operation field = mediaTypes types) :
    mediaHeader (.object document) (.object operation) field name between =
      .ok ((types.map (Announcement.mk name between)).toList.map Announcement.header) := by
  rw [mediaHeader_eq, given]
  cases types with
  | none => rfl
  | some types =>
    change ((Value.list (types.map .text)).join between).map _ = _
    rw [Value.join_texts]
    rfl

theorem headersOf_eq (accepted : stated document operation "produces" = mediaTypes produces)
    (sent : stated document operation "consumes" = mediaTypes consumes) :
    headersOf (.object document) (.object operation) =
      .ok ((announcements produces consumes).map Announcement.header) := by
  rw [headersOf, mediaHeader_stated accepted, mediaHeader_stated sent, announcements, List.map_append]
  rfl

theorem forall_mem_intercalate {types : List String} {P : Char → Prop}
    (separates : ∀ c ∈ between.toList, P c) :
    (∀ c ∈ (between.intercalate types).toList, P c) ↔ ∀ type ∈ types, ∀ c ∈ type.toList, P c := by
  rw [String.toList_intercalate]
  induction types with
  | nil => simp
  | cons type rest ih =>
    cases rest with
    | nil => simp
    | cons next rest =>
      rw [List.map_cons, List.map_cons, List.intercalate_cons_cons, ← List.map_cons, List.append_assoc,
        List.forall_mem_append, List.forall_mem_append, ih, List.forall_mem_cons (a := type)]
      exact and_congr_right fun _ => and_iff_right separates

theorem allPlain_between (among : announcement ∈ announcements produces consumes) :
    Scan.AllPlain '\'' announcement.between.toList := by
  rcases List.mem_append.mp among with among | among
  · obtain ⟨types, _, rfl⟩ := Option.map_eq_some_iff.mp (Option.mem_toList.mp among)
    exact (by decide : Scan.AllPlain '\'' ", ".toList)
  · obtain ⟨types, _, rfl⟩ := Option.map_eq_some_iff.mp (Option.mem_toList.mp among)
    exact (by decide : Scan.AllPlain '\'' ",".toList)

theorem denotedIffPlain_header (separates : Scan.AllPlain '\'' announcement.between.toList) :
    announcement.DenotedIffPlain announcement.header :=
  ⟨rfl, isLiteralOf_quoted_iff.trans (forall_mem_intercalate separates)⟩

/-- Every header that has to be there is there, under its name and in its place, and its value is a literal that denotes
the media types exactly if none of them holds a single quote, a backslash or a line end. -/
theorem headersOf_stated (accepted : stated document operation "produces" = mediaTypes produces)
    (sent : stated document operation "consumes" = mediaTypes consumes) :
    ∃ headers, headersOf (.object document) (.object operation) = .ok headers ∧
      List.Forall₂ Announcement.DenotedIffPlain (announcements produces consumes) headers := by
  refine ⟨_, headersOf_eq accepted sent, List.forall₂_map_right_iff.mpr (List.forall₂_same.mpr ?_)⟩
  intro announcement among
  exact denotedIffPlain_header (allPlain_between among)

end

theorem headersOf_stated_quote :
    let document := [(Key.text "produces", Value.list [.text "application/json", .text "text/plain"])]
    let operation := [(Key.text "consumes", Value.list [.text "text/plain; title=it's"])]
    stated document operation "produces" = mediaTypes (some ["application/json", "text/plain"]) ∧
      stated document operation "consumes" = mediaTypes (some ["text/plain; title=it's"]) ∧
      ∃ accept contentType, headersOf (.object document) (.object operation) = .ok [accept, contentType] ∧
        IsLiteralOf accept.value "application/json, text/plain" ∧
        ¬ IsLiteralOf contentType.value "text/plain; title=it's" := by
  intro document operation
  have accepted : stated document operation "produces" = mediaTypes (some ["application/json", "text/plain"]) := rfl
  have sent : stated document operation "consumes" = mediaTypes (some ["text/plain; title=it's"]) := rfl
  obtain ⟨headers, made, decided⟩ := headersOf_stated accepted sent
  obtain _ | ⟨⟨-, accept⟩, _ | ⟨⟨-, contentType⟩, _ | _⟩⟩ := decided
  exact ⟨accepted, sent, _, _, made, accept.mpr (by decide), mt contentType.mp (by decide)⟩

/-- A single quote in a media type ends the literal, and the rest of the type stands behind it. -/
theorem headersOf_misquoted :
    headersOf (.object []) (.object [(.text "produces", .list [.text "text/plain; title=it's"])]) =
        .ok [⟨"Accept", "'text/plain; title=it's'"⟩] ∧
      ∀ content, ¬ IsLiteralOf "'text/plain; title=it's'" content := by
  refine ⟨rfl, ?_⟩
  rintro content ⟨-, after, read, ended⟩
  have left : (Scan.string.run (Scanner.start "'text/plain; title=it's'".toList)).toOption.map (·.2.rest) =
      some ['s', '\''] := by decide +kernel
  rw [read] at left
  simp [Except.toOption, ended] at left

end ClientGen
