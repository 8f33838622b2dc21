import ClientGen.Document.Json
import ClientGen.Proofs.Text.Bare

/-! The JSON text of a value among other text: what it is made of is out of sight behind its quotes and
brackets, whatever texts and keys the value holds. -/

set_option autoImplicit false

namespace ClientGen

open Brackets Text

theorem bare_int (n : Int) : Bare (toString n).toList := by
  cases n with
  | ofNat m => exact .of_numeral (Decimal.all_isNumeral_toString m)
  | negSucc m =>
    refine .of_numeral ?_
    change ("-" ++ toString (m + 1)).toList.all _ = true
    rw [String.toList_append, List.all_append, Decimal.all_isNumeral_toString]
    rfl

theorem Binary64.bare_writeWith (x : Binary64) : Bare (x.writeWith "Infinity" "NaN").toList := by
  unfold writeWith
  split
  · decide
  · split
    · split <;> decide
    · exact .of_numeral x.all_isNumeral_write

theorem Key.free_json (angles : Bool) (k : Key) : FreeOf angles separators k.json.toList := by
  cases k with
  | text s => exact free_escape angles s
  | null =>
    have bare : Bare "null".toList := by decide
    exact bare.literal
  | bool b =>
    have bare : Bare "true".toList ∧ Bare "false".toList := by decide
    cases b with
    | true => exact bare.1.literal
    | false => exact bare.2.literal
  | int n =>
    rw [json, String.toList_append, String.toList_append]
    exact (bare_int n).literal
  | float x =>
    rw [json, String.toList_append, String.toList_append]
    exact x.bare_writeWith.literal

namespace Value

theorem wellBracketed_listed {angles : Bool} {texts : List String}
    (each : ∀ text ∈ texts, FreeOf angles separators text.toList) :
    WellBracketed angles (", ".intercalate texts).toList := by
  rw [String.toList_intercalate]
  -- The comma between the texts is a separator itself, but it ends up between brackets.
  have between : FreeOf angles [] ", ".toList := .of_ordinary (by decide)
  refine (between.intercalate (List.forall_mem_map.mpr fun text among => ?_)).wellBracketed
  exact (each text among).mono (List.nil_subset _)

mutual

theorem free_json (angles : Bool) : ∀ v : Value, FreeOf angles separators v.json.toList
  | .null => by rw [json]; exact Bare.free (by decide)
  | .bool true => by rw [json]; exact Bare.free (by decide)
  | .bool false => by rw [json]; exact Bare.free (by decide)
  | .int n => by rw [json]; exact (bare_int n).free
  | .float x => by rw [json]; exact x.bare_writeWith.free
  | .text s => by rw [json]; exact free_escape angles s
  | .list items => by
    rw [json, String.toList_append, String.toList_append]
    have kind : ('[', ']') ∈ kinds angles := by simp [kinds]
    exact .enclosed kind (by decide) (wellBracketed_listed (free_jsonItems angles items))
  | .object entries => by
    rw [json, String.toList_append, String.toList_append]
    have kind : ('\x7b', '\x7d') ∈ kinds angles := by simp [kinds]
    exact .enclosed kind (by decide) (wellBracketed_listed (free_jsonEntries angles entries))

theorem free_jsonItems (angles : Bool) : ∀ items : List Value,
    ∀ text ∈ jsonItems items, FreeOf angles separators text.toList
  | [] => by rw [jsonItems]; exact List.forall_mem_nil _
  | v :: rest => by
    rw [jsonItems, List.forall_mem_cons]
    exact ⟨free_json angles v, free_jsonItems angles rest⟩

theorem free_jsonEntries (angles : Bool) : ∀ entries : List (Key × Value),
    ∀ text ∈ jsonEntries entries, FreeOf angles separators text.toList
  | [] => by rw [jsonEntries]; exact List.forall_mem_nil _
  | (k, v) :: rest => by
    rw [jsonEntries, List.forall_mem_cons, String.toList_append, String.toList_append]
    exact ⟨((k.free_json angles).append (Bare.free (by decide))).append (free_json angles v),
      free_jsonEntries angles rest⟩

end

end Value

end ClientGen
