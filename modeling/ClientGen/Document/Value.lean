import ClientGen.Number.Binary64

/-! Document values: what a JSON or YAML file holds. Objects keep the order of their entries, and whole
numbers are apart from floating-point ones. -/

set_option autoImplicit false

namespace ClientGen

/-- What names an entry of an object. JSON has text keys only; in YAML any plain scalar may be one. -/
inductive Key where
  | text (s : String)
  | null
  | bool (b : Bool)
  | int (n : Int)
  | float (x : Binary64)
  deriving DecidableEq, Repr, Inhabited

inductive Value where
  | null
  | bool (b : Bool)
  | int (n : Int)
  | float (x : Binary64)
  | text (s : String)
  | list (items : List Value)
  | object (entries : List (Key × Value))
  deriving Repr, Inhabited

namespace Key

private def number? : Key → Option (Int ⊕ Binary64)
  | .bool b => some (.inl (if b then 1 else 0))
  | .int n => some (.inl n)
  | .float x => some (.inr x)
  | _ => none

/-- Whether two keys name the same entry: numbers are compared by value, whatever their kind. -/
def same (a b : Key) : Bool :=
  match a, b with
  | .text s, .text t => s == t
  | .null, .null => true
  | a, b => match a.number?, b.number? with
    | some (.inl m), some (.inl n) => m == n
    | some (.inl m), some (.inr y) => y.equalsInt m
    | some (.inr x), some (.inl n) => x.equalsInt n
    | some (.inr x), some (.inr y) => x.same y
    | _, _ => false

@[simp] theorem same_text (s t : String) : same (.text s) (.text t) = (s == t) := rfl

theorem eq_text_of_same {s : String} {k : Key} (h : same (.text s) k = true) : k = .text s := by
  cases k with
  | text t => simp only [same_text, beq_iff_eq] at h; rw [h]
  | null => simp [same, number?] at h
  | bool => simp [same, number?] at h
  | int => simp [same, number?] at h
  | float => simp [same, number?] at h

def toValue : Key → Value
  | .text s => .text s
  | .null => .null
  | .bool b => .bool b
  | .int n => .int n
  | .float x => .float x

variable {α : Type}

def lookup (k : Key) : List (Key × α) → Option α
  | [] => none
  | (name, a) :: rest => if k.same name then some a else lookup k rest

/-- Gives the key a new value at its old place, or adds an entry at the end. -/
def put (k : Key) (a : α) : List (Key × α) → List (Key × α)
  | [] => [(k, a)]
  | (name, old) :: rest => if k.same name then (name, a) :: rest else (name, old) :: put k a rest

def without (k : Key) (entries : List (Key × α)) : List (Key × α) :=
  entries.filter fun entry => !k.same entry.1

def take (k : Key) (entries : List (Key × α)) : Option (α × List (Key × α)) :=
  (k.lookup entries).map fun a => (a, k.without entries)

theorem mem_of_lookup {k : Key} {entries : List (Key × α)} {a : α} (h : k.lookup entries = some a) :
    ∃ name, (name, a) ∈ entries := by
  induction entries with
  | nil => simp [lookup] at h
  | cons entry rest ih =>
    obtain ⟨name, b⟩ := entry
    unfold lookup at h
    split at h
    · cases h; exact ⟨name, by simp⟩
    · obtain ⟨other, mem⟩ := ih h
      exact ⟨other, by simp [mem]⟩

end Key

namespace Value

/-- Null, false, zeros and empty texts, lists and objects are not true; all else is. -/
def isTrue : Value → Bool
  | .null => false
  | .bool b => b
  | .int n => n != 0
  | .float x => !x.isZero
  | .text s => !s.isEmpty
  | .list items => !items.isEmpty
  | .object entries => !entries.isEmpty

def orElse (v other : Value) : Value := if v.isTrue then v else other

def get? : Value → String → Option Value
  | .object entries, name => (Key.text name).lookup entries
  | _, _ => none

def toKey? : Value → Option Key
  | .null => some .null
  | .bool b => some (.bool b)
  | .int n => some (.int n)
  | .float x => some (.float x)
  | .text s => some (.text s)
  | _ => none

def isText : Value → Bool
  | .text _ => true
  | _ => false

mutual

/-- A measure of a value that is greater than those of all its parts together. -/
def size : Value → Nat
  | .list items => sizes items + 1
  | .object entries => entrySizes entries + 1
  | _ => 1

def sizes : List Value → Nat
  | [] => 0
  | v :: rest => v.size + sizes rest + 1

def entrySizes : List (Key × Value) → Nat
  | [] => 0
  | (_, v) :: rest => v.size + entrySizes rest + 1

end

theorem size_pos (v : Value) : 0 < v.size := by cases v <;> simp [size]

theorem size_le_of_mem {v : Value} {items : List Value} (h : v ∈ items) :
    v.size ≤ sizes items := by
  induction items with
  | nil => simp at h
  | cons w rest ih =>
    simp only [List.mem_cons] at h
    unfold sizes
    rcases h with rfl | h
    · omega
    · have := ih h; omega

theorem size_le_of_mem_entries {name : Key} {v : Value} {entries : List (Key × Value)}
    (h : (name, v) ∈ entries) : v.size ≤ entrySizes entries := by
  induction entries with
  | nil => simp at h
  | cons entry rest ih =>
    simp only [List.mem_cons] at h
    rcases h with rfl | h
    · simp only [entrySizes]; omega
    · have := ih h
      simp only [entrySizes]; omega

theorem size_le_of_lookup {k : Key} {v : Value} {entries : List (Key × Value)}
    (h : k.lookup entries = some v) : v.size ≤ entrySizes entries := by
  obtain ⟨_, mem⟩ := Key.mem_of_lookup h
  exact size_le_of_mem_entries mem

theorem entrySizes_without_le (k : Key) (entries : List (Key × Value)) :
    entrySizes (k.without entries) ≤ entrySizes entries := by
  induction entries with
  | nil => simp [Key.without]
  | cons entry rest ih =>
    unfold Key.without at ih ⊢
    rw [List.filter_cons]
    split <;> simp only [entrySizes] <;> omega

theorem entrySizes_of_lookup {k : Key} {v : Value} {entries : List (Key × Value)}
    (h : k.lookup entries = some v) : v.size + entrySizes (k.without entries) < entrySizes entries := by
  induction entries with
  | nil => simp [Key.lookup] at h
  | cons entry rest ih =>
    obtain ⟨name, w⟩ := entry
    have smaller := entrySizes_without_le k rest
    unfold Key.lookup at h
    unfold Key.without at ih smaller ⊢
    rw [List.filter_cons]
    simp only [entrySizes]
    split at h
    next taken =>
      cases h
      simp only [taken, Bool.not_true, Bool.false_eq_true, if_false]
      omega
    next other =>
      have := ih h
      simp only [other, Bool.not_false, if_true, entrySizes]
      omega

theorem entrySizes_of_take {k : Key} {v : Value} {entries others : List (Key × Value)}
    (h : k.take entries = some (v, others)) : v.size + entrySizes others < entrySizes entries := by
  obtain ⟨found, looked, same⟩ := Option.map_eq_some_iff.1 h
  cases same
  exact entrySizes_of_lookup looked

end Value

end ClientGen
