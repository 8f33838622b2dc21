import ClientGen.Outcome
import Mathlib.Data.List.Forall2

/-! What the outcomes of the steps of some work say about the outcome of the whole: how it is related to that
of other work which takes the same steps, and which failure it avoids. -/

set_option autoImplicit false

namespace ClientGen.Outcome

variable {ε α β : Type}

theorem eq_ok_of_toOption_map {x : Except ε α} {f : α → β} {b : β}
    (evaluated : x.toOption.map f = some b) : ∃ a, x = .ok a ∧ f a = b := by
  cases x with
  | ok a => exact ⟨a, rfl, Option.some.inj evaluated⟩
  | error failure => cases evaluated

theorem exists_mapM_eq_ok {f : α → Except ε β} {xs : List α} (each : ∀ a ∈ xs, ∃ b, f a = .ok b) :
    ∃ bs, xs.mapM f = .ok bs := by
  induction xs with
  | nil => exact ⟨[], rfl⟩
  | cons a rest ih =>
    obtain ⟨b, here⟩ := each a (by simp)
    obtain ⟨bs, others⟩ := ih fun c member => each c (by simp [member])
    rw [List.mapM_cons, here, others]
    exact ⟨b :: bs, rfl⟩

theorem forall₂_of_mapM {f : α → Except ε β} {xs : List α} {ys : List β} (done : xs.mapM f = .ok ys) :
    List.Forall₂ (fun x y => f x = .ok y) xs ys := by
  induction xs generalizing ys with
  | nil =>
    cases done
    exact .nil
  | cons x rest ih =>
    rw [List.mapM_cons] at done
    obtain ⟨y, here, done⟩ := bind_eq_ok.mp done
    obtain ⟨others, later, same⟩ := bind_eq_ok.mp done
    cases same
    exact .cons here (ih later)

theorem mapM_eq_ok {f : α → Except ε β} {g : α → β} {xs : List α} (each : ∀ a ∈ xs, f a = .ok (g a)) :
    xs.mapM f = .ok (xs.map g) := by
  induction xs with
  | nil => rfl
  | cons a rest ih =>
    rw [List.mapM_cons, each a List.mem_cons_self, ih fun b among => each b (List.mem_cons_of_mem a among)]
    rfl

theorem exists_of_mapM {f : α → Except ε β} {xs : List α} {ys : List β} (done : xs.mapM f = .ok ys) {a : α}
    (among : a ∈ xs) : ∃ b, f a = .ok b := by
  induction xs generalizing ys with
  | nil => cases among
  | cons x rest ih =>
    rw [List.mapM_cons] at done
    obtain ⟨y, here, done⟩ := bind_eq_ok.mp done
    obtain ⟨others, later, _⟩ := bind_eq_ok.mp done
    rcases List.mem_cons.mp among with rfl | among
    · exact ⟨y, here⟩
    · exact ih later among

theorem map_eq_ok {x : Except ε α} {f : α → β} {b : β} : x.map f = .ok b ↔ ∃ a, x = .ok a ∧ f a = b := by
  cases x <;> simp

theorem map_eq_error {x : Except ε α} {f : α → β} {failure : ε} : x.map f = .error failure ↔ x = .error failure := by
  cases x <;> simp

theorem map_bind {γ : Type} (x : Except ε α) (f : α → Except ε β) (g : β → γ) :
    (x >>= f).map g = x >>= fun a => (f a).map g := by
  cases x <;> rfl

theorem mapM_map {γ : Type} (f : α → Except ε β) (g : β → γ) (xs : List α) :
    xs.mapM (fun x => (f x).map g) = (xs.mapM f).map (List.map g) := by
  induction xs with
  | nil => rfl
  | cons x rest ih =>
    rw [List.mapM_cons, List.mapM_cons, ih]
    cases f x with
    | error failure => rfl
    | ok b => cases rest.mapM f <;> rfl

theorem exists_of_forall₂ {R : α → β → Prop} {xs : List α} {ys : List β} (each : List.Forall₂ R xs ys) {y : β}
    (among : y ∈ ys) : ∃ x ∈ xs, R x y := by
  induction each with
  | nil => cases among
  | @cons x _ _ _ here _ ih =>
    rcases List.mem_cons.mp among with rfl | later
    · exact ⟨x, List.mem_cons_self, here⟩
    · obtain ⟨other, listed, related⟩ := ih later
      exact ⟨other, List.mem_cons_of_mem x listed, related⟩

/-- The first element that the step fails on fails in this way. -/
def FirstFails (f : α → Except ε β) (xs : List α) (failure : ε) : Prop :=
  ∃ before x after, xs = before ++ x :: after ∧ (∀ a ∈ before, ∃ b, f a = .ok b) ∧ f x = .error failure

theorem FirstFails.cons {f : α → Except ε β} {x : α} {xs : List α} {failure : ε} :
    FirstFails f (x :: xs) failure ↔
      f x = .error failure ∨ (∃ b, f x = .ok b) ∧ FirstFails f xs failure := by
  constructor
  · rintro ⟨before, y, after, same, fine, fails⟩
    cases before with
    | nil =>
      cases same
      exact .inl fails
    | cons z before =>
      cases same
      exact .inr ⟨fine x List.mem_cons_self, before, y, after, rfl, fun a among =>
        fine a (List.mem_cons_of_mem x among), fails⟩
  · rintro (fails | ⟨here, before, y, after, rfl, fine, fails⟩)
    · exact ⟨[], x, xs, rfl, nofun, fails⟩
    · exact ⟨x :: before, y, after, rfl, List.forall_mem_cons.mpr ⟨here, fine⟩, fails⟩

theorem mapM_eq_error_iff {f : α → Except ε β} {xs : List α} {failure : ε} :
    xs.mapM f = .error failure ↔ FirstFails f xs failure := by
  induction xs with
  | nil =>
    constructor
    · rintro ⟨⟩
    · rintro ⟨before, x, after, same, _⟩
      simp at same
  | cons x rest ih =>
    -- The first element fails, or it goes through and the failure is the first one of the rest.
    rw [FirstFails.cons, ← ih, List.mapM_cons, bind_eq_error]
    refine or_congr_right ?_
    constructor
    · rintro ⟨b, here, failed⟩
      rcases bind_eq_error.mp failed with later | ⟨bs, _, impossible⟩
      · exact ⟨⟨b, here⟩, later⟩
      · cases impossible
    · rintro ⟨⟨b, here⟩, later⟩
      exact ⟨b, here, by rw [later, error_bind]⟩

theorem not_firstFails {f : α → Except ε β} {xs : List α} :
    (∀ failure, ¬ FirstFails f xs failure) ↔ ∀ a ∈ xs, ∃ b, f a = .ok b := by
  simp only [← mapM_eq_error_iff]
  constructor
  · intro fine
    cases done : xs.mapM f with
    | ok bs => exact fun a among => exists_of_mapM done among
    | error failure => exact absurd done (fine failure)
  · intro fine failure failed
    obtain ⟨bs, done⟩ := exists_mapM_eq_ok fine
    rw [done] at failed
    cases failed

theorem FirstFails.append {f : α → Except ε β} {xs ys : List α} {failure : ε} :
    FirstFails f (xs ++ ys) failure ↔
      FirstFails f xs failure ∨ (∀ a ∈ xs, ∃ b, f a = .ok b) ∧ FirstFails f ys failure := by
  induction xs with
  | nil =>
    rw [List.nil_append, ← @mapM_eq_error_iff _ _ _ f []]
    simp
  | cons x rest ih =>
    rw [List.cons_append, FirstFails.cons, ih, FirstFails.cons, List.forall_mem_cons]
    tauto

/-- The outcome of work that is made of steps: it fails if one of them does, and like the first. -/
def DecidedBy {γ : Type} (f : α → Except ε β) (steps : List α) (x : Except ε γ) : Prop :=
  ∀ failure, x = .error failure ↔ FirstFails f steps failure

namespace DecidedBy

variable {γ δ : Type} {f : α → Except ε β} {steps : List α} {x : Except ε γ}

theorem forall_ok (decided : DecidedBy f steps x) : (∃ c, x = .ok c) ↔ ∀ a ∈ steps, ∃ b, f a = .ok b := by
  rw [← not_firstFails]
  simp only [← decided _]
  cases x <;> simp

theorem nil (c : γ) : DecidedBy f [] (.ok c) := by
  intro failure
  simp [← mapM_eq_error_iff]

theorem append {later : List α} {g : γ → Except ε δ} (first : DecidedBy f steps x)
    (next : ∀ c, x = .ok c → DecidedBy f later (g c)) : DecidedBy f (steps ++ later) (x >>= g) := by
  intro failure
  rw [bind_eq_error, FirstFails.append, ← first, ← first.forall_ok, ← exists_and_right]
  exact or_congr_right (exists_congr fun c => and_congr_right fun here => next c here failure)

theorem map (decided : DecidedBy f steps x) (g : γ → δ) : DecidedBy f steps (x >>= fun c => .ok (g c)) := by
  have whole := decided.append fun c _ => nil (g c)
  rwa [List.append_nil] at whole

theorem single {step : α} (same : ∀ failure, x = .error failure ↔ f step = .error failure) :
    DecidedBy f [step] x := by
  intro failure
  rw [same, FirstFails.cons]
  simp [← mapM_eq_error_iff]

theorem cons {step : α} {later : List α} {g : γ → Except ε δ}
    (same : ∀ failure, x = .error failure ↔ f step = .error failure)
    (next : ∀ c, x = .ok c → DecidedBy f later (g c)) : DecidedBy f (step :: later) (x >>= g) :=
  (single same).append next

theorem foldlM {xs : List γ} {stepsOf : γ → List α} {g : δ → γ → Except ε δ} {start : δ}
    (each : ∀ d, ∀ c ∈ xs, DecidedBy f (stepsOf c) (g d c)) : DecidedBy f (xs.flatMap stepsOf) (xs.foldlM g start) := by
  induction xs generalizing start with
  | nil => exact nil start
  | cons c rest ih =>
    rw [List.foldlM_cons, List.flatMap_cons]
    refine (each start c List.mem_cons_self).append fun d _ => ih fun d c among => ?_
    exact each d c (List.mem_cons_of_mem _ among)

theorem mapM {xs : List γ} {stepsOf : γ → List α} {g : γ → Except ε δ}
    (each : ∀ c ∈ xs, DecidedBy f (stepsOf c) (g c)) : DecidedBy f (xs.flatMap stepsOf) (xs.mapM g) := by
  induction xs with
  | nil => exact nil []
  | cons c rest ih =>
    rw [List.mapM_cons, List.flatMap_cons]
    refine (each c List.mem_cons_self).append fun d _ => ?_
    exact (ih fun c among => each c (List.mem_cons_of_mem _ among)).map fun ds => d :: ds

end DecidedBy

/-- Two outcomes that are the same failure or two related results, or the first of which says nothing of the
second because it is a failure to go on. -/
inductive Related (stops : ε → Prop) (R : α → β → Prop) : Except ε α → Except ε β → Prop where
  | ok {a : α} {b : β} : R a b → Related stops R (.ok a) (.ok b)
  | error (failure : ε) : Related stops R (.error failure) (.error failure)
  | stopped {failure : ε} (y : Except ε β) : stops failure → Related stops R (.error failure) y

namespace Related

variable {stops : ε → Prop}

theorem refl {R : α → α → Prop} (same : ∀ a, R a a) (x : Except ε α) : Related stops R x x := by
  cases x with
  | ok a => exact .ok (same a)
  | error failure => exact .error failure

theorem bind {γ δ : Type} {R : α → β → Prop} {S : γ → δ → Prop} {x : Except ε α} {y : Except ε β}
    {f : α → Except ε γ} {g : β → Except ε δ} (first : Related stops R x y)
    (next : ∀ a b, R a b → Related stops S (f a) (g b)) : Related stops S (x >>= f) (y >>= g) := by
  cases first with
  | ok related => exact next _ _ related
  | error failure => exact .error failure
  | stopped y stop => exact .stopped _ stop

theorem map {γ δ : Type} {R : α → β → Prop} {S : γ → δ → Prop} {x : Except ε α} {y : Except ε β} {f : α → γ}
    {g : β → δ} (related : Related stops R x y) (each : ∀ a b, R a b → S (f a) (g b)) :
    Related stops S (x.map f) (y.map g) := by
  cases related with
  | ok related => exact .ok (each _ _ related)
  | error failure => exact .error failure
  | stopped y stop => exact .stopped _ stop

theorem bind_same {γ δ : Type} {S : γ → δ → Prop} {x : Except ε α} {f : α → Except ε γ}
    {g : α → Except ε δ} (next : ∀ a, x = .ok a → Related stops S (f a) (g a)) :
    Related stops S (x >>= f) (x >>= g) := by
  cases x with
  | ok a => exact next a rfl
  | error failure => exact .error failure

theorem mapM {γ δ : Type} {R : α → β → Prop} {f : γ → Except ε α} {g : δ → Except ε β}
    {xs : List γ} {ys : List δ} (each : List.Forall₂ (fun x y => Related stops R (f x) (g y)) xs ys) :
    Related stops (List.Forall₂ R) (xs.mapM f) (ys.mapM g) := by
  induction each with
  | nil => exact .ok .nil
  | cons here _ rest =>
    rw [List.mapM_cons, List.mapM_cons]
    refine here.bind fun a b related => rest.bind fun as bs others => ?_
    exact .ok (.cons related others)

theorem foldlM {γ : Type} {R : α → β → Prop} {f : α → γ → Except ε α} {g : β → γ → Except ε β} {a : α} {b : β}
    (start : R a b) {xs : List γ} (each : ∀ a b, R a b → ∀ x ∈ xs, Related stops R (f a x) (g b x)) :
    Related stops R (xs.foldlM f a) (xs.foldlM g b) := by
  induction xs generalizing a b with
  | nil => exact .ok start
  | cons x rest ih =>
    rw [List.foldlM_cons, List.foldlM_cons]
    refine (each a b start x List.mem_cons_self).bind fun a b related => ?_
    exact ih related fun a b held other among => each a b held other (List.mem_cons_of_mem x among)

theorem eq {x y : Except ε α} (related : Related (fun _ => False) Eq x y) : x = y := by
  cases related with
  | ok same => rw [same]
  | error failure => rfl
  | stopped _ impossible => exact impossible.elim

theorem of_ok {R : α → β → Prop} {a : α} {y : Except ε β} (related : Related stops R (.ok a) y) :
    ∃ b, y = .ok b ∧ R a b := by
  cases related with
  | ok related => exact ⟨_, rfl, related⟩

theorem same_failure_or {R : α → β → Prop} {x : Except ε α} {y : Except ε β}
    (related : Related (fun _ => False) R x y) :
    (∃ failure, x = .error failure ∧ y = .error failure) ∨ ∃ a b, x = .ok a ∧ y = .ok b ∧ R a b := by
  cases related with
  | ok related => exact .inr ⟨_, _, rfl, rfl, related⟩
  | error failure => exact .inl ⟨failure, rfl, rfl⟩
  | stopped _ impossible => exact impossible.elim

theorem eq_error_iff {R : α → β → Prop} {x : Except ε α} {y : Except ε β}
    (related : Related (fun _ => False) R x y) {failure : ε} : x = .error failure ↔ y = .error failure := by
  rcases related.same_failure_or with ⟨_, rfl, rfl⟩ | ⟨_, _, rfl, rfl, _⟩ <;> simp

end Related

def Avoids (failure : ε) (x : Except ε α) : Prop := x ≠ .error failure

namespace Avoids

variable {failure : ε}

theorem ok (a : α) : Avoids failure (.ok a) := by
  rintro ⟨⟩

theorem bind {x : Except ε α} {f : α → Except ε β} (first : Avoids failure x)
    (next : ∀ a, x = .ok a → Avoids failure (f a)) : Avoids failure (x >>= f) := by
  intro failed
  rcases bind_eq_error.mp failed with here | ⟨a, same, later⟩
  · exact first here
  · exact next a same later

theorem mapM {f : α → Except ε β} {xs : List α} (each : ∀ a ∈ xs, Avoids failure (f a)) :
    Avoids failure (xs.mapM f) := by
  induction xs with
  | nil => exact ok []
  | cons a rest ih =>
    rw [List.mapM_cons]
    refine (each a (by simp)).bind fun b _ => ?_
    exact (ih fun c member => each c (by simp [member])).bind fun bs _ => ok _

end Avoids

/-- The result has the property, if there is one. -/
def Yields (P : α → Prop) (x : Except ε α) : Prop := ∀ a, x = .ok a → P a

namespace Yields

variable {P : α → Prop} {Q : β → Prop}

theorem ok {a : α} (holds : P a) : Yields P (.ok a : Except ε α) := by
  rintro _ ⟨⟩
  exact holds

theorem error (failure : ε) : Yields P (.error failure : Except ε α) := by
  rintro _ ⟨⟩

theorem bind_any {x : Except ε α} {f : α → Except ε β} (next : ∀ a, x = .ok a → Yields Q (f a)) :
    Yields Q (x >>= f) := by
  intro b done
  obtain ⟨a, here, later⟩ := bind_eq_ok.mp done
  exact next a here b later

theorem bind {x : Except ε α} {f : α → Except ε β} (first : Yields P x)
    (next : ∀ a, x = .ok a → P a → Yields Q (f a)) : Yields Q (x >>= f) :=
  bind_any fun a here => next a here (first a here)

theorem map {x : Except ε α} {f : α → β} (first : Yields P x) (next : ∀ a, P a → Q (f a)) :
    Yields Q (x.map f) := by
  cases x with
  | ok a => exact ok (next a (first a rfl))
  | error failure => exact error failure

theorem mapM {f : α → Except ε β} {xs : List α} (each : ∀ a ∈ xs, Yields Q (f a)) :
    Yields (fun bs => ∀ b ∈ bs, Q b) (xs.mapM f) := by
  induction xs with
  | nil => exact ok (List.forall_mem_nil _)
  | cons a rest ih =>
    rw [List.mapM_cons]
    refine (each a List.mem_cons_self).bind fun b _ here => ?_
    refine (ih fun c among => each c (List.mem_cons_of_mem a among)).bind fun bs _ others => ?_
    exact ok (List.forall_mem_cons.mpr ⟨here, others⟩)

theorem foldlM {f : β → α → Except ε β} {xs : List α} {start : β} (first : Q start)
    (each : ∀ b, Q b → ∀ a ∈ xs, Yields Q (f b a)) : Yields Q (xs.foldlM f start) := by
  induction xs generalizing start with
  | nil => exact ok first
  | cons a rest ih =>
    rw [List.foldlM_cons]
    refine bind (each start first a List.mem_cons_self) fun next _ holds => ?_
    exact ih holds fun b held c among => each b held c (List.mem_cons_of_mem a among)

end Yields

end ClientGen.Outcome
