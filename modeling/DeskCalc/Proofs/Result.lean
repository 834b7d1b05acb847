import Mathlib.Data.List.Forall2

/-!
# Results of several steps

A computation that can fail has a result when each of its steps has one.
-/

namespace DeskCalc

section
variable {ε ε' α β : Type} {x : Except ε α} {f : α → Except ε β} {b : β}

/-- A result after two steps is one after each of them. -/
theorem exists_of_bind_eq_ok (h : x >>= f = .ok b) : ∃ a, x = .ok a ∧ f a = .ok b := by
  cases x with
  | error e => cases h
  | ok a => exact ⟨a, rfl, h⟩

/-- Another name for the failure makes no difference to the result. -/
theorem mapError_eq_ok_iff {g : ε → ε'} {a : α} : x.mapError g = .ok a ↔ x = .ok a := by
  cases x with
  | error e => exact iff_of_false nofun nofun
  | ok b => exact Iff.intro (fun h => by cases h; rfl) (fun h => by cases h; rfl)

theorem mapError_id (x : Except ε α) : x.mapError id = x := by
  cases x <;> rfl

/-- A failure under another name comes from one under its own. -/
theorem exists_of_mapError_eq_error {g : ε → ε'} {e' : ε'} (h : x.mapError g = .error e') :
    ∃ e, x = .error e ∧ g e = e' := by
  cases x with
  | error e => cases h; exact ⟨e, rfl, rfl⟩
  | ok b => cases h

/-- Two computations whose next steps agree agree as well, up to what is read off their failures. -/
theorem mapError_bind {δ : Type} {x' : Except ε' α} {f' : α → Except ε' β} {g : ε → δ}
    {g' : ε' → δ} (hx : x'.mapError g' = x.mapError g)
    (hf : ∀ a, (f' a).mapError g' = (f a).mapError g) :
    (x' >>= f').mapError g' = (x >>= f).mapError g := by
  cases x with
  | error e =>
    obtain ⟨e', rfl, he⟩ := exists_of_mapError_eq_error hx
    exact congrArg Except.error he
  | ok a =>
    cases mapError_eq_ok_iff.1 hx
    exact hf a

/-- So do two computations over a list and over what it is mapped to, when their steps agree. -/
theorem mapError_foldlM {δ σ α' : Type} {step : σ → α → Except ε σ} {step' : σ → α' → Except ε' σ}
    {g : ε → δ} {g' : ε' → δ} {φ : α → α'}
    (h : ∀ s a, (step' s (φ a)).mapError g' = (step s a).mapError g) (l : List α) (s : σ) :
    ((l.map φ).foldlM step' s).mapError g' = (l.foldlM step s).mapError g := by
  induction l generalizing s with
  | nil => rfl
  | cons a rest ih =>
    rw [List.map_cons, List.foldlM_cons, List.foldlM_cons]
    exact mapError_bind (h s a) ih

/-- A list of computations has results when each of them has one, in the order of the list. -/
theorem exists_mapM_eq_ok {R : α → β → Prop} {l : List α}
    (h : ∀ a ∈ l, ∃ b, f a = .ok b ∧ R a b) : ∃ bs, l.mapM f = .ok bs ∧ List.Forall₂ R l bs := by
  induction l with
  | nil => exact ⟨[], rfl, .nil⟩
  | cons a rest ih =>
    obtain ⟨⟨b, hb, hab⟩, hrest⟩ := List.forall_mem_cons.1 h
    obtain ⟨bs, hbs, hall⟩ := ih hrest
    refine ⟨b :: bs, ?_, .cons hab hall⟩
    rw [List.mapM_cons, hb, hbs]
    rfl

/-- The results of a list of computations are those of its members, in the order of the list. -/
theorem forall₂_of_mapM_eq_ok {l : List α} {bs : List β} (h : l.mapM f = .ok bs) :
    List.Forall₂ (fun a b => f a = .ok b) l bs := by
  induction l generalizing bs with
  | nil => cases h; exact .nil
  | cons a rest ih =>
    rw [List.mapM_cons] at h
    obtain ⟨b, hb, h⟩ := exists_of_bind_eq_ok h
    obtain ⟨bs, hbs, h⟩ := exists_of_bind_eq_ok h
    cases h
    exact .cons hb (ih hbs)

/-- So it is where nothing is said about a failure. -/
theorem forall₂_of_mapM_eq_some {f : α → Option β} {l : List α} {bs : List β}
    (h : l.mapM f = some bs) : List.Forall₂ (fun a b => f a = some b) l bs := by
  induction l generalizing bs with
  | nil => cases h; exact .nil
  | cons a rest ih =>
    rw [List.mapM_cons] at h
    obtain ⟨b, hb, h⟩ := Option.bind_eq_some_iff.1 h
    obtain ⟨bs, hbs, h⟩ := Option.bind_eq_some_iff.1 h
    cases h
    exact .cons hb (ih hbs)

end

end DeskCalc
