import DeskCalc.Expr

/-!
# Postfix forms read back as trees

`grow` reads a postfix form against a list of trees as `Postfix.apply` reads it against a list of
values, so the trees are what the values are values of. Nothing is lost on the way: the trees on the
list, written one after the other, are the tokens read (`listing_foldlM_grow`). So two trees with
the same postfix form are equal (`Expr.postorder_injective`), and a form that has a value is the
form of a tree with that value (`exists_postorder_of_value_eq_ok`).
-/

namespace DeskCalc

namespace Postfix

/-- The trees after a token, the latest first: a number is a leaf, a function takes one tree and an
operator two, the later one as its right operand. -/
def grow : List Expr → Token → Option (List Expr)
  | trees, .number value text => some (.number value text :: trees)
  | x :: below, .func f => some (.unary f x :: below)
  | y :: x :: below, .operator op => some (.binary op x y :: below)
  | _, _ => none

/-- The postfix forms of a list of trees, the earliest first. -/
def listing (trees : List Expr) : List Token :=
  trees.reverse.flatMap Expr.postorder

@[simp] theorem listing_nil : listing [] = [] := rfl

@[simp] theorem listing_cons (e : Expr) (trees : List Expr) :
    listing (e :: trees) = listing trees ++ e.postorder := by
  simp [listing]

/-- Reading the postfix form of a tree adds the tree. -/
theorem foldlM_grow_postorder (e : Expr) (trees : List Expr) :
    e.postorder.foldlM grow trees = some (e :: trees) := by
  induction e generalizing trees with
  | number value text => rfl
  | unary f argument ih => simp [Expr.postorder, ih, grow]
  | binary op left right ihl ihr => simp [Expr.postorder, ihl, ihr, grow]

/-- A token that is read is the last one of the listing. -/
theorem listing_of_grow {trees after : List Expr} {t : Token} (h : grow trees t = some after) :
    listing after = listing trees ++ [t] := by
  cases t with
  | number value text => cases h; rw [listing_cons]; rfl
  | func f =>
    rcases trees with _ | ⟨x, below⟩
    · cases h
    · cases h
      simp only [listing_cons, Expr.postorder, List.append_assoc]
  | operator op =>
    rcases trees with _ | ⟨y, _ | ⟨x, below⟩⟩
    · cases h
    · cases h
    · cases h
      simp only [listing_cons, Expr.postorder, List.append_assoc]
  | paren opening => cases trees <;> cases h
  | unlisted kind name isBare => exact isBare.elim

/-- The listing holds the tokens read, in their order. -/
theorem listing_foldlM_grow {form : List Token} {trees after : List Expr}
    (h : form.foldlM grow trees = some after) : listing after = listing trees ++ form := by
  induction form generalizing trees with
  | nil => cases h; simp
  | cons t form ih =>
    rw [List.foldlM_cons] at h
    obtain ⟨next, hnext, h⟩ := Option.bind_eq_some_iff.1 h
    rw [ih h, listing_of_grow hnext, List.append_assoc]
    rfl

end Postfix

/-- The postfix form decides the tree. -/
theorem Expr.postorder_injective {a b : Expr} (h : a.postorder = b.postorder) : a = b := by
  have ha := Postfix.foldlM_grow_postorder a []
  rw [h, Postfix.foldlM_grow_postorder b []] at ha
  cases ha; rfl

namespace Postfix

/-- The tree of a token's value: where a token takes values, it takes the trees that have them. -/
theorem exists_grow_of_apply {base : LogBase} {trees : List Expr} {values after : List Float}
    {t : Token} (hv : trees.map (Expr.value base) = values.map .ok)
    (h : apply base values t = .ok after) :
    ∃ next, grow trees t = some next ∧ next.map (Expr.value base) = after.map .ok := by
  cases t with
  | number value text =>
    cases h
    exact ⟨_, rfl, by rw [List.map_cons, hv]; rfl⟩
  | func f =>
    rcases values with _ | ⟨x, values⟩
    · cases h
    obtain ⟨e, below, rfl, he, hbelow⟩ := List.map_eq_cons_iff.1 hv
    refine ⟨_, rfl, ?_⟩
    simp only [apply] at h
    cases hx : f.apply base x with
    | error cause => rw [hx] at h; cases h
    | ok y =>
      rw [hx] at h; cases h
      simp only [List.map_cons, Expr.value, he, hbelow]
      exact congrArg (· :: _) hx
  | operator op =>
    rcases values with _ | ⟨y, _ | ⟨x, values⟩⟩
    · cases h
    · cases h
    obtain ⟨b, tail, rfl, hb, htail⟩ := List.map_eq_cons_iff.1 hv
    obtain ⟨a, below, rfl, ha, hbelow⟩ := List.map_eq_cons_iff.1 htail
    refine ⟨_, rfl, ?_⟩
    simp only [apply] at h
    cases hx : op.apply x y with
    | error cause => rw [hx] at h; cases h
    | ok z =>
      rw [hx] at h; cases h
      simp only [List.map_cons, Expr.value, ha, hb, hbelow]
      exact congrArg (· :: _) hx
  | paren opening => cases h
  | unlisted kind name isBare => exact isBare.elim

/-- A run over values is a run over trees with these values. -/
theorem exists_foldlM_grow_of_apply {base : LogBase} {form : List Token} {trees : List Expr}
    {values after : List Float} (hv : trees.map (Expr.value base) = values.map .ok)
    (h : form.foldlM (apply base) values = .ok after) :
    ∃ next, form.foldlM grow trees = some next ∧
      next.map (Expr.value base) = after.map .ok := by
  induction form generalizing trees values with
  | nil => cases h; exact ⟨trees, rfl, hv⟩
  | cons t form ih =>
    rw [List.foldlM_cons] at h
    cases ht : apply base values t with
    | error cause => rw [ht] at h; cases h
    | ok mid =>
      rw [ht] at h
      obtain ⟨grown, hgrown, hmid⟩ := exists_grow_of_apply hv ht
      obtain ⟨next, hnext, hafter⟩ := ih hmid h
      exact ⟨next, by rw [List.foldlM_cons, hgrown]; exact hnext, hafter⟩

/-- What has a value is the postfix form of a tree, and the value is that of the tree. -/
theorem exists_postorder_of_value_eq_ok {base : LogBase} {form : List Token} {x : Float}
    (h : Postfix.value base form = .ok x) :
    ∃ e, form = Expr.postorder e ∧ e.value base = .ok x := by
  rw [Postfix.value] at h
  split at h
  · cases h
  cases hr : form.foldlM (apply base) [] with
  | error cause => rw [hr] at h; cases h
  | ok values =>
    rw [hr] at h
    change result values = _ at h
    rcases values with _ | ⟨y, _ | ⟨z, values⟩⟩ <;> cases h
    have hnil : ([] : List Expr).map (Expr.value base) = ([] : List Float).map .ok := rfl
    obtain ⟨trees, htrees, hvalues⟩ := exists_foldlM_grow_of_apply hnil hr
    obtain ⟨e, below, rfl, he, hbelow⟩ := List.map_eq_cons_iff.1 hvalues
    obtain rfl := List.map_eq_nil_iff.1 hbelow
    refine ⟨e, ?_, he⟩
    simpa using (listing_foldlM_grow htrees).symm

end Postfix

end DeskCalc
