import Mathlib.Data.List.Forall2

/-!
# Pairwise related lists

Two expressions are compared entry by entry wherever they hold lists. The facts gathered here carry
a relation between the entries over to what is made of the lists. Where an induction hypothesis
speaks about the entries of one list only, the entry is known to be a member of it. A value that may
be absent is a list of at most one entry in this respect.
-/

set_option autoImplicit false

namespace SemanticQuery

/-- A relation between two lists follows from another one if it does for the entries. -/
theorem forall₂_imp_of_mem {α β : Type} {R S : α → β → Prop} {xs : List α} {ys : List β}
    (h : List.Forall₂ R xs ys) (himp : ∀ x ∈ xs, ∀ y, R x y → S x y) : List.Forall₂ S xs ys := by
  induction h with
  | nil => exact List.Forall₂.nil
  | @cons x y xs ys hhead _ ih =>
    have hfirst := himp x (List.mem_cons_self ..) y hhead
    have hrest := ih fun x' hx' => himp x' (List.mem_cons_of_mem _ hx')
    exact List.Forall₂.cons hfirst hrest

/-- Lists that are made of related lists, one for each of pairwise related entries, are related. -/
theorem forall₂_flatMap_of_mem {α β γ δ : Type} {R : α → β → Prop} {S : γ → δ → Prop} {xs : List α}
    {ys : List β} {f : α → List γ} {g : β → List δ} (h : List.Forall₂ R xs ys)
    (himp : ∀ x ∈ xs, ∀ y, R x y → List.Forall₂ S (f x) (g y)) :
    List.Forall₂ S (xs.flatMap f) (ys.flatMap g) := by
  have hpieces := forall₂_imp_of_mem h himp
  exact List.rel_flatMap hpieces fun _ _ hpiece => hpiece

/-- The images of pairwise related entries are related if those of each pair are. -/
theorem forall₂_map_of_mem {α β γ δ : Type} {R : α → β → Prop} {S : γ → δ → Prop} {xs : List α}
    {ys : List β} {f : α → γ} {g : β → δ} (h : List.Forall₂ R xs ys)
    (himp : ∀ x ∈ xs, ∀ y, R x y → S (f x) (g y)) : List.Forall₂ S (xs.map f) (ys.map g) := by
  rw [List.forall₂_map_left_iff, List.forall₂_map_right_iff]
  exact forall₂_imp_of_mem h himp

/-- What is gathered from related lists is the same when related entries give the same. -/
theorem flatMap_eq_of_forall₂ {α β γ : Type} {R : α → β → Prop} {xs : List α} {ys : List β}
    {f : α → List γ} {g : β → List γ} (h : List.Forall₂ R xs ys)
    (heq : ∀ x y, R x y → f x = g y) : xs.flatMap f = ys.flatMap g := by
  induction h with
  | nil => rfl
  | cons hhead _ ih => rw [List.flatMap_cons, List.flatMap_cons, heq _ _ hhead, ih]

/-- An entry of the second of two related lists has a related one in the first. -/
theorem exists_mem_of_forall₂ {α β : Type} {R : α → β → Prop} {xs : List α} {ys : List β}
    (h : List.Forall₂ R xs ys) {y : β} (hy : y ∈ ys) : ∃ x ∈ xs, R x y := by
  induction h with
  | nil => cases hy
  | @cons x y' xs ys hhead _ ih =>
    rcases List.mem_cons.1 hy with rfl | hy
    · exact ⟨x, List.mem_cons_self .., hhead⟩
    · obtain ⟨x', hx', hrelated⟩ := ih hy
      exact ⟨x', List.mem_cons_of_mem _ hx', hrelated⟩

/-- Entries of related lists in the same position are related. -/
theorem forall₂_getElem? {α β : Type} {R : α → β → Prop} {xs : List α} {ys : List β}
    (h : List.Forall₂ R xs ys) {i : Nat} {x : α} {y : β} (hx : xs[i]? = some x)
    (hy : ys[i]? = some y) : R x y := by
  induction h generalizing i with
  | nil => cases hx
  | cons hhead _ ih =>
    cases i with
    | zero =>
      cases hx
      cases hy
      exact hhead
    | succ i => exact ih hx hy

/-- Lists that are related after appending are related part by part if the first parts are equally
long. -/
theorem forall₂_of_append {α β : Type} {R : α → β → Prop} {xs us : List α} {ys vs : List β}
    (h : List.Forall₂ R (xs ++ us) (ys ++ vs)) (hlength : xs.length = ys.length) :
    List.Forall₂ R xs ys ∧ List.Forall₂ R us vs := by
  have hfirst := List.forall₂_take_append (xs ++ us) ys vs h
  have hsecond := List.forall₂_drop_append (xs ++ us) ys vs h
  rw [← hlength, List.take_left] at hfirst
  rw [← hlength, List.drop_left] at hsecond
  exact ⟨hfirst, hsecond⟩

/-- If what is made of the entries of two lists is related after appending, and equally long for
entries in the same position, then it is related position by position. -/
theorem forall₂_of_flatMap {α β γ δ : Type} {P Q : α → β → Prop} {S : γ → δ → Prop} {xs : List α}
    {ys : List β} {f : α → List γ} {g : β → List δ} (hpairs : List.Forall₂ P xs ys)
    (hlength : ∀ x y, P x y → (f x).length = (g y).length)
    (himp : ∀ x ∈ xs, ∀ y, P x y → List.Forall₂ S (f x) (g y) → Q x y)
    (h : List.Forall₂ S (xs.flatMap f) (ys.flatMap g)) : List.Forall₂ Q xs ys := by
  induction hpairs with
  | nil => exact List.Forall₂.nil
  | @cons x y xs ys hhead _ ih =>
    rw [List.flatMap_cons, List.flatMap_cons] at h
    obtain ⟨hfirst, hrest⟩ := forall₂_of_append h (hlength x y hhead)
    have hentry := himp x (List.mem_cons_self ..) y hhead hfirst
    have hentries := ih (fun x' hx' => himp x' (List.mem_cons_of_mem _ hx')) hrest
    exact List.Forall₂.cons hentry hentries

/-- The pairs of related lists are related in both entries. -/
theorem forall₂_zip_zip {α β γ δ : Type} {R : α → β → Prop} {S : γ → δ → Prop} {xs : List α}
    {ys : List β} {us : List γ} {vs : List δ} (h : List.Forall₂ R xs ys)
    (h' : List.Forall₂ S us vs) :
    List.Forall₂ (fun pair pair' => R pair.1 pair'.1 ∧ S pair.2 pair'.2)
      (xs.zip us) (ys.zip vs) := by
  induction h generalizing us vs with
  | nil => exact List.Forall₂.nil
  | cons hhead _ ih =>
    cases h' with
    | nil => exact List.Forall₂.nil
    | cons hhead' htail' => exact List.Forall₂.cons ⟨hhead, hhead'⟩ (ih htail')

/-- What is asked of a value if it is present is asked alike of related values. -/
theorem optionRel_forall_iff {α β : Type} {R : α → β → Prop} {P : α → Prop} {Q : β → Prop}
    {a : Option α} {b : Option β} (h : Option.Rel R a b) (hiff : ∀ x y, R x y → (P x ↔ Q y)) :
    (∀ x, a = some x → P x) ↔ ∀ y, b = some y → Q y := by
  cases h with
  | none => exact iff_of_true nofun nofun
  | some hvalue => simp only [Option.some.injEq, forall_eq', hiff _ _ hvalue]

/-- Related values are both absent or both present. -/
theorem optionRel_isSome_eq {α β : Type} {R : α → β → Prop} {a : Option α} {b : Option β}
    (h : Option.Rel R a b) : a.isSome = b.isSome := by
  cases h <;> rfl

/-- A relation between values that may be absent follows from another one if it does for those that
are present. -/
theorem optionRel_imp {α β : Type} {R S : α → β → Prop} {a : Option α} {b : Option β}
    (h : Option.Rel R a b) (himp : ∀ x y, R x y → S x y) : Option.Rel S a b := by
  cases h with
  | none => exact Option.Rel.none
  | some hvalue => exact Option.Rel.some (himp _ _ hvalue)

/-- What is made of related values that may be absent is related if what is made of each pair is. -/
theorem optionRel_map {α β γ δ : Type} {R : α → β → Prop} {S : γ → δ → Prop} {a : Option α}
    {b : Option β} {f : α → γ} {g : β → δ} (h : Option.Rel R a b)
    (himp : ∀ x y, R x y → S (f x) (g y)) : Option.Rel S (a.map f) (b.map g) := by
  cases h with
  | none => exact Option.Rel.none
  | some hvalue => exact Option.Rel.some (himp _ _ hvalue)

end SemanticQuery
