import Mathlib.Data.List.Forall2

/-!
# General facts

Facts about lists, optional values and digits that belong to no part of the program: lists that are
related element by element, maps that are injective on what they are applied to, look-up under keys
that differ, lists taken apart at the last place of an element, and numbers known by their digits.
-/

namespace Plotline

variable {α β γ : Type}

/-! ## Related lists -/

section

variable {R S : α → β → Prop} {xs : List α} {ys : List β}

/-- A relation between lists has to be shown only for their elements. -/
theorem forall₂_imp_mem (h : List.Forall₂ R xs ys) (hS : ∀ x ∈ xs, ∀ y ∈ ys, R x y → S x y) :
    List.Forall₂ S xs ys := by
  refine List.forall₂_iff_zip.mpr ⟨h.length_eq, fun hxy => ?_⟩
  obtain ⟨hx, hy⟩ := List.of_mem_zip hxy
  exact hS _ hx _ hy (List.forall₂_zip h hxy)

theorem exists_of_mem_right (h : List.Forall₂ R xs ys) {y : β} (hy : y ∈ ys) :
    ∃ x ∈ xs, R x y := by
  rw [← List.map_snd_zip (Nat.le_of_eq h.length_eq.symm)] at hy
  obtain ⟨⟨x, y⟩, hxy, rfl⟩ := List.mem_map.mp hy
  exact ⟨x, (List.of_mem_zip hxy).1, List.forall₂_zip h hxy⟩

theorem forall₂_flatMap {S : α → γ → Prop} (h : List.Forall₂ R xs ys) {f : β → List γ}
    (hf : ∀ x ∈ xs, ∀ y ∈ ys, R x y → ∃ z, f y = [z] ∧ S x z) :
    List.Forall₂ S xs (ys.flatMap f) := by
  have hsingle := forall₂_imp_mem h hf
  clear h hf
  induction hsingle with
  | nil => exact .nil
  | cons hz _ ih =>
    obtain ⟨z, hz, hxz⟩ := hz
    rw [List.flatMap_cons, hz]
    exact .cons hxz ih

end

/-! ## Injective maps -/

theorem list_map_inj {f : α → β} {xs ys : List α}
    (hf : ∀ x ∈ xs, ∀ y ∈ ys, f x = f y → x = y) (h : xs.map f = ys.map f) : xs = ys := by
  rw [← List.forall₂_eq_eq_eq] at h ⊢
  rw [List.forall₂_map_left_iff, List.forall₂_map_right_iff] at h
  exact forall₂_imp_mem h hf

theorem option_map_inj {f : α → β} {a b : Option α}
    (hf : ∀ x ∈ a, ∀ y ∈ b, f x = f y → x = y) (h : a.map f = b.map f) : a = b := by
  cases a with
  | none => exact (Option.map_eq_none_iff.mp h.symm).symm
  | some x =>
    obtain ⟨y, rfl, hy⟩ := Option.map_eq_some_iff.mp h.symm
    rw [hf x rfl y rfl hy.symm]

theorem bool_eq_of_ite {x y : α} (hxy : x ≠ y) {p q : Bool}
    (h : (if p then x else y) = if q then x else y) : p = q := by
  cases p with
  | false =>
    cases q with
    | false => rfl
    | true => exact absurd h.symm hxy
  | true =>
    cases q with
    | false => exact absurd h hxy
    | true => rfl

/-! ## Places in a list -/

/-- What stands behind the last `a` of a list, and what stands in front of it. -/
theorem append_cons_inj {a : α} {xs ys ds es : List α} (hds : a ∉ ds) (hes : a ∉ es)
    (h : xs ++ a :: ds = ys ++ a :: es) : xs = ys ∧ ds = es := by
  rcases List.append_eq_append_iff.mp h with ⟨t, rfl, ht⟩ | ⟨t, rfl, ht⟩
  · cases t with
    | nil => simpa using ht
    | cons b t =>
      obtain ⟨rfl, rfl⟩ := List.cons.inj ht
      exact absurd (by simp) hds
  · cases t with
    | nil => simpa [eq_comm] using ht
    | cons b t =>
      obtain ⟨rfl, rfl⟩ := List.cons.inj ht
      exact absurd (by simp) hes

theorem find?_of_mem {table : List (String × α)} {e : String × α}
    (hnames : (table.map Prod.fst).Nodup) (he : e ∈ table) :
    table.find? (fun x => x.1 = e.1) = some e := by
  induction table with
  | nil => cases he
  | cons x table ih =>
    obtain ⟨hnew, hrest⟩ := List.nodup_cons.mp hnames
    rcases List.mem_cons.mp he with rfl | he
    · simp
    · have hne : x.1 ≠ e.1 := fun heq => hnew (heq ▸ List.mem_map_of_mem he)
      rw [List.find?_cons_of_neg (by simpa using hne), ih hrest he]

theorem two_le_countP_iff {q : α → Bool} {xs : List α} :
    2 ≤ xs.countP q ↔ ∃ a b, [a, b].Sublist xs ∧ q a = true ∧ q b = true := by
  rw [List.countP_eq_length_filter]
  constructor
  · intro h
    match hfilter : xs.filter q with
    | [] | [_] =>
      rw [hfilter] at h
      simp at h
    | a :: b :: rest =>
      have hsub : [a, b].Sublist (xs.filter q) := by
        rw [hfilter]
        simp
      have hmem : ∀ c ∈ [a, b], q c = true := fun c hc =>
        (List.mem_filter.mp (hsub.subset hc)).2
      exact ⟨a, b, hsub.trans List.filter_sublist, hmem a (by simp), hmem b (by simp)⟩
  · rintro ⟨a, b, hsub, ha, hb⟩
    have hlength := (hsub.filter q).length_le
    simpa [ha, hb] using hlength

/-! ## Digits -/

theorem notMem_toString {c : Char} (hc : c.isDigit = false) (n : Nat) :
    c ∉ (toString n).toList := by
  intro h
  rw [Nat.toString_eq_repr, Nat.toList_repr] at h
  rw [Nat.isDigit_of_mem_toDigits (by decide) (by decide) h] at hc
  cases hc

/-- The digits of a number tell the number. -/
theorem eq_of_toString {n m : Nat} (h : (toString n).toList = (toString m).toList) : n = m := by
  rw [Nat.toString_eq_repr, Nat.toString_eq_repr, Nat.toList_repr, Nat.toList_repr] at h
  have hvalue := congrArg (fun digits => Nat.ofDigitChars 10 digits 0) h
  simpa using hvalue

end Plotline
