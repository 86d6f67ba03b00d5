import Plotline.Proofs.Lowering.Acceptance
import Plotline.Proofs.Wire.Records

/-!
# Numbers of lowered code are finite

A short number is never larger than the largest one, and rounding keeps the order, so that no
constant of a script becomes infinite (`single_isFinite`). Particles start with finite numbers, and
every setting keeps them finite. Hence all values of expressions are finite
(`Expr.finite_of_lower`).
-/

namespace Plotline.Script

open Numeral

/-! ## Constants -/

/-- Conversion keeps the order of magnitudes, so that nothing below a number that stays finite
becomes infinite. -/
theorem isFinite_convert_of_le {f g : Format} {x y : Binary f} (hle : x.magnitude ≤ y.magnitude)
    (hy : y.isFinite = true) (hconvert : (y.convert : Binary g).isFinite = true) :
    (x.convert : Binary g).isFinite = true := by
  have hx : x.isFinite = true :=
    decide_eq_true (Nat.lt_of_le_of_lt hle (of_decide_eq_true hy))
  rw [Binary.convert, if_pos hy] at hconvert
  rw [Binary.convert, if_pos hx]
  have hmono : g.nearest (f.units x.magnitude) (Nat.pow 2 f.depth) ≤
      g.nearest (f.units y.magnitude) (Nat.pow 2 f.depth) :=
    Format.nearest_mono (Nat.two_pow_pos f.depth) (Format.units_mono hle)
  exact decide_eq_true (Nat.lt_of_le_of_lt hmono (of_decide_eq_true hconvert))

theorem single_isFinite {x : Double} {y : Single} (h : single x = .ok y) : y.isFinite = true := by
  rw [single] at h
  split at h
  · rename_i hle
    cases h
    exact isFinite_convert_of_le hle (by decide +kernel) (by decide +kernel)
  · cases h

/-- The numbers of a particle after a setting are those from before, but for the one that is
set. -/
theorem mem_singles_of_applyNumber {p p' : Particle} {key : String} {x : Double}
    (h : applyNumber p key x = .ok p') {z : Single} (hz : z ∈ (Value.particle p').singles) :
    z ∈ (Value.particle p).singles ∨ single x = .ok z := by
  unfold applyNumber at h
  split at h
  case h_12 => cases h
  all_goals
    obtain ⟨y, hy, hret⟩ := bind_eq_ok h
    cases hret
    simp only [Value.singles, List.flatMap_cons, List.flatMap_nil, List.mem_append, List.mem_cons,
      Option.mem_toList, List.not_mem_nil, or_false] at hz ⊢
    grind

theorem finite_of_applySetting {p p' : Particle} {key : String} {value : SettingValue}
    (hp : (Value.particle p).Finite) (h : applySetting p key value = .ok p') :
    (Value.particle p').Finite := by
  unfold applySetting at h
  split at h
  · cases h
    exact hp
  · cases h
  · obtain ⟨n, -, hret⟩ := bind_eq_ok h
    cases hret
    exact hp
  · intro z hz
    rcases mem_singles_of_applyNumber h hz with hmem | hsingle
    · exact hp z hmem
    · exact single_isFinite hsingle
  · cases h

theorem finite_of_particle {name : String} {settings : List Setting} {p : Particle}
    (h : particle name settings = .ok p) : (Value.particle p).Finite := by
  have hrun : ∀ (settings : List Setting) (q p : Particle), (Value.particle q).Finite →
      settings.foldlM (fun p s => blame s.name.span (applySetting p s.name.name s.value)) q =
        .ok p → (Value.particle p).Finite := by
    intro settings
    induction settings with
    | nil =>
      intro q p hq h
      cases h
      exact hq
    | cons s settings ih =>
      intro q p hq h
      rw [List.foldlM_cons] at h
      obtain ⟨q', hq', hrest⟩ := bind_eq_ok h
      exact ih q' p (finite_of_applySetting hq (eq_ok_of_blame hq')) hrest
  refine hrun settings { name } p ?_ h
  intro x hx
  have hzero : x = .zero := by simpa [Value.singles] using hx
  rw [hzero]
  decide

theorem Constant.finite_of_value {c : Constant} {span : Span} {v : Value}
    (h : c.value span = .ok v) : v.Finite := by
  cases c with
  | particle name settings =>
    obtain ⟨p, hp, hret⟩ := bind_eq_ok h
    cases hret
    exact finite_of_particle hp
  | text | item =>
    cases h
    simp [Value.Finite, Value.singles]
  | number x =>
    obtain ⟨x', hx, hret⟩ := bind_eq_ok (eq_ok_of_blame h)
    cases hret
    simpa [Value.Finite, Value.singles] using single_isFinite hx
  | location x y z pitch yaw =>
    obtain ⟨_, hx, hrest⟩ := bind_eq_ok (eq_ok_of_blame h)
    obtain ⟨_, hy, hrest⟩ := bind_eq_ok hrest
    obtain ⟨_, hz, hrest⟩ := bind_eq_ok hrest
    obtain ⟨_, hpitch, hrest⟩ := bind_eq_ok hrest
    obtain ⟨_, hyaw, hret⟩ := bind_eq_ok hrest
    cases hret
    simp [Value.Finite, Value.singles, single_isFinite hx, single_isFinite hy, single_isFinite hz,
      single_isFinite hpitch, single_isFinite hyaw]
  | vector x y z =>
    obtain ⟨_, hx, hrest⟩ := bind_eq_ok (eq_ok_of_blame h)
    obtain ⟨_, hy, hrest⟩ := bind_eq_ok hrest
    obtain ⟨_, hz, hret⟩ := bind_eq_ok hrest
    cases hret
    simp [Value.Finite, Value.singles, single_isFinite hx, single_isFinite hy, single_isFinite hz]
  | sound name pitch volume =>
    obtain ⟨_, hpitch, hrest⟩ := bind_eq_ok (eq_ok_of_blame h)
    obtain ⟨_, hvolume, hret⟩ := bind_eq_ok hrest
    cases hret
    simp [Value.Finite, Value.singles, single_isFinite hpitch, single_isFinite hvolume]
  | potion name duration level =>
    obtain ⟨_, -, hrest⟩ := bind_eq_ok (eq_ok_of_blame h)
    obtain ⟨_, -, hret⟩ := bind_eq_ok hrest
    cases hret
    simp [Value.Finite, Value.singles]

/-! ## Expressions -/

namespace Expr

variable {b : Bindings}

theorem finite_of_lower {e : Expr} {k : Nat} {r : Lowered Value} (h : e.lower b k = .ok r) :
    r.result.Finite := by
  -- only constants have numbers in them
  have hother : r.result.kind = .variable ∨ r.result.kind = .gameValue → r.result.Finite := by
    intro hkind
    cases hv : r.result <;> simp [hv, Value.kind] at hkind <;> simp [Value.Finite, Value.singles]
  have hkind := kind_of_lower h
  cases e with
  | constant c span =>
    obtain ⟨v, hv, hret⟩ := bind_eq_ok h
    cases hret
    exact Constant.finite_of_value hv
  | «variable» v span => exact hother (Or.inl hkind)
  | gameValue name target span => exact hother (Or.inr hkind)
  | binary op lhs rhs span => exact hother (Or.inl hkind)

theorem LowersAll.finite {es : List Expr} {k : Nat} {r : Lowered (List Value)}
    (h : LowersAll b es k r) : ∀ v ∈ r.result, v.Finite := by
  induction h with
  | nil => simp
  | cons hv _ ih => exact List.forall_mem_cons.mpr ⟨finite_of_lower hv, ih⟩

end Expr

end Plotline.Script
