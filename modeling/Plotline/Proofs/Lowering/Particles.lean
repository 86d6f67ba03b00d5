import Mathlib.Data.List.Induction
import Plotline.Proofs.Lowering.Colors

/-!
# Settings of particles

A particle has thirteen knobs (`Knob`). The settings that are written behind its name are applied in
their order, and each of them turns the knob that its key names.

`particle_turns_knobs` says what comes of them: the settings are accepted if and only if each of
them is valid for its own key. Then every knob stands where the last setting with its key puts it,
or where it stands on a new particle. So it does not matter how settings with different keys are
mixed.
-/

namespace Plotline

open Script Numeral

namespace Script

/-! ## Knobs -/

inductive Knob
  | amount
  | spreadX
  | spreadY
  | motionX
  | motionY
  | motionZ
  | size
  | roll
  | sizeVariation
  | colorVariation
  | motionVariation
  | material
  | color

namespace Knob

/-- The key of the settings that turn the knob. -/
def key : Knob → String
  | .amount => "amount"
  | .spreadX => "spread_x"
  | .spreadY => "spread_y"
  | .motionX => "motion_x"
  | .motionY => "motion_y"
  | .motionZ => "motion_z"
  | .size => "size"
  | .roll => "roll"
  | .sizeVariation => "size_variation"
  | .colorVariation => "color_variation"
  | .motionVariation => "motion_variation"
  | .material => "material"
  | .color => "color"

/-- What the knob is turned to. -/
def Position : Knob → Type
  | .amount | .sizeVariation | .colorVariation | .motionVariation | .color => Int32
  | .spreadX | .spreadY | .motionX | .motionY | .motionZ | .size | .roll => Single
  | .material => String

/-- Where the knob stands, if it is not left open. -/
def position? (p : Particle) : (k : Knob) → Option k.Position
  | .amount => some p.amount
  | .spreadX => some p.spreadX
  | .spreadY => some p.spreadY
  | .motionX => p.motionX
  | .motionY => p.motionY
  | .motionZ => p.motionZ
  | .size => p.size
  | .roll => p.roll
  | .sizeVariation => p.sizeVariation
  | .colorVariation => p.colorVariation
  | .motionVariation => p.motionVariation
  | .material => p.material
  | .color => p.color

/-- The particle with the knob turned. -/
def turn (p : Particle) : (k : Knob) → k.Position → Particle
  | .amount, x => { p with amount := x }
  | .spreadX, x => { p with spreadX := x }
  | .spreadY, x => { p with spreadY := x }
  | .motionX, x => { p with motionX := some x }
  | .motionY, x => { p with motionY := some x }
  | .motionZ, x => { p with motionZ := some x }
  | .size, x => { p with size := some x }
  | .roll, x => { p with roll := some x }
  | .sizeVariation, x => { p with sizeVariation := some x }
  | .colorVariation, x => { p with colorVariation := some x }
  | .motionVariation, x => { p with motionVariation := some x }
  | .material, x => { p with material := some x }
  | .color, x => { p with color := some x }

/-- A value that has to be a number. -/
def numeric {α : Type} (k : Knob) (convert : Double → Except ConstantFault α) :
    SettingValue → Except ConstantFault α
  | .number x => convert x
  | .text _ => .error (.expectsNumber k.key)

/-- The position that a value stands for. -/
def convert (v : SettingValue) : (k : Knob) → Except ConstantFault k.Position
  | .amount => numeric .amount (whole "particle amount") v
  | .spreadX => numeric .spreadX single v
  | .spreadY => numeric .spreadY single v
  | .motionX => numeric .motionX single v
  | .motionY => numeric .motionY single v
  | .motionZ => numeric .motionZ single v
  | .size => numeric .size single v
  | .roll => numeric .roll single v
  | .sizeVariation => numeric .sizeVariation (percent "size variation") v
  | .colorVariation => numeric .colorVariation (percent "color variation") v
  | .motionVariation => numeric .motionVariation (percent "motion variation") v
  | .material =>
    match v with
    | .text s => .ok s
    | .number _ => .error (.expectsText "material")
  | .color => Script.color v

theorem key_inj {k k' : Knob} (h : k.key = k'.key) : k = k' := by
  cases k <;> cases k' <;> simp_all [key]

theorem exists_key_eq {key : String} {form : SettingForm} (h : settingForm? key = some form) :
    ∃ k : Knob, k.key = key := by
  simp only [settingForm?] at h
  split at h
  · exact ⟨.material, rfl⟩
  · exact ⟨.color, rfl⟩
  · exact ⟨.amount, rfl⟩
  · exact ⟨.spreadX, rfl⟩
  · exact ⟨.spreadY, rfl⟩
  · exact ⟨.motionX, rfl⟩
  · exact ⟨.motionY, rfl⟩
  · exact ⟨.motionZ, rfl⟩
  · exact ⟨.size, rfl⟩
  · exact ⟨.roll, rfl⟩
  · exact ⟨.sizeVariation, rfl⟩
  · exact ⟨.colorVariation, rfl⟩
  · exact ⟨.motionVariation, rfl⟩
  · cases h

section

variable {p q : Particle} {k : Knob}

theorem applySetting_key (p : Particle) (k : Knob) (v : SettingValue) :
    applySetting p k.key v = (k.convert v).map (k.turn p) := by
  cases k <;> cases v <;> rfl

theorem name_turn (x : k.Position) : (k.turn p x).name = p.name := by
  cases k <;> rfl

theorem position?_turn (x : k.Position) : k.position? (k.turn p x) = some x := by
  cases k <;> rfl

/-- No other knob moves. -/
theorem position?_turn_of_ne {k' : Knob} (h : k' ≠ k) (x : k.Position) :
    k'.position? (k.turn p x) = k'.position? p := by
  cases k <;> cases k' <;> trivial

/-- A particle is known from its name and its knobs. -/
theorem eq_of_position? (hname : p.name = q.name)
    (h : ∀ k : Knob, k.position? p = k.position? q) : p = q := by
  rw [Particle.mk.injEq]
  exact ⟨hname, Option.some.inj (h .amount), Option.some.inj (h .spreadX),
    Option.some.inj (h .spreadY), h .motionX, h .motionY, h .motionZ, h .size, h .roll,
    h .sizeVariation, h .colorVariation, h .motionVariation, h .material, h .color⟩

end

end Knob

/-! ## Settings in a row -/

/-- The settings with the given key. -/
def withKey (key : String) (settings : List Setting) : List Setting :=
  settings.filter fun s => s.name.name = key

/-- The value of the last setting with the given key. -/
def lastValue? (key : String) (settings : List Setting) : Option SettingValue :=
  (withKey key settings).getLast?.map Setting.value

/-- The same settings in another order, in which those with one key keep theirs. -/
def Reordered (settings settings' : List Setting) : Prop :=
  ∀ key, withKey key settings = withKey key settings'

/-- The knob stands where the last setting with its key puts it, or as on a new particle when there
is none. -/
def Knob.StandsAfter (k : Knob) (settings : List Setting) (p : Particle) : Prop :=
  match lastValue? k.key settings with
  | some v => ∃ x, k.convert v = .ok x ∧ k.position? p = some x
  | none => k.position? p = k.position? { name := p.name }

section

variable {name : String} {settings settings' : List Setting} {p q : Particle}

theorem lastValue?_concat (key : String) (before : List Setting) (x : Setting) :
    lastValue? key (before ++ [x]) =
      if x.name.name = key then some x.value else lastValue? key before := by
  by_cases h : x.name.name = key <;> simp [lastValue?, withKey, h]

theorem applySetting_eq_ok_iff {key : String} {v : SettingValue} :
    applySetting p key v = .ok q ↔
      ∃ k : Knob, k.key = key ∧ ∃ x, k.convert v = .ok x ∧ q = k.turn p x := by
  constructor
  · intro h
    obtain ⟨form, hform, -⟩ := succeeds_applySetting.mp ⟨q, h⟩
    obtain ⟨k, rfl⟩ := Knob.exists_key_eq hform
    rw [Knob.applySetting_key] at h
    obtain ⟨x, hx, hq⟩ := map_eq_ok h
    exact ⟨k, rfl, x, hx, hq.symm⟩
  · rintro ⟨k, rfl, x, hx, rfl⟩
    rw [Knob.applySetting_key, hx]
    rfl

/-- One more setting turns the knob of its key. -/
theorem Knob.StandsAfter.turn {k k' : Knob} {x : Setting} {y : k.Position}
    (h : k'.StandsAfter settings p) (hkey : k.key = x.name.name) (hy : k.convert x.value = .ok y) :
    k'.StandsAfter (settings ++ [x]) (k.turn p y) := by
  rw [StandsAfter, lastValue?_concat]
  by_cases hk : k' = k
  · subst hk
    rw [if_pos hkey.symm]
    exact ⟨y, hy, position?_turn y⟩
  · have hne : x.name.name ≠ k'.key := by
      intro heq
      exact hk (key_inj (heq.symm.trans hkey.symm))
    rw [if_neg hne, position?_turn_of_ne hk, name_turn]
    exact h

theorem stands_of_particle (h : particle name settings = .ok p) :
    p.name = name ∧ ∀ k : Knob, k.StandsAfter settings p := by
  induction settings using List.reverseRecOn generalizing p with
  | nil =>
    cases h
    exact ⟨rfl, fun k => rfl⟩
  | append_singleton before x ih =>
    obtain ⟨p', hbefore, -⟩ := bind_eq_ok (List.foldlM_append.symm.trans h)
    obtain ⟨k, hkey, y, hy, rfl⟩ :=
      applySetting_eq_ok_iff.mp ((particle_concat_eq_ok_iff hbefore).mp h)
    obtain ⟨hname, hstands⟩ := ih hbefore
    exact ⟨(Knob.name_turn y).trans hname, fun k' => (hstands k').turn hkey hy⟩

/-- The last settings of the keys leave one position for every knob. -/
theorem Knob.StandsAfter.position?_eq {k : Knob} (hp : k.StandsAfter settings p)
    (hq : k.StandsAfter settings q) (hname : p.name = q.name) : k.position? p = k.position? q := by
  rw [StandsAfter] at hp hq
  cases hlast : lastValue? k.key settings with
  | none =>
    rw [hlast] at hp hq
    rw [hp, hq, hname]
  | some v =>
    rw [hlast] at hp hq
    obtain ⟨x, hx, hpx⟩ := hp
    obtain ⟨y, hy, hqy⟩ := hq
    cases hx.symm.trans hy
    rw [hpx, hqy]

theorem particle_eq_ok_iff : particle name settings = .ok p ↔
    (∀ s ∈ settings, s.Valid) ∧ p.name = name ∧ ∀ k : Knob, k.StandsAfter settings p := by
  constructor
  · intro h
    exact ⟨succeeds_particle.mp ⟨p, h⟩, stands_of_particle h⟩
  · rintro ⟨hvalid, hname, hstands⟩
    obtain ⟨q, hq⟩ := succeeds_particle.mpr hvalid
    obtain ⟨hname', hstands'⟩ := stands_of_particle hq
    have hsame : p.name = q.name := hname.trans hname'.symm
    obtain rfl : p = q :=
      Knob.eq_of_position? hsame fun k => (hstands k).position?_eq (hstands' k) hsame
    exact hq

/-- Two neighbours with different keys may change places. -/
theorem reordered_swap {s t : Setting} (h : s.name.name ≠ t.name.name)
    (before after : List Setting) :
    Reordered (before ++ s :: t :: after) (before ++ t :: s :: after) := by
  intro key
  by_cases hs : s.name.name = key
  · have ht : t.name.name ≠ key := fun ht => h (hs.trans ht.symm)
    simp [withKey, hs, ht]
  · simp [withKey, List.filter_cons, hs]

theorem Reordered.mem_iff (h : Reordered settings settings') (s : Setting) :
    s ∈ settings ↔ s ∈ settings' := by
  have hkey : ∀ l : List Setting, s ∈ l ↔ s ∈ withKey s.name.name l := by
    intro l
    simp [withKey]
  rw [hkey settings, hkey settings', h]

theorem Reordered.standsAfter_iff (h : Reordered settings settings') (k : Knob) :
    k.StandsAfter settings p ↔ k.StandsAfter settings' p := by
  rw [Knob.StandsAfter, Knob.StandsAfter, lastValue?, lastValue?, h]

end

end Script

/-- **Particles.** Settings are accepted if and only if each of them is valid for its key. The
particle then has its name, and every knob stands where the last setting with its key puts it, or as
on a new particle. Settings with different keys may be mixed in any way. -/
theorem particle_turns_knobs (name : String) (settings : List Setting) :
    (Succeeds (particle name settings) ↔ ∀ s ∈ settings, s.Valid) ∧
      (∀ p, particle name settings = .ok p ↔ (∀ s ∈ settings, s.Valid) ∧ p.name = name ∧
        ∀ k : Knob, k.StandsAfter settings p) ∧
      ∀ settings', Reordered settings settings' → ∀ p,
        particle name settings' = .ok p ↔ particle name settings = .ok p := by
  refine ⟨succeeds_particle, fun p => particle_eq_ok_iff, ?_⟩
  intro settings' hreordered p
  rw [particle_eq_ok_iff, particle_eq_ok_iff]
  simp only [hreordered.mem_iff, hreordered.standsAfter_iff]

namespace Sample

def numbered (key : String) (n : Int) : Setting := ⟨⟨key, .unknown⟩, .number (.ofInt n)⟩

/-- A burst whose amount is set twice, with a color between. -/
def burst : List Setting :=
  [numbered "amount" 5, colored "#fF8000", numbered "amount" 7, numbered "size_variation" 10]

theorem particle_burst : particle "Dust" burst =
    .ok { name := "Dust", amount := 7, sizeVariation := some 10, color := some 0xFF8000 } := by
  decide +kernel

end Sample

/-- The second amount counts, also when it stands in front of the color. -/
theorem particle_turns_knobs_burst :
    Reordered Sample.burst [Sample.numbered "amount" 5, Sample.numbered "amount" 7,
        Sample.colored "#fF8000", Sample.numbered "size_variation" 10] ∧
      particle "Dust" [Sample.numbered "amount" 5, Sample.numbered "amount" 7,
        Sample.colored "#fF8000", Sample.numbered "size_variation" 10] =
          .ok { name := "Dust", amount := 7, sizeVariation := some 10, color := some 0xFF8000 } := by
  have hswap := reordered_swap (s := Sample.colored "#fF8000") (t := Sample.numbered "amount" 7)
    (by decide) [Sample.numbered "amount" 5] [Sample.numbered "size_variation" 10]
  exact ⟨hswap, ((particle_turns_knobs "Dust" Sample.burst).2.2 _ hswap _).mpr
    Sample.particle_burst⟩

end Plotline
