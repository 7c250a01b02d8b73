import Mathlib.Data.Finset.Basic
import Mathlib.Algebra.Order.Field.Rat
import Mathlib.Algebra.Order.Field.Basic
import Mathlib.Data.Rat.Floor
import Mathlib.Order.Interval.Finset.Fin

set_option autoImplicit false

/- The state every connection shares, the one configured value the handlers read, and the
   random draw of try_login. -/
namespace Pisshoff

-- Config is modelled by the one field the handlers read, access_probability, an f64.
-- A finite f64 is a rational, and `<=` between two f64 compares their exact values, so a
-- rational carries the comparison without rounding.
structure Config where
  accessProbability : ℚ

/-- Modelled from the spec: StoredPasswords, declared in state.rs, is the spec's
CredentialStore, the set of passwords accepted so far, shared by every connection, with no
eviction. -/
structure StoredPasswords where
  passwords : Finset String
deriving DecidableEq

/-- Modelled from the spec: `seen` is the CredentialStore's membership test. -/
def StoredPasswords.seen (stored : StoredPasswords) (password : String) : Bool :=
  decide (password ∈ stored.passwords)

/-- Modelled from the spec: `store` inserts into the CredentialStore; inserting a stored
password changes nothing. -/
def StoredPasswords.store (stored : StoredPasswords) (password : String) : StoredPasswords :=
  ⟨insert password stored.passwords⟩

/-- Modelled from the spec: State (state.rs) holds the CredentialStore, and State::default()
starts it empty. -/
structure State where
  previouslyAcceptedPasswords : StoredPasswords
deriving DecidableEq

def State.default : State := ⟨⟨∅⟩⟩

@[simp] theorem seen_iff (stored : StoredPasswords) (password : String) :
    stored.seen password = true ↔ password ∈ stored.passwords := by
  simp [StoredPasswords.seen]

@[simp] theorem store_passwords (stored : StoredPasswords) (password : String) :
    (stored.store password).passwords = insert password stored.passwords := rfl

@[simp] theorem default_passwords : State.default.previouslyAcceptedPasswords.passwords = ∅ :=
  rfl

-- fastrand::f64() computes 1.0 + k * 2^-52 - 1.0 for a uniform k < 2^52, which is exactly
-- k * 2^-52: the draw is its k.
abbrev Draw := Fin (2 ^ 52)

def Draw.value (draw : Draw) : ℚ := (draw.val : ℚ) / 2 ^ 52

-- fastrand::f64() <= bound between the exact values k * 2^-52 and num / den, compared as
-- integers.
def Draw.le (draw : Draw) (bound : ℚ) : Bool :=
  decide ((draw.val : ℤ) * bound.den ≤ bound.num * 2 ^ 52)

theorem draw_le_iff (draw : Draw) (bound : ℚ) : draw.le bound = true ↔ draw.value ≤ bound := by
  have den : (0 : ℚ) < bound.den := by exact_mod_cast bound.den_pos
  conv_rhs => rw [← Rat.num_div_den bound]
  rw [Draw.value, div_le_div_iff₀ (by norm_num) den, Draw.le, decide_eq_true_iff]
  exact_mod_cast Iff.rfl

theorem draw_value_nonneg (draw : Draw) : 0 ≤ draw.value :=
  div_nonneg (Nat.cast_nonneg _) (by norm_num)

theorem draw_value_lt_one (draw : Draw) : draw.value < 1 := by
  have bound : (draw.val : ℚ) < 2 ^ 52 := by exact_mod_cast draw.isLt
  unfold Draw.value
  rw [div_lt_one (by norm_num)]
  exact bound

theorem draw_value_eq_zero (draw : Draw) : draw.value = 0 ↔ draw = 0 := by
  simp [Draw.value, Fin.ext_iff]

theorem draw_le_iff_le_floor (draw : Draw) {bound : ℚ} (nonneg : 0 ≤ bound) :
    draw.le bound = true ↔ draw.val ≤ ⌊bound * 2 ^ 52⌋₊ := by
  rw [draw_le_iff, Draw.value, div_le_iff₀ (by norm_num),
    Nat.le_floor_iff (mul_nonneg nonneg (by norm_num))]

-- How many of the 2^52 values fastrand::f64() can return pass try_login's test against an
-- access_probability in [0, 1): one more than access_probability * 2^52 rounded down, so an
-- unseen password is accepted with chance (⌊p * 2^52⌋ + 1) / 2^52, not p.
theorem passing_draws_card (bound : ℚ) (nonneg : 0 ≤ bound) (below : bound < 1) :
    (Finset.univ.filter fun draw : Draw => draw.le bound = true).card =
      ⌊bound * 2 ^ 52⌋₊ + 1 := by
  have fits : ⌊bound * 2 ^ 52⌋₊ < 2 ^ 52 := by
    rw [Nat.floor_lt (mul_nonneg nonneg (by norm_num))]
    push_cast
    nlinarith
  have passing : (Finset.univ.filter fun draw : Draw => draw.le bound = true) =
      Finset.Iic ⟨⌊bound * 2 ^ 52⌋₊, fits⟩ := by
    ext draw
    simp [draw_le_iff_le_floor draw nonneg, Fin.le_def]
  rw [passing, Fin.card_Iic]

theorem passing_draws_card_zero :
    0 ≤ (0 : ℚ) ∧ (0 : ℚ) < 1 ∧
      (Finset.univ.filter fun draw : Draw => draw.le 0 = true).card = ⌊(0 : ℚ) * 2 ^ 52⌋₊ + 1 :=
  ⟨le_rfl, one_pos, passing_draws_card 0 le_rfl one_pos⟩

end Pisshoff
