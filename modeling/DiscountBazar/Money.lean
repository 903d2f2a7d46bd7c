/-
Money (`utils/money.js`).

The backend keeps amounts as JS numbers of rupees and computes them in paise: every
stored amount went through `roundCurrency`, so it is a whole number of paise. Here
a JS number is a rational (no `NaN`, no binary rounding) and a stored amount is its
paise count, an integer; `fromPaise` reads it back as rupees. The lemmas say that
rounding changes nothing on stored amounts, which is how every later proof leaves
the rationals at once.
-/
import Mathlib.Data.Rat.Floor

namespace DiscountBazar

open Int

/-- `Math.round`: to the nearest integer, halves upwards. -/
def mathRound (x : ℚ) : ℤ := ⌊x + 1 / 2⌋

def toPaise (value : ℚ) : ℤ := mathRound (value * 100)

/-- `fromPaise`: the rupee figure a stored amount is read as. -/
def fromPaise (paise : ℤ) : ℚ := paise / 100

/-- `roundCurrency`, with the result kept in paise. -/
def roundCurrency (value : ℚ) : ℤ := toPaise value

/-- `addMoney` of two values: paise are added, not rupees. -/
def addMoney (a b : ℚ) : ℤ := toPaise a + toPaise b

/-- `Number.MAX_SAFE_INTEGER`, the default upper end of `clampMoney`. -/
def MAX_SAFE_INTEGER : ℚ := 2 ^ 53 - 1

/-- `clampMoney` with its default `max`. -/
def clampMoney (value min : ℚ) : ℤ :=
  roundCurrency (Min.min (Max.max value min) MAX_SAFE_INTEGER)

def maxPaise : ℤ := (2 ^ 53 - 1) * 100

/-- `a || b` on amounts. -/
def orAmount (a b : ℤ) : ℤ := if a ≠ 0 then a else b

/-! ## Stored amounts are fixed by rounding -/

@[simp] theorem fromPaise_zero : fromPaise 0 = 0 := by simp [fromPaise]

theorem fromPaise_add (p q : ℤ) : fromPaise (p + q) = fromPaise p + fromPaise q := by
  simp only [fromPaise]
  push_cast
  ring

theorem fromPaise_sub (p q : ℤ) : fromPaise (p - q) = fromPaise p - fromPaise q := by
  simp only [fromPaise]
  push_cast
  ring

theorem fromPaise_neg (p : ℤ) : fromPaise (-p) = -fromPaise p := by
  simp only [fromPaise]
  push_cast
  ring

theorem fromPaise_le {p q : ℤ} : fromPaise p ≤ fromPaise q ↔ p ≤ q := by
  simp only [fromPaise]
  rw [div_le_div_iff_of_pos_right (by norm_num), cast_le]

theorem fromPaise_lt {p q : ℤ} : fromPaise p < fromPaise q ↔ p < q := by
  rw [← not_le, ← not_le, fromPaise_le]

theorem fromPaise_max (p q : ℤ) : fromPaise (max p q) = max (fromPaise p) (fromPaise q) := by
  rcases le_total p q with h | h
  · rw [max_eq_right h, max_eq_right (fromPaise_le.mpr h)]
  · rw [max_eq_left h, max_eq_left (fromPaise_le.mpr h)]

theorem fromPaise_min (p q : ℤ) : fromPaise (min p q) = min (fromPaise p) (fromPaise q) := by
  rcases le_total p q with h | h
  · rw [min_eq_left h, min_eq_left (fromPaise_le.mpr h)]
  · rw [min_eq_right h, min_eq_right (fromPaise_le.mpr h)]

theorem fromPaise_maxPaise : fromPaise maxPaise = MAX_SAFE_INTEGER := by
  norm_num [fromPaise, maxPaise, MAX_SAFE_INTEGER]

theorem roundCurrency_fromPaise_add (p : ℤ) (x : ℚ) :
    roundCurrency (fromPaise p + x) = p + roundCurrency x := by
  have h : (fromPaise p + x) * 100 + 1 / 2 = (p : ℚ) + (x * 100 + 1 / 2) := by
    simp only [fromPaise]
    ring
  simp only [roundCurrency, toPaise, mathRound, h]
  exact floor_intCast_add p _

@[simp] theorem roundCurrency_zero : roundCurrency 0 = 0 := by
  norm_num [roundCurrency, toPaise, mathRound]

@[simp] theorem roundCurrency_fromPaise (p : ℤ) : roundCurrency (fromPaise p) = p := by
  have h := roundCurrency_fromPaise_add p 0
  rwa [add_zero, roundCurrency_zero, add_zero] at h

@[simp] theorem toPaise_fromPaise (p : ℤ) : toPaise (fromPaise p) = p :=
  roundCurrency_fromPaise p

@[simp] theorem roundCurrency_add (p q : ℤ) :
    roundCurrency (fromPaise p + fromPaise q) = p + q := by
  rw [← fromPaise_add, roundCurrency_fromPaise]

@[simp] theorem roundCurrency_sub (p q : ℤ) :
    roundCurrency (fromPaise p - fromPaise q) = p - q := by
  rw [← fromPaise_sub, roundCurrency_fromPaise]

@[simp] theorem roundCurrency_add_sub (p q r : ℤ) :
    roundCurrency (fromPaise p + fromPaise q - fromPaise r) = p + q - r := by
  rw [← fromPaise_add, roundCurrency_sub]

@[simp] theorem roundCurrency_sub_clamped (p q : ℤ) :
    roundCurrency (max (fromPaise p - fromPaise q) 0) = max (p - q) 0 := by
  rw [← fromPaise_sub, ← fromPaise_zero, ← fromPaise_max, roundCurrency_fromPaise]

@[simp] theorem addMoney_fromPaise (p q : ℤ) :
    addMoney (fromPaise p) (fromPaise q) = p + q := by
  simp only [addMoney, toPaise_fromPaise]

@[simp] theorem clampMoney_add (p q : ℤ) :
    clampMoney (fromPaise p + fromPaise q) 0 = min (max (p + q) 0) maxPaise := by
  rw [clampMoney, ← fromPaise_add, ← fromPaise_zero, ← fromPaise_max, ← fromPaise_maxPaise,
    ← fromPaise_min, roundCurrency_fromPaise]

theorem roundCurrency_mono {x y : ℚ} (h : x ≤ y) : roundCurrency x ≤ roundCurrency y := by
  simp only [roundCurrency, toPaise, mathRound]
  exact floor_le_floor (by linarith)

theorem roundCurrency_pos_of_min {x : ℚ} (h : 1 / 100 ≤ x) : 0 < roundCurrency x := by
  have h1 : roundCurrency (fromPaise 1) ≤ roundCurrency x :=
    roundCurrency_mono (by simpa [fromPaise] using h)
  rw [roundCurrency_fromPaise] at h1
  omega

/-! ## Signs and bounds -/

theorem mathRound_nonneg {x : ℚ} (h : 0 ≤ x) : 0 ≤ mathRound x := by
  unfold mathRound
  exact floor_nonneg.mpr (by linarith)

theorem mathRound_le {x : ℚ} {n : ℤ} (h : x ≤ n) : mathRound x ≤ n := by
  unfold mathRound
  have hlt : x + 1 / 2 < n + 1 := by linarith
  have := floor_lt.mpr (by exact_mod_cast hlt : x + 1 / 2 < ((n + 1 : ℤ) : ℚ))
  omega

theorem roundCurrency_nonneg {x : ℚ} (h : 0 ≤ x) : 0 ≤ roundCurrency x := by
  have hmono := roundCurrency_mono h
  rwa [roundCurrency_zero] at hmono

theorem fromPaise_nonneg {p : ℤ} (h : 0 ≤ p) : 0 ≤ fromPaise p := by
  have hle := fromPaise_le.mpr h
  rwa [fromPaise_zero] at hle

theorem fromPaise_inj {p q : ℤ} : fromPaise p = fromPaise q ↔ p = q := by
  constructor
  · intro h
    have hround := congrArg roundCurrency h
    rwa [roundCurrency_fromPaise, roundCurrency_fromPaise] at hround
  · exact congrArg fromPaise

/-! ## The payout service's own rounding -/

/-- `Number.EPSILON`. -/
def EPSILON : ℚ := 1 / 2 ^ 52

/-- The `roundCurrency` that `payoutService.js` defines for itself. -/
def payoutRoundCurrency (num : ℚ) : ℤ := mathRound ((num + EPSILON) * 100)

/-- On a stored amount plus any number it rounds as the shared helper's does: the
stored part comes out whole. -/
theorem payoutRoundCurrency_fromPaise_add (p : ℤ) (x : ℚ) :
    payoutRoundCurrency (fromPaise p + x) = p + payoutRoundCurrency x := by
  have h : (fromPaise p + x + EPSILON) * 100 + 1 / 2
      = (p : ℚ) + ((x + EPSILON) * 100 + 1 / 2) := by
    simp only [fromPaise]
    ring
  simp only [payoutRoundCurrency, mathRound, h]
  exact floor_intCast_add p _

@[simp] theorem payoutRoundCurrency_zero : payoutRoundCurrency 0 = 0 := by
  norm_num [payoutRoundCurrency, mathRound, EPSILON]

@[simp] theorem payoutRoundCurrency_fromPaise (p : ℤ) :
    payoutRoundCurrency (fromPaise p) = p := by
  have h := payoutRoundCurrency_fromPaise_add p 0
  rwa [add_zero, payoutRoundCurrency_zero, add_zero] at h

@[simp] theorem payoutRoundCurrency_add (p q : ℤ) :
    payoutRoundCurrency (fromPaise p + fromPaise q) = p + q := by
  rw [← fromPaise_add, payoutRoundCurrency_fromPaise]

@[simp] theorem payoutRoundCurrency_sub_clamped (p q : ℤ) :
    payoutRoundCurrency (max (fromPaise p - fromPaise q) 0) = max (p - q) 0 := by
  rw [← fromPaise_sub, ← fromPaise_zero, ← fromPaise_max, payoutRoundCurrency_fromPaise]

@[simp] theorem payoutRoundCurrency_clamped_sub (p q : ℤ) :
    payoutRoundCurrency (max 0 (fromPaise p - fromPaise q)) = max 0 (p - q) := by
  rw [max_comm, payoutRoundCurrency_sub_clamped, max_comm]

theorem payoutRoundCurrency_nonneg {x : ℚ} (h : 0 ≤ x) : 0 ≤ payoutRoundCurrency x := by
  have h0 : (0 : ℚ) ≤ (x + EPSILON) * 100 + 1 / 2 := by
    have : (0 : ℚ) ≤ EPSILON := by norm_num [EPSILON]
    nlinarith
  exact floor_nonneg.mpr h0

end DiscountBazar
