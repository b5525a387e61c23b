import Mathlib.Algebra.Order.Field.Basic
import Mathlib.Algebra.Order.Ring.Abs
import Mathlib.Data.Rat.Cast.Order
import Mathlib.Tactic.FieldSimp
import Mathlib.Tactic.LinearCombination
import Mathlib.Tactic.NormNum
import Mathlib.Tactic.Positivity
import Mathlib.Tactic.Qify
import ScanBinder.Proofs.Rounding

/-!
# How far rounding goes

A positive quotient is rounded on a grid that fits its size. From half a step of the grid follow
the relative error of a result, the quotients that are not changed, and the limit from which on
a quotient is rounded to infinity.
-/

namespace ScanBinder.Proofs

/-! ## Halves -/

section
variable {num den : Nat}

/-- Rounding to a natural number goes at most half a step. -/
lemma roundEven_error (num : Nat) (hden : 0 < den) :
    2 * num ≤ 2 * (roundEven num den * den) + den ∧
      2 * (roundEven num den * den) ≤ 2 * num + den := by
  have hdiv : den * (num / den) + num % den = num := Nat.div_add_mod num den
  have hmod : num % den < den := Nat.mod_lt _ hden
  unfold roundEven
  dsimp only
  generalize num / den = q at *
  generalize num % den = r at *
  subst hdiv
  split_ifs with hsmall hhalf
  · rw [Nat.mul_comm q den]
    omega
  · rcases Nat.mod_two_eq_zero_or_one q with hq | hq
    · rw [hq, Nat.add_zero, Nat.mul_comm q den]
      omega
    · rw [hq, Nat.add_mul, Nat.one_mul, Nat.mul_comm q den]
      omega
  · rw [Nat.add_mul, Nat.one_mul, Nat.mul_comm q den]
    omega

lemma le_roundEven {n : Nat} (hden : 0 < den) (h : n * den ≤ num) : n ≤ roundEven num den := by
  have herror := (roundEven_error num hden).1
  by_contra hlt
  have hmul : (roundEven num den + 1) * den ≤ n * den := Nat.mul_le_mul_right den (by omega)
  rw [Nat.add_mul, Nat.one_mul] at hmul
  omega

lemma roundEven_le {n : Nat} (hden : 0 < den) (h : num ≤ n * den) : roundEven num den ≤ n := by
  have herror := (roundEven_error num hden).2
  by_contra hlt
  have hmul : (n + 1) * den ≤ roundEven num den * den := Nat.mul_le_mul_right den (by omega)
  rw [Nat.add_mul, Nat.one_mul] at hmul
  omega

/-- What is rounded to less than an even number. Half a step below it the tie goes up. -/
lemma roundEven_lt_iff {n : Nat} (hden : 0 < den) (hn : n % 2 = 0) :
    roundEven num den < n ↔ 2 * num + den < 2 * (n * den) := by
  obtain ⟨hlow, hhigh⟩ := roundEven_error num hden
  constructor
  · intro hlt
    have hmul : (roundEven num den + 1) * den ≤ n * den := Nat.mul_le_mul_right den (by omega)
    rw [Nat.add_mul, Nat.one_mul] at hmul
    by_contra hle
    have htie : roundEven num den = n := roundEven_eq hden (by omega) (by omega) (fun _ => hn)
    omega
  · intro hlt
    by_contra hle
    have hmul : n * den ≤ roundEven num den * den := Nat.mul_le_mul_right den (by omega)
    omega

lemma roundEven_mul_left {k : Nat} (hk : 0 < k) :
    roundEven (k * num) (k * den) = roundEven num den := by
  unfold roundEven
  dsimp only
  rw [Nat.mul_div_mul_left _ _ hk, Nat.mul_mod_mul_left]
  have hsmall : 2 * (k * (num % den)) < k * den ↔ 2 * (num % den) < den := by
    rw [Nat.mul_left_comm, Nat.mul_lt_mul_left hk]
  have hhalf : 2 * (k * (num % den)) = k * den ↔ 2 * (num % den) = den := by
    rw [Nat.mul_left_comm, Nat.mul_right_inj (Nat.pos_iff_ne_zero.mp hk)]
  simp only [hsmall, hhalf]

end

/-! ## The grid -/

/-- The grid of step `2 ^ t` fits the quotient, which is `m` steps to the nearest. -/
structure Grid (f : BinaryFormat) (num den t m : Nat) : Prop where
  upper : num * 2 ^ f.depth < den * 2 ^ (t + f.fracBits + 1)
  lower : t = 0 ∨ den * 2 ^ (t + f.fracBits) ≤ num * 2 ^ f.depth
  steps : m = roundEven (num * 2 ^ f.depth) (den * 2 ^ t)
  nearest : f.nearest num den = min f.infinity (t * 2 ^ f.fracBits + m)

section
variable {f : BinaryFormat} {num den t m : Nat}

lemma exists_grid (f : BinaryFormat) (hnum : 0 < num) (hden : 0 < den) :
    ∃ t m, Grid f num den t m := by
  obtain ⟨hupper, hlower⟩ := shift_spec f hnum hden
  exact ⟨_, _, hupper, hlower, rfl, nearest_eq hnum hden hupper hlower⟩

lemma Grid.le (h : Grid f num den t m) (hden : 0 < den) : m ≤ 2 ^ (f.fracBits + 1) := by
  rw [h.steps]
  refine roundEven_le (Nat.mul_pos hden (Nat.two_pow_pos t)) (Nat.le_of_lt ?_)
  have hupper := h.upper
  rwa [show den * 2 ^ (t + f.fracBits + 1) = 2 ^ (f.fracBits + 1) * (den * 2 ^ t) by ring] at hupper

lemma Grid.ge (h : Grid f num den t m) (hden : 0 < den) : t = 0 ∨ 2 ^ f.fracBits ≤ m := by
  rcases h.lower with ht | hlower
  · exact .inl ht
  · rw [show den * 2 ^ (t + f.fracBits) = 2 ^ f.fracBits * (den * 2 ^ t) by ring] at hlower
    rw [h.steps]
    exact .inr (le_roundEven (Nat.mul_pos hden (Nat.two_pow_pos t)) hlower)

/-- The units of a number that lies on a grid. -/
lemma units_of_grid {x : Binary f} (hx : x.magnitude = t * 2 ^ f.fracBits + m)
    (hle : m ≤ 2 ^ (f.fracBits + 1)) (hge : t = 0 ∨ 2 ^ f.fracBits ≤ m) :
    x.units = m * 2 ^ t := by
  have hpow := Nat.two_pow_pos f.fracBits
  unfold Binary.units Binary.significand Binary.step
  simp only [Nat.pow_eq, hx]
  rw [Nat.pow_succ] at hle
  generalize hP : 2 ^ f.fracBits = P at *
  by_cases hsmall : m < P
  · obtain rfl : t = 0 := by omega
    rw [Nat.zero_mul, Nat.zero_add, if_pos hsmall, Nat.div_eq_of_lt hsmall]
  · by_cases hcarry : m = P * 2
    · subst hcarry
      rw [show t * P + P * 2 = P * (t + 2) by ring, if_neg (by nlinarith), Nat.mul_mod_right,
        Nat.mul_div_cancel_left _ hpow, Nat.zero_add, show t + 2 - 1 = t + 1 by omega]
      ring
    · obtain ⟨r, rfl⟩ := Nat.exists_eq_add_of_le (Nat.not_lt.mp hsmall)
      have hr : r < P := by omega
      rw [show t * P + (P + r) = r + P * (t + 1) by ring, if_neg (by nlinarith),
        Nat.add_mul_mod_self_left, Nat.mod_eq_of_lt hr, Nat.add_mul_div_left _ _ hpow,
        Nat.div_eq_of_lt hr, Nat.zero_add, Nat.add_sub_cancel, Nat.add_comm r P]

lemma Grid.units (h : Grid f num den t m) (hden : 0 < den) (negative : Bool)
    (hfinite : f.nearest num den < f.infinity) :
    (Binary.ofRatio f negative num den).units = m * 2 ^ t := by
  have hmag : f.nearest num den = t * 2 ^ f.fracBits + m := by
    have hmin := h.nearest
    omega
  exact units_of_grid hmag (h.le hden) (h.ge hden)

end

/-! ## Errors and limits -/

/-- The size of a finite number. -/
def absValue {f : BinaryFormat} (x : Binary f) : ℚ :=
  x.units / 2 ^ f.depth

/-- The least quotient that is rounded to infinity: half a step above the largest finite number. -/
def roundingLimit (f : BinaryFormat) : ℚ :=
  2 ^ (2 ^ f.expBits - 3) * (2 ^ (f.fracBits + 2) - 1) / 2 ^ (f.depth + 1)

section
variable {f : BinaryFormat} {num den t m : Nat}

/-- On the last grid of the format the quotients that stay finite end half a step below the next
power of two, and that tie goes up. -/
lemma Grid.nearest_lt_iff (h : Grid f num den t m) (hden : 0 < den) (hexp : 2 ≤ f.expBits) :
    f.nearest num den < f.infinity ↔
      2 * (num * 2 ^ f.depth) + den * 2 ^ (2 ^ f.expBits - 3) <
        2 * (2 ^ (f.fracBits + 1) * (den * 2 ^ (2 ^ f.expBits - 3))) := by
  have hfour : 2 ^ 2 ≤ 2 ^ f.expBits := Nat.pow_le_pow_right (by decide) hexp
  have hle := h.le hden
  have hge := h.ge hden
  have hinf : f.infinity = (2 ^ f.expBits - 3) * 2 ^ f.fracBits + 2 * 2 ^ f.fracBits := by
    rw [← Nat.add_mul, show 2 ^ f.expBits - 3 + 2 = 2 ^ f.expBits - 1 by omega]
    rfl
  have hupper := h.upper
  have hlower := h.lower
  rw [h.nearest]
  generalize 2 ^ f.expBits - 3 = last at *
  rw [Nat.pow_succ] at hle
  have hpow := Nat.two_pow_pos f.fracBits
  rcases Nat.lt_trichotomy t last with hlt | rfl | hgt
  · have hsteps : (t + 1) * 2 ^ f.fracBits ≤ last * 2 ^ f.fracBits := Nat.mul_le_mul_right _ hlt
    have hgrid : den * 2 ^ (t + f.fracBits + 1) ≤ 2 ^ f.fracBits * (den * 2 ^ last) := by
      calc den * 2 ^ (t + f.fracBits + 1) = 2 ^ f.fracBits * (den * 2 ^ (t + 1)) := by ring
        _ ≤ 2 ^ f.fracBits * (den * 2 ^ last) :=
          Nat.mul_le_mul_left _ (Nat.mul_le_mul_left _ (Nat.pow_le_pow_right (by decide) hlt))
    have hstep : den * 2 ^ last ≤ 2 ^ f.fracBits * (den * 2 ^ last) :=
      Nat.le_mul_of_pos_left _ hpow
    rw [Nat.pow_succ, Nat.mul_right_comm]
    rw [Nat.add_mul, Nat.one_mul] at hsteps
    refine iff_of_true ?_ ?_ <;> omega
  · rw [← roundEven_lt_iff (Nat.mul_pos hden (Nat.two_pow_pos t)) (by rw [Nat.pow_succ]; omega),
      ← h.steps, Nat.pow_succ]
    omega
  · have hsteps : (last + 1) * 2 ^ f.fracBits ≤ t * 2 ^ f.fracBits := Nat.mul_le_mul_right _ hgt
    have hgrid : 2 ^ (f.fracBits + 1) * (den * 2 ^ last) ≤ den * 2 ^ (t + f.fracBits) := by
      calc 2 ^ (f.fracBits + 1) * (den * 2 ^ last) = 2 ^ f.fracBits * (den * 2 ^ (last + 1)) := by
            ring
        _ ≤ 2 ^ f.fracBits * (den * 2 ^ t) :=
          Nat.mul_le_mul_left _ (Nat.mul_le_mul_left _ (Nat.pow_le_pow_right (by decide) hgt))
        _ = den * 2 ^ (t + f.fracBits) := by ring
    rw [Nat.add_mul, Nat.one_mul] at hsteps
    refine iff_of_false ?_ ?_ <;> omega

lemma nearest_lt_infinity_iff (hexp : 2 ≤ f.expBits) (hnum : 0 < num) (hden : 0 < den) :
    f.nearest num den < f.infinity ↔ (num / den : ℚ) < roundingLimit f := by
  obtain ⟨t, m, hgrid⟩ := exists_grid f hnum hden
  have hdenq : (0 : ℚ) < den := by exact_mod_cast hden
  rw [hgrid.nearest_lt_iff hden hexp, roundingLimit, div_lt_div_iff₀ hdenq (by positivity)]
  qify
  constructor <;> intro h <;> linear_combination h

/-- A quotient of normal size keeps its first bits. -/
lemma absValue_ofRatio_error (hnum : 0 < num) (hden : 0 < den)
    (hfinite : f.nearest num den < f.infinity)
    (hnormal : (2 ^ f.fracBits / 2 ^ f.depth : ℚ) ≤ num / den) (negative : Bool) :
    |absValue (.ofRatio f negative num den) - num / den| ≤ num / den / 2 ^ (f.fracBits + 1) := by
  obtain ⟨t, m, hgrid⟩ := exists_grid f hnum hden
  have hdenq : (0 : ℚ) < den := by exact_mod_cast hden
  have hstep : (2 ^ f.fracBits * (den * 2 ^ t) : ℚ) ≤ num * 2 ^ f.depth := by
    rcases hgrid.lower with rfl | hlower
    · rw [div_le_div_iff₀ (by positivity) hdenq] at hnormal
      simpa using hnormal
    · qify at hlower
      calc (2 ^ f.fracBits * (den * 2 ^ t) : ℚ) = den * 2 ^ (t + f.fracBits) := by ring
        _ ≤ num * 2 ^ f.depth := hlower
  obtain ⟨hlow, hhigh⟩ := roundEven_error (num * 2 ^ f.depth)
    (Nat.mul_pos hden (Nat.two_pow_pos t))
  rw [← hgrid.steps] at hlow hhigh
  qify at hlow hhigh
  rw [absValue, hgrid.units hden negative hfinite]
  push_cast
  have hdiff : (m * 2 ^ t / 2 ^ f.depth - num / den : ℚ) =
      (m * (den * 2 ^ t) - num * 2 ^ f.depth) / (2 ^ f.depth * den) := by
    field_simp
  have hbound : (num / den / 2 ^ (f.fracBits + 1) : ℚ) =
      num * 2 ^ f.depth / 2 ^ (f.fracBits + 1) / (2 ^ f.depth * den) := by
    field_simp
  have hhalf : (den * 2 ^ t / 2 : ℚ) ≤ num * 2 ^ f.depth / 2 ^ (f.fracBits + 1) := by
    rw [div_le_div_iff₀ (by norm_num) (by positivity), pow_succ]
    linarith
  rw [hdiff, hbound, abs_div, abs_of_pos (show (0 : ℚ) < 2 ^ f.depth * den by positivity)]
  refine div_le_div_of_nonneg_right (abs_le.mpr ⟨?_, ?_⟩) (by positivity) <;> linarith

lemma nearest_pos (hnum : 0 < num) (hden : 0 < den) (hinf : 0 < f.infinity)
    (hunit : (1 / 2 ^ f.depth : ℚ) ≤ num / den) : 0 < f.nearest num den := by
  obtain ⟨t, m, hgrid⟩ := exists_grid f hnum hden
  rw [hgrid.nearest]
  rcases hgrid.ge hden with rfl | hge
  · have hdenq : (0 : ℚ) < den := by exact_mod_cast hden
    rw [div_le_div_iff₀ (by positivity) hdenq, one_mul] at hunit
    have hle : 1 * (den * 2 ^ 0) ≤ num * 2 ^ f.depth := by
      rw [one_mul, pow_zero, mul_one]
      exact_mod_cast hunit
    have hone := le_roundEven (Nat.mul_pos hden (Nat.two_pow_pos 0)) hle
    rw [← hgrid.steps] at hone
    omega
  · have hpow := Nat.two_pow_pos f.fracBits
    omega

lemma nearest_le_infinity (f : BinaryFormat) (num den : Nat) : f.nearest num den ≤ f.infinity := by
  unfold BinaryFormat.nearest
  split
  · exact Nat.zero_le _
  · exact Nat.min_le_left _ _

/-- A quotient whose units have few enough leading bits is not changed. -/
lemma units_ofRatio_of_exact {a s : Nat} (ha : 0 < a) (hbits : a < 2 ^ (f.fracBits + 1))
    (hden : 0 < den) (hexact : num * 2 ^ f.depth = a * 2 ^ s * den)
    (hfinite : f.nearest num den < f.infinity) (negative : Bool) :
    (Binary.ofRatio f negative num den).units = a * 2 ^ s := by
  have hnum : 0 < num := by
    rcases Nat.eq_zero_or_pos num with rfl | hpos
    · rw [Nat.zero_mul] at hexact
      exact absurd hexact.symm (by positivity)
    · exact hpos
  obtain ⟨t, m, hgrid⟩ := exists_grid f hnum hden
  have hts : t ≤ s := by
    rcases hgrid.lower with rfl | hlower
    · exact Nat.zero_le s
    · rw [hexact, Nat.mul_comm] at hlower
      have hlt : 2 ^ (t + f.fracBits) < 2 ^ (f.fracBits + 1 + s) :=
        calc 2 ^ (t + f.fracBits) ≤ a * 2 ^ s := Nat.le_of_mul_le_mul_right hlower hden
          _ < 2 ^ (f.fracBits + 1) * 2 ^ s := Nat.mul_lt_mul_of_pos_right hbits (by positivity)
          _ = 2 ^ (f.fracBits + 1 + s) := (Nat.pow_add ..).symm
      have := (Nat.pow_lt_pow_iff_right (by decide)).mp hlt
      omega
  obtain ⟨d, rfl⟩ := Nat.exists_eq_add_of_le hts
  have hden' : 0 < den * 2 ^ t := Nat.mul_pos hden (Nat.two_pow_pos t)
  have hsplit : num * 2 ^ f.depth = a * 2 ^ d * (den * 2 ^ t) := by
    rw [hexact]
    ring
  have hm : m = a * 2 ^ d := by
    rw [hgrid.steps, hsplit]
    exact Nat.le_antisymm (roundEven_le hden' le_rfl) (le_roundEven hden' le_rfl)
  rw [hgrid.units hden negative hfinite, hm]
  ring

lemma nearest_mul_left {k : Nat} (hk : 0 < k) (hnum : 0 < num) (hden : 0 < den) :
    f.nearest (k * num) (k * den) = f.nearest num den := by
  obtain ⟨t, m, hgrid⟩ := exists_grid f hnum hden
  have hupper : k * num * 2 ^ f.depth < k * den * 2 ^ (t + f.fracBits + 1) := by
    rw [Nat.mul_assoc, Nat.mul_assoc]
    exact Nat.mul_lt_mul_of_pos_left hgrid.upper hk
  have hlower : t = 0 ∨ k * den * 2 ^ (t + f.fracBits) ≤ k * num * 2 ^ f.depth := by
    rw [Nat.mul_assoc, Nat.mul_assoc]
    exact hgrid.lower.imp id (Nat.mul_le_mul_left k)
  rw [nearest_eq (Nat.mul_pos hk hnum) (Nat.mul_pos hk hden) hupper hlower, hgrid.nearest,
    hgrid.steps, Nat.mul_assoc, Nat.mul_assoc, roundEven_mul_left hk]

/-- Equal quotients are rounded alike. -/
lemma nearest_congr {num' den' : Nat} (hnum : 0 < num) (hden : 0 < den) (hnum' : 0 < num')
    (hden' : 0 < den') (h : num * den' = num' * den) : f.nearest num den = f.nearest num' den' :=
  calc f.nearest num den = f.nearest (den' * num) (den' * den) :=
        (nearest_mul_left hden' hnum hden).symm
    _ = f.nearest (den * num') (den * den') := by
        rw [Nat.mul_comm den' num, h, Nat.mul_comm num' den, Nat.mul_comm den' den]
    _ = f.nearest num' den' := nearest_mul_left hden hnum' hden'

end

/-! ## Operations on positive numbers -/

/-- A number that is finite and above zero. -/
structure IsPositive {f : BinaryFormat} (x : Binary f) : Prop where
  nonneg : x.negative = false
  pos : 0 < x.magnitude
  finite : x.magnitude < f.infinity

/-- A positive number that is as near to `q` as its bits allow. -/
structure Rounded {f : BinaryFormat} (q : ℚ) (x : Binary f) : Prop extends IsPositive x where
  error : |absValue x - q| ≤ q / 2 ^ (f.fracBits + 1)

/-- The quotients of normal size that are not rounded to infinity. -/
structure InRange (f : BinaryFormat) (q : ℚ) : Prop where
  normal : 2 ^ f.fracBits / 2 ^ f.depth ≤ q
  below : q < roundingLimit f

section
variable {f g : BinaryFormat} {x y : Binary f}

lemma Rounded.bounds {q : ℚ} (h : Rounded q x) :
    q - q / 2 ^ (f.fracBits + 1) ≤ absValue x ∧ absValue x ≤ q + q / 2 ^ (f.fracBits + 1) := by
  obtain ⟨hlow, hhigh⟩ := abs_le.mp h.error
  constructor
  · linarith
  · linarith

lemma IsPositive.units_pos (h : IsPositive x) : 0 < x.units :=
  Proofs.units_pos.mpr (decide_eq_false (Nat.pos_iff_ne_zero.mp h.pos))

lemma IsPositive.absValue_pos (h : IsPositive x) : 0 < absValue x :=
  div_pos (Nat.cast_pos.mpr h.units_pos) (by positivity)

lemma IsPositive.ne_special (h : IsPositive x) :
    x.isNaN = false ∧ x.isInfinite = false ∧ x.isZero = false := by
  have hpos := h.pos
  have hfinite := h.finite
  unfold Binary.isNaN Binary.isInfinite Binary.isZero
  refine ⟨decide_eq_false ?_, decide_eq_false ?_, decide_eq_false ?_⟩ <;> omega

lemma IsPositive.mul_eq (hx : IsPositive x) (hy : IsPositive y) :
    x * y = .ofRatio f false (x.units * y.units) (2 ^ (2 * f.depth)) := by
  obtain ⟨hxnan, hxinf, _⟩ := hx.ne_special
  obtain ⟨hynan, hyinf, _⟩ := hy.ne_special
  change x.mul y = _
  simp [Binary.mul, hxnan, hxinf, hynan, hyinf, hx.nonneg, hy.nonneg]

lemma IsPositive.div_eq (hx : IsPositive x) (hy : IsPositive y) :
    x / y = .ofRatio f false x.units y.units := by
  obtain ⟨hxnan, hxinf, _⟩ := hx.ne_special
  obtain ⟨hynan, hyinf, hyzero⟩ := hy.ne_special
  change x.div y = _
  simp [Binary.div, hxnan, hxinf, hynan, hyinf, hyzero, hx.nonneg, hy.nonneg]

lemma IsPositive.convert_eq (h : IsPositive x) (g : BinaryFormat) :
    x.convert g = .ofRatio g false x.units (2 ^ f.depth) := by
  obtain ⟨hnan, hinf, _⟩ := h.ne_special
  simp [Binary.convert, hnan, hinf, h.nonneg]

lemma infinity_pos (hexp : 2 ≤ f.expBits) : 0 < f.infinity := by
  have hfour : 2 ^ 2 ≤ 2 ^ f.expBits := Nat.pow_le_pow_right (by decide) hexp
  exact Nat.mul_pos (Nat.sub_pos_of_lt (show 1 < 2 ^ f.expBits by omega)) (Nat.two_pow_pos _)

lemma nearest_pos_of_normal {num den : Nat} (hexp : 2 ≤ f.expBits) (hnum : 0 < num)
    (hden : 0 < den) (hnormal : (2 ^ f.fracBits / 2 ^ f.depth : ℚ) ≤ num / den) :
    0 < f.nearest num den := by
  refine nearest_pos hnum hden (infinity_pos hexp) (le_trans ?_ hnormal)
  exact div_le_div_of_nonneg_right (one_le_pow₀ (by norm_num)) (by positivity)

lemma InRange.rounded {num den : Nat} {q : ℚ} (h : InRange f q) (hexp : 2 ≤ f.expBits)
    (hnum : 0 < num) (hden : 0 < den) (hq : (num / den : ℚ) = q) :
    Rounded q (.ofRatio f false num den) := by
  subst hq
  have hfinite := (nearest_lt_infinity_iff hexp hnum hden).mpr h.below
  exact ⟨⟨rfl, nearest_pos_of_normal hexp hnum hden h.normal, hfinite⟩,
    absValue_ofRatio_error hnum hden hfinite h.normal false⟩

lemma InRange.mul (hx : IsPositive x) (hy : IsPositive y) (hexp : 2 ≤ f.expBits)
    (h : InRange f (absValue x * absValue y)) : Rounded (absValue x * absValue y) (x * y) := by
  rw [hx.mul_eq hy]
  refine h.rounded hexp (Nat.mul_pos hx.units_pos hy.units_pos) (Nat.two_pow_pos _) ?_
  unfold absValue
  push_cast
  rw [Nat.mul_comm 2, pow_mul, sq, mul_div_mul_comm]

lemma InRange.div (hx : IsPositive x) (hy : IsPositive y) (hexp : 2 ≤ f.expBits)
    (h : InRange f (absValue x / absValue y)) : Rounded (absValue x / absValue y) (x / y) := by
  rw [hx.div_eq hy]
  refine h.rounded hexp hx.units_pos hy.units_pos ?_
  exact (div_div_div_cancel_right₀ (by positivity) _ _).symm

lemma absValue_eq_ratio (x : Binary f) : (x.units / (2 ^ f.depth : Nat) : ℚ) = absValue x := by
  rw [absValue]
  push_cast
  rfl

lemma InRange.convert (hx : IsPositive x) (hexp : 2 ≤ g.expBits) (h : InRange g (absValue x)) :
    Rounded (absValue x) (x.convert g) := by
  rw [hx.convert_eq]
  exact h.rounded hexp hx.units_pos (Nat.two_pow_pos _) (absValue_eq_ratio x)

lemma IsPositive.convert_isFinite_iff (h : IsPositive x) (hexp : 2 ≤ g.expBits) :
    (x.convert g).isFinite = true ↔ absValue x < roundingLimit g := by
  rw [h.convert_eq, ← absValue_eq_ratio, ← nearest_lt_infinity_iff hexp h.units_pos
    (Nat.two_pow_pos _)]
  exact decide_eq_true_iff

/-- A number of normal size stays above zero, though it may become infinite. -/
lemma IsPositive.convert_pos (h : IsPositive x) (hexp : 2 ≤ g.expBits)
    (hnormal : 2 ^ g.fracBits / 2 ^ g.depth ≤ absValue x) :
    (x.convert g).negative = false ∧ 0 < (x.convert g).magnitude ∧
      (x.convert g).magnitude ≤ g.infinity := by
  rw [← absValue_eq_ratio] at hnormal
  rw [h.convert_eq]
  exact ⟨rfl, nearest_pos_of_normal hexp h.units_pos (Nat.two_pow_pos _) hnormal,
    nearest_le_infinity g _ _⟩

/-- A number that another format can hold keeps its value there. -/
lemma Rounded.absValue_of_exact {num den a s : Nat} {q : ℚ} (ha : 0 < a)
    (hbits : a < 2 ^ (f.fracBits + 1)) (hden : 0 < den)
    (hexact : num * 2 ^ f.depth = a * 2 ^ s * den)
    (h : Rounded q (.ofRatio f false num den)) :
    absValue (.ofRatio f false num den) = (num / den : ℚ) := by
  have hdenq : (den : ℚ) ≠ 0 := Nat.cast_ne_zero.mpr (Nat.pos_iff_ne_zero.mp hden)
  rw [absValue, units_ofRatio_of_exact ha hbits hden hexact h.finite,
    div_eq_div_iff (by positivity) hdenq]
  exact_mod_cast hexact.symm

end

end ScanBinder.Proofs
