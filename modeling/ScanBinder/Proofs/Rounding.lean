import Mathlib.Tactic.Linarith
import Mathlib.Tactic.Ring
import ScanBinder.Number.Decimal

/-!
# Rounding to the nearest number

Whatever lies in the rounding interval of a number is rounded to that number. The step of the
grid around a quotient is the one number that fits the size of the quotient; below a power of
two the grid is twice as fine, and what is rounded up there carries into the exponent.
-/

namespace ScanBinder.Proofs

/-! ## Halves -/

lemma roundEven_eq {num den q : Nat} (hden : 0 < den) (hlow : 2 * (q * den) ≤ 2 * num + den)
    (hhigh : 2 * num ≤ 2 * (q * den) + den)
    (htie : 2 * (q * den) = 2 * num + den ∨ 2 * num = 2 * (q * den) + den → q % 2 = 0) :
    roundEven num den = q := by
  have hdiv : den * (num / den) + num % den = num := Nat.div_add_mod num den
  have hmod : num % den < den := Nat.mod_lt _ hden
  unfold roundEven
  dsimp only
  generalize num / den = n at *
  generalize num % den = r at *
  subst hdiv
  -- the quotient is `n`, or one more
  have hle : q < n + 2 := by
    by_contra hq
    have hmul : (n + 2) * den ≤ q * den := Nat.mul_le_mul_right den (by omega)
    nlinarith
  have hge : n ≤ q := by
    by_contra hq
    have hmul : (q + 1) * den ≤ n * den := Nat.mul_le_mul_right den (by omega)
    nlinarith
  rcases Nat.lt_or_eq_of_le hge with hlt | rfl
  · obtain rfl : q = n + 1 := by omega
    have hnext : (n + 1) * den = den * n + den := by ring
    rw [hnext] at hlow hhigh htie
    rw [if_neg (by omega)]
    split_ifs with hhalf
    · have := htie (by omega)
      omega
    · rfl
  · have hsame : n * den = den * n := Nat.mul_comm n den
    rw [hsame] at hlow hhigh htie
    split_ifs with hsmall hhalf
    · rfl
    · have := htie (by omega)
      omega
    · omega

/-! ## The step of the grid -/

section
variable {num den : Nat}

lemma lt_scaled {j : Int} {d e : Nat} (h : num * 2 ^ (-j).toNat < den * 2 ^ j.toNat)
    (hle : j + d ≤ e) : num * 2 ^ d < den * 2 ^ e := by
  have hexp : j.toNat + d ≤ e + (-j).toNat := by omega
  have hmul : num * 2 ^ d * 2 ^ (-j).toNat < den * 2 ^ e * 2 ^ (-j).toNat :=
    calc num * 2 ^ d * 2 ^ (-j).toNat = num * 2 ^ (-j).toNat * 2 ^ d := by ring
      _ < den * 2 ^ j.toNat * 2 ^ d := Nat.mul_lt_mul_of_pos_right h (Nat.two_pow_pos d)
      _ = den * 2 ^ (j.toNat + d) := by ring
      _ ≤ den * 2 ^ (e + (-j).toNat) :=
        Nat.mul_le_mul_left den (Nat.pow_le_pow_right (by omega) hexp)
      _ = den * 2 ^ e * 2 ^ (-j).toNat := by ring
  exact Nat.lt_of_mul_lt_mul_right hmul

lemma le_scaled {j : Int} {d e : Nat} (h : den * 2 ^ j.toNat ≤ num * 2 ^ (-j).toNat)
    (hle : e ≤ j + d) : den * 2 ^ e ≤ num * 2 ^ d := by
  have hexp : e + (-j).toNat ≤ j.toNat + d := by omega
  have hmul : den * 2 ^ e * 2 ^ (-j).toNat ≤ num * 2 ^ d * 2 ^ (-j).toNat :=
    calc den * 2 ^ e * 2 ^ (-j).toNat = den * 2 ^ (e + (-j).toNat) := by ring
      _ ≤ den * 2 ^ (j.toNat + d) :=
        Nat.mul_le_mul_left den (Nat.pow_le_pow_right (by omega) hexp)
      _ = den * 2 ^ j.toNat * 2 ^ d := by ring
      _ ≤ num * 2 ^ (-j).toNat * 2 ^ d := Nat.mul_le_mul_right _ h
      _ = num * 2 ^ d * 2 ^ (-j).toNat := by ring
  exact Nat.le_of_mul_le_mul_right hmul (Nat.two_pow_pos _)

lemma logFloor_spec (hnum : 0 < num) (hden : 0 < den) :
    den * 2 ^ (logFloor num den).toNat ≤ num * 2 ^ (-logFloor num den).toNat ∧
      num * 2 ^ (-(logFloor num den + 1)).toNat < den * 2 ^ (logFloor num den + 1).toNat := by
  have hnumLow : 2 ^ num.log2 ≤ num := Nat.log2_self_le (by omega)
  have hnumHigh : num < 2 ^ (num.log2 + 1) := Nat.lt_log2_self
  have hdenLow : 2 ^ den.log2 ≤ den := Nat.log2_self_le (by omega)
  have hdenHigh : den < 2 ^ (den.log2 + 1) := Nat.lt_log2_self
  have hupper : ∀ u v : Nat, num.log2 + 1 + u = den.log2 + v → num * 2 ^ u < den * 2 ^ v := by
    intro u v huv
    calc num * 2 ^ u < 2 ^ (num.log2 + 1) * 2 ^ u :=
        Nat.mul_lt_mul_of_pos_right hnumHigh (Nat.two_pow_pos u)
      _ = 2 ^ den.log2 * 2 ^ v := by rw [← Nat.pow_add, ← Nat.pow_add, huv]
      _ ≤ den * 2 ^ v := Nat.mul_le_mul_right _ hdenLow
  have hlower : ∀ u v : Nat, den.log2 + 1 + v = num.log2 + u → den * 2 ^ v ≤ num * 2 ^ u := by
    intro u v huv
    calc den * 2 ^ v ≤ 2 ^ (den.log2 + 1) * 2 ^ v := Nat.mul_le_mul_right _ (Nat.le_of_lt hdenHigh)
      _ = 2 ^ num.log2 * 2 ^ u := by rw [← Nat.pow_add, ← Nat.pow_add, huv]
      _ ≤ num * 2 ^ u := Nat.mul_le_mul_right _ hnumLow
  unfold logFloor
  dsimp only
  simp only [Nat.pow_eq]
  split_ifs with hless
  · refine ⟨hlower _ _ (by omega), ?_⟩
    rwa [Int.sub_add_cancel]
  · exact ⟨by omega, hupper _ _ (by omega)⟩

/-- The step that rounding takes fits the size of the quotient. -/
lemma shift_spec (f : BinaryFormat) (hnum : 0 < num) (hden : 0 < den) :
    let shift := (logFloor num den - (f.fracBits : Int) + (f.depth : Int)).toNat
    num * 2 ^ f.depth < den * 2 ^ (shift + f.fracBits + 1) ∧
      (shift = 0 ∨ den * 2 ^ (shift + f.fracBits) ≤ num * 2 ^ f.depth) := by
  obtain ⟨hlow, hhigh⟩ := logFloor_spec hnum hden
  dsimp only
  refine ⟨lt_scaled hhigh (by omega), ?_⟩
  by_cases hzero : (logFloor num den - (f.fracBits : Int) + (f.depth : Int)).toNat = 0
  · exact .inl hzero
  · exact .inr (le_scaled hlow (by omega))

/-- Only one step does. -/
lemma shift_unique {n p s t : Nat} (hs : n < den * 2 ^ (s + p + 1))
    (hs' : s = 0 ∨ den * 2 ^ (s + p) ≤ n) (ht : n < den * 2 ^ (t + p + 1))
    (ht' : t = 0 ∨ den * 2 ^ (t + p) ≤ n) : s = t := by
  have hmono : ∀ a b : Nat, a < b → den * 2 ^ (a + p + 1) ≤ den * 2 ^ (b + p) :=
    fun a b hab => Nat.mul_le_mul_left den (Nat.pow_le_pow_right (by omega) (by omega))
  rcases Nat.lt_trichotomy s t with hlt | heq | hgt
  · have := hmono s t hlt
    omega
  · exact heq
  · have := hmono t s hgt
    omega

lemma nearest_eq {f : BinaryFormat} (hnum : 0 < num) (hden : 0 < den) {t : Nat}
    (hupper : num * 2 ^ f.depth < den * 2 ^ (t + f.fracBits + 1))
    (hlower : t = 0 ∨ den * 2 ^ (t + f.fracBits) ≤ num * 2 ^ f.depth) :
    f.nearest num den =
      min f.infinity (t * 2 ^ f.fracBits + roundEven (num * 2 ^ f.depth) (den * 2 ^ t)) := by
  obtain ⟨hshift, hshift'⟩ := shift_spec f hnum hden
  have ht := shift_unique hshift hshift' hupper hlower
  unfold BinaryFormat.nearest
  rw [if_neg (by omega)]
  simp only [Nat.pow_eq, ht]

/-- A quotient that is `m` steps to the nearest, on the grid that fits its size. -/
lemma nearest_of_near {f : BinaryFormat} (hnum : 0 < num) (hden : 0 < den) {m t : Nat}
    (hupper : num * 2 ^ f.depth < 2 * (2 ^ f.fracBits * (den * 2 ^ t)))
    (hlower : t = 0 ∨ 2 ^ f.fracBits * (den * 2 ^ t) ≤ num * 2 ^ f.depth)
    (hlow : 2 * (m * (den * 2 ^ t)) ≤ 2 * (num * 2 ^ f.depth) + den * 2 ^ t)
    (hhigh : 2 * (num * 2 ^ f.depth) ≤ 2 * (m * (den * 2 ^ t)) + den * 2 ^ t)
    (htie : 2 * (m * (den * 2 ^ t)) = 2 * (num * 2 ^ f.depth) + den * 2 ^ t ∨
      2 * (num * 2 ^ f.depth) = 2 * (m * (den * 2 ^ t)) + den * 2 ^ t → m % 2 = 0) :
    f.nearest num den = min f.infinity (t * 2 ^ f.fracBits + m) := by
  have hgrid : den * 2 ^ (t + f.fracBits) = 2 ^ f.fracBits * (den * 2 ^ t) := by ring
  rw [nearest_eq hnum hden (t := t) (by rw [Nat.pow_succ, ← Nat.mul_assoc, hgrid]; omega)
    (by rwa [hgrid])]
  rw [roundEven_eq (Nat.mul_pos hden (Nat.two_pow_pos t)) hlow hhigh htie]

end

/-! ## Magnitudes -/

section
variable {f : BinaryFormat} {x : Binary f}

lemma magnitude_eq (x : Binary f) :
    x.step * 2 ^ f.fracBits + x.significand = x.magnitude := by
  have hpow := Nat.two_pow_pos f.fracBits
  have hdiv := Nat.div_add_mod x.magnitude (2 ^ f.fracBits)
  unfold Binary.step Binary.significand
  simp only [Nat.pow_eq]
  split_ifs with hlow
  · rw [Nat.div_eq_of_lt hlow]
    omega
  · have hone : 1 ≤ x.magnitude / 2 ^ f.fracBits := (Nat.le_div_iff_mul_le hpow).mpr (by omega)
    obtain ⟨k, hk⟩ := Nat.exists_eq_add_of_le hone
    rw [hk] at hdiv ⊢
    rw [Nat.add_sub_cancel_left]
    nlinarith

lemma significand_lt (x : Binary f) : x.significand < 2 ^ (f.fracBits + 1) := by
  have hmod := Nat.mod_lt x.magnitude (Nat.two_pow_pos f.fracBits)
  unfold Binary.significand
  simp only [Nat.pow_eq, Nat.pow_succ]
  split_ifs with hlow <;> omega

lemma significand_ge (x : Binary f) : x.step = 0 ∨ 2 ^ f.fracBits ≤ x.significand := by
  unfold Binary.step Binary.significand
  simp only [Nat.pow_eq]
  split_ifs with hlow
  · exact .inl (by rw [Nat.div_eq_of_lt hlow])
  · exact .inr (by omega)

lemma significand_pos (h : 0 < x.magnitude) : 0 < x.significand := by
  have hpow := Nat.two_pow_pos f.fracBits
  unfold Binary.significand
  simp only [Nat.pow_eq]
  split_ifs <;> omega

/-- Being in the interval means to lie between its ends, and not on them if the number is odd. -/
lemma contains_bounds {i : RoundingInterval} {num den : Nat}
    (h : Binary.RoundingInterval.contains i num den = true) :
    i.low * den ≤ num ∧ num ≤ i.high * den ∧
      (i.closed = false → i.low * den < num ∧ num < i.high * den) := by
  unfold Binary.RoundingInterval.contains at h
  cases hclosed : i.closed with
  | true =>
    rw [hclosed] at h
    simpa using h
  | false =>
    rw [hclosed] at h
    simp only [Bool.false_eq_true, if_false, Bool.and_eq_true, decide_eq_true_eq] at h
    exact ⟨Nat.le_of_lt h.1, Nat.le_of_lt h.2, fun _ => h⟩

/-- A quotient in the rounding interval of a number is rounded to it. -/
theorem nearest_of_mem_interval (hfinite : x.isFinite = true) (hpos : 0 < x.magnitude)
    {num den : Nat} (hden : 0 < den)
    (h : Binary.RoundingInterval.contains x.interval (4 * (num * 2 ^ f.depth)) den = true) :
    f.nearest num den = x.magnitude := by
  have hmag := magnitude_eq x
  have hlt := significand_lt x
  have hge := significand_ge x
  have hone := significand_pos hpos
  obtain ⟨hlow, hhigh, hopen⟩ := contains_bounds h
  have hinfinity : min f.infinity x.magnitude = x.magnitude :=
    Nat.min_eq_right (Nat.le_of_lt (by simpa [Binary.isFinite] using hfinite))
  simp only [Binary.interval, Nat.pow_eq] at hlow hhigh hopen
  rw [Nat.pow_succ] at hlt
  generalize x.significand = m at *
  generalize x.step = t at *
  generalize hn : num * 2 ^ f.depth = n at *
  have hstep : 0 < den * 2 ^ t := Nat.mul_pos hden (Nat.two_pow_pos t)
  have hscale : ∀ k, k * 2 ^ t * den = k * (den * 2 ^ t) := fun k => by ring
  simp only [hscale] at hlow hhigh hopen
  have hbelow : m * (den * 2 ^ t) ≥ den * 2 ^ t := Nat.le_mul_of_pos_left _ hone
  rw [Nat.sub_mul, Nat.mul_assoc] at hlow
  rw [Nat.sub_mul, Nat.mul_assoc, Nat.add_mul, Nat.mul_assoc] at hopen
  rw [Nat.add_mul, Nat.mul_assoc] at hhigh
  have hnum : 0 < num := by
    apply Nat.pos_of_ne_zero
    rintro rfl
    split_ifs at hlow <;> omega
  by_cases hedge : (m = 2 ^ f.fracBits ∧ t ≠ 0) ∧ n < m * (den * 2 ^ t)
  · -- below a power of two the grid is finer
    obtain ⟨⟨hm, ht⟩, hn'⟩ := hedge
    rw [if_pos ⟨hm, ht⟩] at hlow
    obtain ⟨k, rfl⟩ := Nat.exists_eq_add_one_of_ne_zero ht
    have hdouble : den * 2 ^ (k + 1) = 2 * (den * 2 ^ k) := by ring
    have hscaled : m * (2 * (den * 2 ^ k)) = 2 * (m * (den * 2 ^ k)) := by ring
    have hfactor : 2 * m * (den * 2 ^ k) = 2 * (m * (den * 2 ^ k)) := by ring
    simp only [hdouble, hscaled] at hlow hhigh hbelow hn'
    subst hn
    rw [nearest_of_near hnum hden (m := 2 * m) (t := k) (by rw [← hm]; omega)
      (.inr (by rw [← hm]; omega)) (by rw [hfactor]; omega) (by rw [hfactor]; omega)
      (fun _ => Nat.mul_mod_right 2 m), ← hinfinity, ← hmag, hm]
    congr 1
    ring
  · subst hn
    have hlow' : 4 * (m * (den * 2 ^ t)) ≤ 4 * (num * 2 ^ f.depth) + 2 * (den * 2 ^ t) := by
      by_cases hm : m = 2 ^ f.fracBits ∧ t ≠ 0
      · have := fun hn => hedge ⟨hm, hn⟩
        omega
      · rw [if_neg hm] at hlow
        omega
    have hodd : m % 2 ≠ 0 → 4 * (m * (den * 2 ^ t)) < 4 * (num * 2 ^ f.depth) + 2 * (den * 2 ^ t) ∧
        4 * (num * 2 ^ f.depth) < 4 * (m * (den * 2 ^ t)) + 2 * (den * 2 ^ t) := by
      intro hm
      obtain ⟨hopenLow, hopenHigh⟩ := hopen (decide_eq_false hm)
      refine ⟨?_, hopenHigh⟩
      split_ifs at hopenLow <;> omega
    have hupper : m * (den * 2 ^ t) + den * 2 ^ t ≤ 2 * (2 ^ f.fracBits * (den * 2 ^ t)) := by
      have := Nat.mul_le_mul_right (den * 2 ^ t) (show m + 1 ≤ 2 * 2 ^ f.fracBits by omega)
      rwa [Nat.add_mul, Nat.one_mul, Nat.mul_assoc] at this
    have hlower : t = 0 ∨ 2 ^ f.fracBits * (den * 2 ^ t) ≤ num * 2 ^ f.depth := by
      rcases hge with ht | hge
      · exact .inl ht
      by_cases hzero : t = 0
      · exact .inl hzero
      rcases Nat.eq_or_lt_of_le hge with hm | hm
      · have := fun hn => hedge ⟨⟨hm.symm, hzero⟩, hn⟩
        exact .inr (by rw [hm]; omega)
      · have := Nat.mul_le_mul_right (den * 2 ^ t) (show 2 ^ f.fracBits + 1 ≤ m by omega)
        rw [Nat.add_mul, Nat.one_mul] at this
        exact .inr (by omega)
    rw [nearest_of_near hnum hden (m := m) (t := t) (by omega) hlower (by omega) (by omega)
      (fun htie => by by_contra hm; have := hodd hm; omega), hmag, hinfinity]

lemma contains_of_strict {i : RoundingInterval} {num den : Nat} (hlow : i.low * den < num)
    (hhigh : num < i.high * den) : Binary.RoundingInterval.contains i num den = true := by
  unfold Binary.RoundingInterval.contains
  cases i.closed with
  | true => simp [Nat.le_of_lt hlow, Nat.le_of_lt hhigh]
  | false => simp [hlow, hhigh]

lemma units_pos : 0 < x.units ↔ x.isZero = false := by
  have hpow : ∀ k, 0 < Nat.pow 2 k := fun k => Nat.pow_pos (by omega)
  unfold Binary.units Binary.isZero Binary.significand
  rw [Nat.mul_pos_iff_of_pos_right (hpow _), decide_eq_false_iff_not]
  have hfrac := hpow f.fracBits
  split_ifs with hlow
  · omega
  · omega

lemma units_of_isZero (h : x.isZero = true) : x.units = 0 := by
  have hnot : ¬0 < x.units := by
    rw [units_pos, h]
    exact Bool.noConfusion
  omega

/-- A number of the format is not changed by rounding. -/
theorem nearest_units (hfinite : x.isFinite = true) :
    f.nearest x.units (2 ^ f.depth) = x.magnitude := by
  by_cases hpos : 0 < x.magnitude
  · have hone := significand_pos hpos
    have hstep := Nat.two_pow_pos x.step
    have hdepth := Nat.two_pow_pos f.depth
    refine nearest_of_mem_interval hfinite hpos hdepth (contains_of_strict ?_ ?_)
    · rw [← Nat.mul_assoc]
      refine Nat.mul_lt_mul_of_pos_right ?_ hdepth
      simp only [Binary.interval, Binary.units, Nat.pow_eq, ← Nat.mul_assoc]
      refine Nat.mul_lt_mul_of_pos_right ?_ hstep
      split_ifs <;> omega
    · rw [← Nat.mul_assoc]
      refine Nat.mul_lt_mul_of_pos_right ?_ hdepth
      simp only [Binary.interval, Binary.units, Nat.pow_eq, ← Nat.mul_assoc]
      exact Nat.mul_lt_mul_of_pos_right (by omega) hstep
  · have hmag : x.magnitude = 0 := by omega
    rw [units_of_isZero (decide_eq_true hmag), hmag]
    rfl

/-- Taking zero away from a finite number changes nothing. -/
theorem sub_zero_of_finite (hfinite : x.isFinite = true) : x - ⟨false, 0⟩ = x := by
  have hmag : x.magnitude < f.infinity := of_decide_eq_true hfinite
  have hnan : x.isNaN = false := decide_eq_false (by omega)
  have hinfinite : x.isInfinite = false := decide_eq_false (by omega)
  have hzeroNan : (Binary.mk true 0 : Binary f).isNaN = false := decide_eq_false (by simp)
  have hzeroInf : (Binary.mk true 0 : Binary f).isInfinite = false :=
    decide_eq_false (show (0 : Nat) ≠ f.infinity by omega)
  have hzero : (Binary.mk true 0 : Binary f).signedUnits = 0 := by
    rw [Binary.signedUnits, units_of_isZero rfl]
    rfl
  change Binary.add x ⟨true, 0⟩ = x
  unfold Binary.add
  simp only [hnan, hinfinite, hzeroNan, hzeroInf, hzero, Bool.or_self, Bool.false_eq_true, if_false,
    Int.add_zero, Bool.and_true]
  by_cases hx : x.magnitude = 0
  · have hsum : x.signedUnits = 0 := by
      rw [Binary.signedUnits, units_of_isZero (decide_eq_true hx)]
      simp
    rw [if_pos hsum, ← hx]
  · have hunits : 0 < x.units := units_pos.mpr (decide_eq_false hx)
    have hsign : decide (x.signedUnits < 0) = x.negative := by
      cases hneg : x.negative <;> simp [Binary.signedUnits, hneg, hunits]
    have habs : x.signedUnits.natAbs = x.units := by
      cases hneg : x.negative <;> simp [Binary.signedUnits, hneg]
    have hsum : x.signedUnits ≠ 0 := by omega
    rw [if_neg hsum, Binary.ofRatio, hsign, habs, Nat.pow_eq, nearest_units hfinite]

end

end ScanBinder.Proofs
