import ScanBinder.Proofs.Rounding

/-!
# The shortest decimal reads back

Among the decimals with a given number of digits the printer tries the two neighbours of a
number, and takes one only if it lies in the rounding interval. Enough digits make sure that one
of them lies there. So every finite number is printed as a decimal that is rounded to it, and a
large one as a whole number.
-/

namespace ScanBinder.Proofs

/-! ## Counting digits -/

lemma lt_pow_digitCount (n : Nat) : n < 10 ^ digitCount n :=
  (Nat.length_toDigits_le_iff (by omega) Nat.length_toDigits_pos).mp (Nat.le_refl _)

lemma pow_digitCount_le {n : Nat} (h : 0 < n) : 10 ^ (digitCount n - 1) ≤ n := by
  by_cases hone : digitCount n - 1 = 0
  · rw [hone, Nat.pow_zero]
    exact h
  · by_contra hlt
    have hshort : (Nat.toDigits 10 n).length ≤ digitCount n - 1 :=
      (Nat.length_toDigits_le_iff (by omega) (Nat.pos_of_ne_zero hone)).mpr (by omega)
    unfold digitCount at hshort hone
    omega

/-- A quotient is not below the place of its first digit. -/
lemma decimalExponent_le {num den : Nat} (hnum : 0 < num) (hden : 0 < den) :
    den * 10 ^ (decimalExponent num den - 1).toNat ≤
      num * 10 ^ (-(decimalExponent num den - 1)).toNat := by
  unfold decimalExponent
  dsimp only
  split_ifs with hbig hedge
  · have hquotient := pow_digitCount_le (Nat.div_pos hbig hden)
    have hpos : 0 < digitCount (num / den) := Nat.length_toDigits_pos
    have hup : ((digitCount (num / den) : Int) - 1).toNat = digitCount (num / den) - 1 := by omega
    have hdown : (-((digitCount (num / den) : Int) - 1)).toNat = 0 := by omega
    rw [hup, hdown, Nat.pow_zero, Nat.mul_one]
    calc den * 10 ^ (digitCount (num / den) - 1)
        ≤ den * (num / den) := Nat.mul_le_mul_left _ hquotient
      _ ≤ num := Nat.mul_div_le num den
  · have hpos : 0 < digitCount (den / num) := Nat.length_toDigits_pos
    have hup : (2 - (digitCount (den / num) : Int) - 1).toNat = 0 := by omega
    have hdown : (-(2 - (digitCount (den / num) : Int) - 1)).toNat =
        digitCount (den / num) - 1 := by omega
    rw [hup, hdown, Nat.pow_zero, Nat.mul_one]
    exact hedge
  · have hquotient := lt_pow_digitCount (den / num)
    have hup : (1 - (digitCount (den / num) : Int) - 1).toNat = 0 := by omega
    have hdown : (-(1 - (digitCount (den / num) : Int) - 1)).toNat = digitCount (den / num) := by
      omega
    rw [hup, hdown, Nat.pow_zero, Nat.mul_one]
    have hdiv := Nat.div_add_mod den num
    have hmod := Nat.mod_lt den hnum
    calc den ≤ num * (den / num + 1) := by rw [Nat.mul_succ]; omega
      _ ≤ num * 10 ^ digitCount (den / num) := Nat.mul_le_mul_left _ hquotient

/-- A decimal whose first digit stands high is large. -/
lemma ratio_ge {d : Decimal} (hc : 0 < d.coefficient) {k : Nat}
    (h : (k : Int) < d.exponent + digitCount d.coefficient) : 10 ^ k * d.ratio.2 ≤ d.ratio.1 := by
  have hdigits : 0 < digitCount d.coefficient := Nat.length_toDigits_pos
  have hexp : k + (-d.exponent).toNat ≤ digitCount d.coefficient - 1 + d.exponent.toNat := by omega
  simp only [Decimal.ratio, Nat.pow_eq]
  calc 10 ^ k * 10 ^ (-d.exponent).toNat = 10 ^ (k + (-d.exponent).toNat) := by rw [Nat.pow_add]
    _ ≤ 10 ^ (digitCount d.coefficient - 1 + d.exponent.toNat) :=
      Nat.pow_le_pow_right (by omega) hexp
    _ = 10 ^ (digitCount d.coefficient - 1) * 10 ^ d.exponent.toNat := by rw [Nat.pow_add]
    _ ≤ d.coefficient * 10 ^ d.exponent.toNat := Nat.mul_le_mul_right _ (pow_digitCount_le hc)

/-- A decimal whose first digit stands far behind the point is small. -/
lemma ratio_lt {d : Decimal} {k : Nat} (h : d.exponent + digitCount d.coefficient < -(k : Int)) :
    d.ratio.1 * 10 ^ k < d.ratio.2 := by
  have hexp : digitCount d.coefficient + d.exponent.toNat + k ≤ (-d.exponent).toNat := by omega
  have hsize := lt_pow_digitCount d.coefficient
  have hpow : 0 < 10 ^ d.exponent.toNat := Nat.pow_pos (by omega)
  simp only [Decimal.ratio, Nat.pow_eq]
  calc d.coefficient * 10 ^ d.exponent.toNat * 10 ^ k
      < 10 ^ digitCount d.coefficient * 10 ^ d.exponent.toNat * 10 ^ k := by gcongr
    _ = 10 ^ (digitCount d.coefficient + d.exponent.toNat + k) := by rw [Nat.pow_add, Nat.pow_add]
    _ ≤ 10 ^ (-d.exponent).toNat := Nat.pow_le_pow_right (by omega) hexp

/-! ## Decimals in the rounding interval -/

section
variable {f : BinaryFormat} {x : Binary f}

/-- A decimal that lies in the rounding interval of a number. -/
def Denotes (d : Decimal) (x : Binary f) : Prop :=
  Binary.RoundingInterval.contains x.interval (4 * (d.ratio.1 * 2 ^ f.depth)) d.ratio.2 = true

lemma ratio_den_pos (d : Decimal) : 0 < d.ratio.2 :=
  Nat.pow_pos (by omega)

lemma nearest_of_denotes (hfinite : x.isFinite = true) (hpos : 0 < x.magnitude) {d : Decimal}
    (h : Denotes d x) : f.nearest d.ratio.1 d.ratio.2 = x.magnitude :=
  nearest_of_mem_interval hfinite hpos (ratio_den_pos d) h

lemma fits_eq (x : Binary f) (c : Nat) (e : Int) :
    Binary.RoundingInterval.contains x.interval (c * Nat.pow 10 e.toNat * (4 * Nat.pow 2 f.depth))
      (Nat.pow 10 (-e).toNat) = true ↔ Denotes ⟨c, e⟩ x := by
  have hnum : c * Nat.pow 10 e.toNat * (4 * Nat.pow 2 f.depth) =
      4 * (c * Nat.pow 10 e.toNat * 2 ^ f.depth) := by
    rw [Nat.pow_eq, Nat.pow_eq]
    ring
  rw [hnum]
  rfl

/-- A decimal is printed only if it reads back. -/
lemma denotes_of_withDigits? {count : Nat} {d : Decimal} (h : x.withDigits? count = some d) :
    Denotes d x := by
  unfold Binary.withDigits? at h
  dsimp only at h
  split_ifs at h with hlower hupper
  · cases h
    rw [Bool.and_eq_true, fits_eq] at hlower
    exact hlower.1
  · cases h
    rwa [fits_eq] at hupper

lemma exponent_of_withDigits? {count : Nat} {d : Decimal} (h : x.withDigits? count = some d) :
    d.exponent = decimalExponent x.units (2 ^ f.depth) - count := by
  unfold Binary.withDigits? at h
  dsimp only at h
  split_ifs at h
  · cases h
    rfl
  · cases h
    rfl

section
variable {n : Nat} (hdigits : 2 ^ (f.fracBits + 2) ≤ 10 ^ n) (hpos : 0 < x.magnitude)
include hdigits hpos

/-- On the grid of enough digits a step is less than half of the last place of a number. -/
lemma decimal_step_lt {e : Int}
    (he : e = decimalExponent x.units (2 ^ f.depth) - ((n + 1 : Nat) : Int)) :
    4 * 2 ^ f.depth * 10 ^ e.toNat < 2 * 2 ^ x.step * 10 ^ (-e).toNat := by
  have hm := significand_pos hpos
  have hm' : 2 * x.significand < 10 ^ n := by
    have hlt := significand_lt x
    rw [Nat.pow_succ] at hdigits hlt
    omega
  have hunits : 0 < x.units := Nat.mul_pos hm (Nat.two_pow_pos x.step)
  have hfirst := decimalExponent_le hunits (Nat.two_pow_pos f.depth)
  obtain ⟨j, hj⟩ : ∃ j, j = decimalExponent x.units (2 ^ f.depth) - 1 := ⟨_, rfl⟩
  rw [← hj] at hfirst
  rw [Binary.units, Nat.pow_eq] at hfirst
  have hexp : e.toNat + (-j).toNat + n = j.toNat + (-e).toNat := by omega
  refine Nat.lt_of_mul_lt_mul_right (a := 10 ^ (-j).toNat * 10 ^ n) ?_
  calc 4 * 2 ^ f.depth * 10 ^ e.toNat * (10 ^ (-j).toNat * 10 ^ n)
      = 4 * 2 ^ f.depth * 10 ^ (e.toNat + (-j).toNat + n) := by ring
    _ = 4 * 10 ^ (-e).toNat * (2 ^ f.depth * 10 ^ j.toNat) := by rw [hexp]; ring
    _ ≤ 4 * 10 ^ (-e).toNat * (x.significand * 2 ^ x.step * 10 ^ (-j).toNat) :=
      Nat.mul_le_mul_left _ hfirst
    _ = 2 * x.significand * (2 * 2 ^ x.step * 10 ^ (-e).toNat * 10 ^ (-j).toNat) := by ring
    _ < 10 ^ n * (2 * 2 ^ x.step * 10 ^ (-e).toNat * 10 ^ (-j).toNat) :=
      Nat.mul_lt_mul_of_pos_right hm' (by positivity)
    _ = 2 * 2 ^ x.step * 10 ^ (-e).toNat * (10 ^ (-j).toNat * 10 ^ n) := by ring

/-- So the upper neighbour on that grid reads back. -/
lemma withDigits?_of_enough : x.withDigits? (n + 1) ≠ none := by
  have hstep := decimal_step_lt hdigits hpos rfl
  unfold Binary.withDigits?
  dsimp only
  simp only [Nat.pow_eq] at hstep ⊢
  generalize decimalExponent x.units (2 ^ f.depth) - ((n + 1 : Nat) : Int) = e at hstep ⊢
  have hup : 0 < 10 ^ e.toNat := Nat.pow_pos (by omega)
  have hscale : 0 < 4 * 2 ^ f.depth * 10 ^ e.toNat := by positivity
  generalize hc : x.interval.value * 10 ^ (-e).toNat / (4 * 2 ^ f.depth * 10 ^ e.toNat) = c
  have hbelow : c * (4 * 2 ^ f.depth * 10 ^ e.toNat) ≤ x.interval.value * 10 ^ (-e).toNat :=
    hc ▸ Nat.div_mul_le_self _ _
  have habove : x.interval.value * 10 ^ (-e).toNat < 4 * 2 ^ f.depth * 10 ^ e.toNat * (c + 1) :=
    hc ▸ Nat.lt_mul_div_succ _ hscale
  have hnext : (c + 1) * 10 ^ e.toNat * (4 * 2 ^ f.depth) =
      c * (4 * 2 ^ f.depth * 10 ^ e.toNat) + 4 * 2 ^ f.depth * 10 ^ e.toNat := by ring
  have hfits : Binary.RoundingInterval.contains x.interval
      ((c + 1) * 10 ^ e.toNat * (4 * 2 ^ f.depth)) (10 ^ (-e).toNat) = true := by
    apply contains_of_strict
    · have hlow : x.interval.low * 10 ^ (-e).toNat ≤ x.interval.value * 10 ^ (-e).toNat := by
        apply Nat.mul_le_mul_right
        simp only [Binary.interval, Nat.pow_eq]
        exact Nat.mul_le_mul_right _ (Nat.sub_le _ _)
      linarith
    · have hhigh : x.interval.high * 10 ^ (-e).toNat =
          x.interval.value * 10 ^ (-e).toNat + 2 * 2 ^ x.step * 10 ^ (-e).toNat := by
        simp only [Binary.interval, Nat.pow_eq]
        ring
      rw [hhigh, hnext]
      omega
  rw [if_pos hfits]
  split_ifs <;> simp

/-- The shortest decimal reads back, and has no more digits than are enough. -/
lemma shortest_denotes (hn : n < 20) : Denotes x.shortest x ∧
    decimalExponent x.units (2 ^ f.depth) - (n + 1) ≤ x.shortest.exponent := by
  have henough := withDigits?_of_enough hdigits hpos
  have hfound : (List.range 20).findSome? (fun n => x.withDigits? (n + 1)) ≠ none := by
    rw [Ne, List.findSome?_eq_none_iff]
    intro hnone
    exact henough (hnone n (List.mem_range.mpr hn))
  obtain ⟨d, hd⟩ := Option.ne_none_iff_exists'.mp hfound
  have hshortest : x.shortest = d := by
    unfold Binary.shortest
    rw [hd]
    rfl
  obtain ⟨front, k, back, hrange, hk, hnone⟩ := List.findSome?_eq_some_iff.mp hd
  have hle : k ≤ n := by
    have hmem : n ∈ front ++ k :: back := hrange ▸ List.mem_range.mpr hn
    rcases List.mem_append.mp hmem with hmem | hmem
    · exact absurd (hnone n hmem) henough
    · have hsorted : (front ++ k :: back).Pairwise (· < ·) := hrange ▸ List.pairwise_lt_range
      rcases List.mem_cons.mp hmem with rfl | hmem
      · exact Nat.le_refl _
      · exact Nat.le_of_lt ((List.pairwise_cons.mp (List.pairwise_append.mp hsorted).2.1).1 n hmem)
  rw [hshortest]
  refine ⟨denotes_of_withDigits? hk, ?_⟩
  rw [exponent_of_withDigits? hk]
  push_cast
  omega

end

/-! ## Trailing zeros -/

lemma contains_scale {i : RoundingInterval} {num den k : Nat} (hk : 0 < k) :
    Binary.RoundingInterval.contains i (num * k) (den * k) =
      Binary.RoundingInterval.contains i num den := by
  unfold Binary.RoundingInterval.contains
  simp only [← Nat.mul_assoc, Nat.mul_le_mul_right_iff hk, Nat.mul_lt_mul_right hk]

/-- A zero at the end of the coefficient can go into the exponent. -/
lemma denotes_shift {c : Nat} {e : Int} (h : Denotes ⟨c * 10, e⟩ x) : Denotes ⟨c, e + 1⟩ x := by
  unfold Denotes Decimal.ratio at h ⊢
  simp only [Nat.pow_eq] at h ⊢
  by_cases he : 0 ≤ e
  · have hup : (e + 1).toNat = e.toNat + 1 := by omega
    have hdown : (-(e + 1)).toNat = (-e).toNat := by omega
    rw [hup, hdown]
    convert h using 2
    ring
  · have hup : (e + 1).toNat = e.toNat := by omega
    have hdown : (-e).toNat = (-(e + 1)).toNat + 1 := by omega
    rw [hdown, Nat.pow_succ] at h
    rw [hup, ← contains_scale (show 0 < 10 by omega)]
    convert h using 2
    ring

lemma denotes_trim {fuel : Nat} {d : Decimal} (h : Denotes d x) : Denotes (d.trim fuel) x := by
  induction fuel generalizing d with
  | zero => exact h
  | succ fuel ih =>
    unfold Decimal.trim
    split_ifs with hzero
    · refine ih (denotes_shift ?_)
      rwa [Nat.div_mul_cancel (Nat.dvd_of_mod_eq_zero hzero.2)]
    · exact h

lemma exponent_le_trim (fuel : Nat) (d : Decimal) : d.exponent ≤ (d.trim fuel).exponent := by
  induction fuel generalizing d with
  | zero => exact Int.le_refl _
  | succ fuel ih =>
    unfold Decimal.trim
    split_ifs
    · exact Int.le_trans (Int.le_add_one (Int.le_refl _)) (ih _)
    · exact Int.le_refl _

lemma interval_low_pos (hpos : 0 < x.magnitude) : 0 < x.interval.low := by
  have hm := significand_pos hpos
  simp only [Binary.interval, Nat.pow_eq]
  apply Nat.mul_pos _ (Nat.two_pow_pos x.step)
  split_ifs <;> omega

lemma coefficient_pos (hpos : 0 < x.magnitude) {d : Decimal} (h : Denotes d x) :
    0 < d.coefficient := by
  obtain ⟨hlow, _, _⟩ := contains_bounds h
  apply Nat.pos_of_ne_zero
  intro hzero
  have hnum : d.ratio.1 = 0 := by rw [Decimal.ratio, hzero, Nat.zero_mul]
  have hden := Nat.mul_pos (interval_low_pos hpos) (ratio_den_pos d)
  rw [hnum] at hlow
  omega

end

/-! ## Positional notation -/

def AllDigits (cs : List Char) : Prop :=
  ∀ c ∈ cs, c.isDigit = true

lemma allDigits_toDigits (n : Nat) : AllDigits (Nat.toDigits 10 n) :=
  fun _ hc => Nat.isDigit_of_mem_toDigits (by omega) (by omega) hc

lemma allDigits_zeros (n : Nat) : AllDigits (List.replicate n '0') := by
  intro c hc
  rw [List.eq_of_mem_replicate hc]
  rfl

lemma AllDigits.append {cs ds : List Char} (hcs : AllDigits cs) (hds : AllDigits ds) :
    AllDigits (cs ++ ds) := by
  intro c hc
  rcases List.mem_append.mp hc with hc | hc
  · exact hcs c hc
  · exact hds c hc

/-- A whole decimal is written as the digits of its value. -/
lemma text_of_whole {d : Decimal} (h : 0 ≤ d.exponent) :
    ∃ cs, d.text = String.ofList cs ∧ cs ≠ [] ∧ AllDigits cs ∧
      Nat.ofDigitChars 10 cs 0 = d.ratio.1 ∧ d.ratio.2 = 1 := by
  refine ⟨Nat.toDigits 10 d.coefficient ++ List.replicate d.exponent.toNat '0', ?_, by simp,
    (allDigits_toDigits _).append (allDigits_zeros _), ?_, ?_⟩
  · unfold Decimal.text
    dsimp only
    rw [if_pos h]
  · rw [Nat.ofDigitChars_append, Nat.ofDigitChars_ten_toDigits, Nat.ofDigitChars_replicate_zero,
      Decimal.ratio, Nat.pow_eq, Nat.mul_comm]
  · rw [Decimal.ratio, show (-d.exponent).toNat = 0 by omega]

/-- A decimal with places is written with a point before them. -/
lemma text_of_fraction {d : Decimal} (h : d.exponent < 0) :
    ∃ ws ps, d.text = String.ofList (ws ++ '.' :: ps) ∧ ws ≠ [] ∧ AllDigits ws ∧ AllDigits ps ∧
      (ps.length : Int) = -d.exponent ∧ Nat.ofDigitChars 10 (ws ++ ps) 0 = d.coefficient := by
  obtain ⟨places, hplaces⟩ : ∃ places, places = (-d.exponent).toNat := ⟨_, rfl⟩
  obtain ⟨ds, hds⟩ : ∃ ds, ds = Nat.toDigits 10 d.coefficient := ⟨_, rfl⟩
  obtain ⟨padded, hpadded⟩ :
      ∃ padded, padded = List.replicate (places + 1 - ds.length) '0' ++ ds := ⟨_, rfl⟩
  have hdigits : AllDigits padded := by
    rw [hpadded, hds]
    exact (allDigits_zeros _).append (allDigits_toDigits _)
  have hlong : places < padded.length := by
    rw [hpadded, List.length_append, List.length_replicate]
    omega
  have hvalue : Nat.ofDigitChars 10 padded 0 = d.coefficient := by
    rw [hpadded, Nat.ofDigitChars_append, Nat.ofDigitChars_replicate_zero, Nat.mul_zero, hds,
      Nat.ofDigitChars_ten_toDigits]
  refine ⟨padded.take (padded.length - places), padded.drop (padded.length - places), ?_, ?_, ?_,
    ?_, ?_, ?_⟩
  · unfold Decimal.text
    dsimp only
    rw [if_neg (by omega), ← hplaces, ← hds, ← hpadded]
  · rw [Ne, ← List.length_eq_zero_iff, List.length_take]
    omega
  · exact fun c hc => hdigits c (List.mem_of_mem_take hc)
  · exact fun c hc => hdigits c (List.mem_of_mem_drop hc)
  · rw [List.length_drop]
    omega
  · rw [List.take_append_drop, hvalue]

/-! ## Single precision -/

section
variable {x : Single}

lemma interval_high_le (hfinite : x.isFinite = true) : x.interval.high ≤ 2 ^ 27 * 2 ^ 253 := by
  have hmag : x.magnitude < 255 * 2 ^ 23 := of_decide_eq_true hfinite
  have hm : x.significand < 2 ^ 24 := significand_lt x
  have hstep : x.step ≤ 253 := by
    have hdiv : x.magnitude / 2 ^ 23 < 255 := (Nat.div_lt_iff_lt_mul (by omega)).mpr hmag
    change x.magnitude / 2 ^ 23 - 1 ≤ 253
    omega
  have hpow : 2 ^ x.step ≤ 2 ^ 253 := Nat.pow_le_pow_right (by omega) hstep
  calc x.interval.high = (4 * x.significand + 2) * 2 ^ x.step := rfl
    _ ≤ 2 ^ 27 * 2 ^ 253 := Nat.mul_le_mul (by omega) hpow

/-- A decimal that denotes a number is rounded to that number when it is read. -/
lemma ofDecimal_of_denotes (hfinite : x.isFinite = true) (hpos : 0 < x.magnitude) {d : Decimal}
    (h : Denotes d x) : Binary.ofDecimal .single x.negative d = x := by
  have hc := coefficient_pos hpos h
  have hden := ratio_den_pos d
  obtain ⟨hlow, hhigh, _⟩ := contains_bounds h
  have hlow' : d.ratio.2 ≤ x.interval.low * d.ratio.2 :=
    Nat.le_mul_of_pos_left _ (interval_low_pos hpos)
  have hhigh' := Nat.mul_le_mul_right d.ratio.2 (interval_high_le hfinite)
  have hdepth : BinaryFormat.single.depth = 149 := rfl
  rw [hdepth] at hlow hhigh
  have hsmall : ¬Binary.decimalRange < d.exponent + digitCount d.coefficient := by
    intro hbig
    have hnum := ratio_ge (k := 400) hc hbig
    omega
  have hlarge : ¬d.exponent + digitCount d.coefficient < -Binary.decimalRange := by
    intro htiny
    have hnum := ratio_lt (k := 400) htiny
    omega
  unfold Binary.ofDecimal
  rw [if_neg (by omega)]
  dsimp only
  rw [if_neg hsmall, if_neg hlarge, Binary.ofRatio, nearest_of_denotes hfinite hpos h]

/-- A quotient of nineteen digits before the point. -/
lemma decimalExponent_ge {num den : Nat} (hden : 0 < den) (h : 2 ^ 63 * den ≤ num) :
    19 ≤ decimalExponent num den := by
  have hle : den ≤ num := by omega
  have hquotient : 2 ^ 63 ≤ num / den := (Nat.le_div_iff_mul_le hden).mpr h
  have hdigits : 18 < digitCount (num / den) := by
    by_contra hfew
    have hlt := lt_pow_digitCount (num / den)
    have hpow : 10 ^ digitCount (num / den) ≤ 10 ^ 18 := Nat.pow_le_pow_right (by omega) (by omega)
    omega
  unfold decimalExponent
  rw [if_pos hle]
  omega

/-- The text of a finite number, zero apart, is a decimal that denotes it. A number that has more
digits before the point than it takes to tell it from others is written without a point. -/
theorem text_of_finite (hfinite : x.isFinite = true) (hpos : 0 < x.magnitude) :
    ∃ d, Denotes d x ∧ x.text = (if x.negative then "-" else "") ++ d.text ∧
      (2 ^ 63 * 2 ^ 149 ≤ x.units → 0 ≤ d.exponent) := by
  have hmag : x.magnitude < BinaryFormat.single.infinity := of_decide_eq_true hfinite
  have hnan : x.isNaN = false := decide_eq_false (by omega)
  have hinfinite : x.isInfinite = false := decide_eq_false (by omega)
  have hzero : x.isZero = false := decide_eq_false (by omega)
  obtain ⟨hdenotes, hexponent⟩ := shortest_denotes (n := 8) (by decide) hpos (by omega)
  refine ⟨x.shortest.trim 20, denotes_trim hdenotes, ?_, ?_⟩
  · unfold Binary.text
    simp only [hnan, hinfinite, hzero, Bool.false_eq_true, if_false]
  · intro hlarge
    have hfirst : 19 ≤ decimalExponent x.units (2 ^ BinaryFormat.single.depth) :=
      decimalExponent_ge (Nat.two_pow_pos _) hlarge
    have htrim := exponent_le_trim 20 x.shortest
    omega

end

end ScanBinder.Proofs
