import ScanBinder.Proofs.Combining
import ScanBinder.Proofs.RoundingError

/-!
# The geometry of pages

The length of a row of dots is rounded three times: as a number of inches, as a number of
points, and when the page is described. For every resolution that a configuration may have the
result is a positive number close to the exact length, or infinity if the exact length is beyond
the limit of the format. The first two roundings never carry a length over that limit.
-/

namespace ScanBinder.Proofs
open FileTree Pdf

/-! ## Ranges -/

lemma roundingLimit_single : roundingLimit .single = 2 ^ 128 - 2 ^ 103 := by
  have hdepth : BinaryFormat.single.depth = 149 := rfl
  rw [roundingLimit, hdepth]
  norm_num [BinaryFormat.single]

/-- What a page can be long, in inches or points, is far from the limits of a double. -/
lemma inRange_double {q : ℚ} (hlow : 1 / 2 ^ 200 ≤ q) (hhigh : q ≤ 2 ^ 200) :
    InRange .double q := by
  have hdepth : BinaryFormat.double.depth = 1074 := rfl
  have hlast : 2 ^ BinaryFormat.double.expBits - 3 = 2045 := rfl
  constructor
  · refine le_trans ?_ hlow
    rw [hdepth, div_le_div_iff₀ (by positivity) (by positivity), one_mul, ← pow_add]
    exact pow_le_pow_right₀ (by norm_num) (by decide)
  · refine lt_of_le_of_lt hhigh ?_
    rw [roundingLimit, hdepth, hlast, lt_div_iff₀ (by positivity), ← pow_add]
    calc (2 ^ (200 + (1074 + 1)) : ℚ) ≤ 2 ^ 2045 := pow_le_pow_right₀ (by norm_num) (by decide)
      _ < 2 ^ 2045 * (2 ^ (BinaryFormat.double.fracBits + 2) - 1) :=
        lt_mul_of_one_lt_right (by positivity) (by norm_num [BinaryFormat.double])

section
variable {dpi : Single} {px : Nat}

lemma IsPositive.step_le (h : IsPositive dpi) : dpi.step ≤ 253 := by
  have hfinite := h.finite
  have hinf : BinaryFormat.single.infinity = 255 * 2 ^ 23 := rfl
  have hstep : dpi.step = dpi.magnitude / 2 ^ 23 - 1 := rfl
  rw [hinf] at hfinite
  omega

lemma absValue_single_eq (dpi : Single) :
    absValue dpi = dpi.significand * 2 ^ dpi.step / 2 ^ 149 := by
  have hdepth : BinaryFormat.single.depth = 149 := rfl
  simp [absValue, hdepth, Binary.units]

lemma IsPositive.absValue_bounds (h : IsPositive dpi) :
    1 / 2 ^ 149 ≤ absValue dpi ∧ absValue dpi < 2 ^ 128 := by
  have hlow : (1 : ℚ) ≤ dpi.units := by exact_mod_cast h.units_pos
  have hhigh : (dpi.units : ℚ) < 2 ^ 24 * 2 ^ 253 := by
    have hpow : 2 ^ dpi.step ≤ 2 ^ 253 := Nat.pow_le_pow_right (by decide) h.step_le
    have hunits : dpi.units < 2 ^ 24 * 2 ^ 253 :=
      Nat.mul_lt_mul_of_lt_of_le (significand_lt dpi) hpow (Nat.two_pow_pos _)
    exact_mod_cast hunits
  have hdepth : BinaryFormat.single.depth = 149 := rfl
  rw [absValue, hdepth]
  constructor
  · exact div_le_div_of_nonneg_right hlow (by positivity)
  · rw [div_lt_iff₀ (by positivity)]
    linarith

/-! ## From dots to points -/

/-- Numbers of dots are exact as doubles. -/
lemma pixels_exact (hpx : 1 ≤ px) (hmax : px < 2 ^ 32) :
    IsPositive (.ofInt .double px) ∧ absValue (.ofInt .double px) = px := by
  have hofInt : Binary.ofInt .double px = .ofRatio .double false px 1 := by
    simp [Binary.ofInt, Int.not_lt.mpr (Int.natCast_nonneg px)]
  have hpxq : (1 : ℚ) ≤ px := by exact_mod_cast hpx
  have hmaxq : (px : ℚ) < 2 ^ 32 := by exact_mod_cast hmax
  have hrange : InRange .double (px : ℚ) := inRange_double (by linarith) (by linarith)
  have hround := hrange.rounded (by decide) hpx Nat.one_pos (by rw [Nat.cast_one, div_one])
  rw [hofInt]
  refine ⟨hround.toIsPositive, ?_⟩
  rw [hround.absValue_of_exact hpx (lt_trans hmax (by decide)) Nat.one_pos (Nat.mul_one _).symm,
    Nat.cast_one, div_one]

/-- A resolution is exact as a double. -/
lemma resolution_exact (h : IsPositive dpi) :
    IsPositive (dpi.convert .double) ∧ absValue (dpi.convert .double) = absValue dpi := by
  obtain ⟨hlow, hhigh⟩ := h.absValue_bounds
  have hrange : InRange .double (absValue dpi) := inRange_double (by linarith) (by linarith)
  have hround := hrange.convert h (by decide)
  obtain ⟨deeper, hdeeper⟩ : ∃ k, BinaryFormat.double.depth = k + BinaryFormat.single.depth :=
    ⟨925, rfl⟩
  have hexact : dpi.units * 2 ^ BinaryFormat.double.depth =
      dpi.significand * 2 ^ (dpi.step + deeper) * 2 ^ BinaryFormat.single.depth := by
    rw [hdeeper, pow_add, pow_add, Binary.units, Nat.pow_eq]
    ring
  rw [h.convert_eq] at hround ⊢
  refine ⟨hround.toIsPositive, ?_⟩
  rw [hround.absValue_of_exact (significand_pos h.pos)
    (lt_trans (significand_lt dpi) (by decide)) (Nat.two_pow_pos _) hexact, absValue_eq_ratio]

/-- The exact length of a row of dots in points. -/
def exactLength (dpi : Single) (px : Nat) : ℚ :=
  72 * (px / absValue dpi)

lemma inches_bounds (h : IsPositive dpi) (hpx : 1 ≤ px) (hmax : px < 2 ^ 32) :
    1 / 2 ^ 128 ≤ px / absValue dpi ∧ px / absValue dpi ≤ 2 ^ 181 := by
  have hpxq : (1 : ℚ) ≤ px := by exact_mod_cast hpx
  have hmaxq : (px : ℚ) < 2 ^ 32 := by exact_mod_cast hmax
  obtain ⟨hlow, hhigh⟩ := h.absValue_bounds
  rw [div_le_div_iff₀ (by positivity) h.absValue_pos, div_le_iff₀ h.absValue_pos]
  constructor
  · linarith
  · linarith

lemma inches_rounded (h : IsPositive dpi) (hpx : 1 ≤ px) (hmax : px < 2 ^ 32) :
    Rounded (px / absValue dpi) (.ofInt .double px / dpi.convert .double) := by
  obtain ⟨hdots, hdotsValue⟩ := pixels_exact hpx hmax
  obtain ⟨hres, hresValue⟩ := resolution_exact h
  obtain ⟨hlow, hhigh⟩ := inches_bounds h hpx hmax
  rw [← hdotsValue, ← hresValue] at hlow hhigh ⊢
  exact InRange.div hdots hres (by decide) (inRange_double (by linarith) (by linarith))

/-- Two roundings hardly change a length. -/
lemma points_near (h : IsPositive dpi) (hpx : 1 ≤ px) (hmax : px < 2 ^ 32) :
    IsPositive (Points.ofPixels px dpi) ∧
      |absValue (Points.ofPixels px dpi) - exactLength dpi px| ≤ exactLength dpi px / 2 ^ 51 := by
  have hinches := inches_rounded h hpx hmax
  obtain ⟨hlow, hhigh⟩ := inches_bounds h hpx hmax
  obtain ⟨hperInch, hperInchValue⟩ : IsPositive pointsPerInch ∧ absValue pointsPerInch = 72 :=
    pixels_exact (by decide) (by decide)
  unfold exactLength
  generalize (px / absValue dpi : ℚ) = exact at *
  generalize hrounded : Binary.ofInt .double px / dpi.convert .double = inches at *
  obtain ⟨hinchesLow, hinchesHigh⟩ :
      exact - exact / 2 ^ 53 ≤ absValue inches ∧ absValue inches ≤ exact + exact / 2 ^ 53 :=
    hinches.bounds
  have hround : Rounded (absValue inches * 72) (Points.ofPixels px dpi) := by
    rw [← hperInchValue, Points.ofPixels, Points.ofInches, hrounded]
    refine InRange.mul hinches.toIsPositive hperInch (by decide) ?_
    rw [hperInchValue]
    exact inRange_double (by linarith) (by linarith)
  obtain ⟨hpointsLow, hpointsHigh⟩ :
      absValue inches * 72 - absValue inches * 72 / 2 ^ 53 ≤ absValue (Points.ofPixels px dpi) ∧
        absValue (Points.ofPixels px dpi) ≤
          absValue inches * 72 + absValue inches * 72 / 2 ^ 53 :=
    hround.bounds
  refine ⟨hround.toIsPositive, abs_le.mpr ⟨?_, ?_⟩⟩
  · linarith
  · linarith

/-! ## The limit

A length and the limit are in the ratio of two natural numbers, one of them small. Unless they
are equal they are too far apart for two roundings; and if they are, both roundings are known. -/

/-- The limit of lengths as a natural number. -/
def limitPoints : Nat :=
  2 ^ 103 * (2 ^ 25 - 1)

lemma limitPoints_eq : (limitPoints : ℚ) = 2 ^ 128 - 2 ^ 103 := by
  norm_num [limitPoints]

lemma exactLength_ratio (h : IsPositive dpi) (hmax : px < 2 ^ 32) :
    ∃ a b : Nat, 0 < b ∧ (a < 2 ^ 50 ∨ b < 2 ^ 50) ∧ exactLength dpi px * b = limitPoints * a := by
  have hpos := significand_pos h.pos
  have hsig : dpi.significand < 2 ^ 24 := significand_lt dpi
  have hsigq : (dpi.significand : ℚ) ≠ 0 := by exact_mod_cast Nat.pos_iff_ne_zero.mp hpos
  unfold exactLength
  rw [absValue_single_eq, limitPoints_eq]
  rcases Nat.le_total dpi.step 46 with hstep | hstep
  · obtain ⟨k, hk⟩ := Nat.exists_eq_add_of_le hstep
    refine ⟨72 * px * 2 ^ k, dpi.significand * (2 ^ 25 - 1), by omega, .inr (by omega), ?_⟩
    have hpow : (2 ^ 46 : ℚ) = 2 ^ dpi.step * 2 ^ k := by rw [hk, pow_add]
    push_cast
    field_simp
    rw [hpow]
    ring
  · obtain ⟨k, hk⟩ := Nat.exists_eq_add_of_le hstep
    refine ⟨72 * px, dpi.significand * 2 ^ k * (2 ^ 25 - 1), by positivity, .inl (by omega), ?_⟩
    have hpow : (2 ^ dpi.step : ℚ) = 2 ^ 46 * 2 ^ k := by rw [hk, pow_add]
    push_cast
    rw [hpow]
    field_simp
    norm_num

/-- Different natural numbers, of which one is small, are far apart. -/
lemma gap_of_lt {a b : Nat} (h : a < b) (hsmall : a < 2 ^ 50 ∨ b < 2 ^ 50) :
    (a + a / 2 ^ 50 : ℚ) < b := by
  have hsucc : (a + 1 : ℚ) ≤ b := by exact_mod_cast h
  have ha : (a : ℚ) < 2 ^ 50 := by
    have : a < 2 ^ 50 := by omega
    exact_mod_cast this
  linarith

/-- At the limit the inches are not exact, but the points are. -/
lemma points_of_limit (h : IsPositive dpi) (hpx : 1 ≤ px) (hmax : px < 2 ^ 32)
    (hlimit : exactLength dpi px = limitPoints) :
    absValue (Points.ofPixels px dpi) = limitPoints := by
  obtain ⟨hdots, hdotsValue⟩ := pixels_exact hpx hmax
  obtain ⟨hres, hresValue⟩ := resolution_exact h
  have hinches : Binary.ofInt .double px / dpi.convert .double =
      .ofRatio .double false limitPoints 72 := by
    rw [hdots.div_eq hres]
    refine congrArg (Binary.mk false) (nearest_congr hdots.units_pos hres.units_pos (by decide)
      (by decide) ?_)
    rw [exactLength, ← hdotsValue, ← hresValue, absValue, absValue,
      div_div_div_cancel_right₀ (by positivity), mul_div_assoc', div_eq_iff
      (Nat.cast_ne_zero.mpr (Nat.pos_iff_ne_zero.mp hres.units_pos)), mul_comm] at hlimit
    exact_mod_cast hlimit
  have hunits : (Binary.ofRatio .double false limitPoints 72 * pointsPerInch).units =
      limitPoints * 2 ^ BinaryFormat.double.depth := by
    decide +kernel
  rw [Points.ofPixels, Points.ofInches, hinches, absValue, hunits]
  push_cast
  exact mul_div_cancel_right₀ _ (by positivity)

/-- The points are below the limit just when the exact length is. -/
lemma points_lt_limit_iff (h : IsPositive dpi) (hpx : 1 ≤ px) (hmax : px < 2 ^ 32) :
    absValue (Points.ofPixels px dpi) < limitPoints ↔ exactLength dpi px < limitPoints := by
  obtain ⟨a, b, hb, hsmall, hratio⟩ := exactLength_ratio h hmax
  obtain ⟨hlow, hhigh⟩ := abs_le.mp (points_near h hpx hmax).2
  have htie := points_of_limit h hpx hmax
  generalize absValue (Points.ofPixels px dpi) = points at *
  generalize exactLength dpi px = exact at *
  have ha : (0 : ℚ) ≤ a := Nat.cast_nonneg a
  have hbq : (0 : ℚ) < b := Nat.cast_pos.mpr hb
  have hlimit : (0 : ℚ) < limitPoints := Nat.cast_pos.mpr (by decide)
  rcases Nat.lt_trichotomy a b with hlt | rfl | hgt
  · have hgap := gap_of_lt hlt hsmall
    have hexact : exact * b < limitPoints * b := by
      rw [hratio]
      exact mul_lt_mul_of_pos_left (Nat.cast_lt.mpr hlt) hlimit
    have hpoints : points * b < limitPoints * b :=
      calc points * b ≤ (exact + exact / 2 ^ 51) * b :=
            mul_le_mul_of_nonneg_right (by linarith) hbq.le
        _ = exact * b * (1 + 1 / 2 ^ 51) := by ring
        _ = limitPoints * (a + a / 2 ^ 51) := by rw [hratio]; ring
        _ < limitPoints * b := mul_lt_mul_of_pos_left (by linarith) hlimit
    exact iff_of_true (lt_of_mul_lt_mul_right hpoints hbq.le) (lt_of_mul_lt_mul_right hexact hbq.le)
  · have heq : exact = limitPoints := mul_right_cancel₀ hbq.ne' hratio
    rw [htie heq, heq]
  · have hgap := gap_of_lt hgt hsmall.symm
    have hexact : limitPoints * b ≤ exact * b := by
      rw [hratio]
      exact mul_le_mul_of_nonneg_left (Nat.cast_le.mpr hgt.le) hlimit.le
    have hpoints : limitPoints * b ≤ points * b :=
      calc (limitPoints * b : ℚ) ≤ limitPoints * (a - a / 2 ^ 51) :=
            mul_le_mul_of_nonneg_left (by linarith) hlimit.le
        _ = exact * b * (1 - 1 / 2 ^ 51) := by rw [hratio]; ring
        _ = (exact - exact / 2 ^ 51) * b := by ring
        _ ≤ points * b := mul_le_mul_of_nonneg_right (by linarith) hbq.le
    exact iff_of_false (not_lt.mpr (le_of_mul_le_mul_right hpoints hbq))
      (not_lt.mpr (le_of_mul_le_mul_right hexact hbq))

/-! ## Pages -/

/-- A length of a page that stands for so many dots: a positive number near the exact length, or
infinity from the limit on. -/
structure IsLength (dpi : Single) (px : Nat) (x : Single) : Prop where
  nonneg : x.negative = false
  pos : 0 < x.magnitude
  number : x.magnitude ≤ BinaryFormat.single.infinity
  finite_iff : x.isFinite = true ↔ exactLength dpi px < 2 ^ 128 - 2 ^ 103
  near : x.isFinite = true → |absValue x - exactLength dpi px| ≤ exactLength dpi px / 2 ^ 23

lemma isLength_ofPixels (h : IsPositive dpi) (hpx : 1 ≤ px) (hmax : px < 2 ^ 32) :
    IsLength dpi px ((Points.ofPixels px dpi).convert .single) := by
  obtain ⟨hpoints, herror⟩ := points_near h hpx hmax
  obtain ⟨hlow, hhigh⟩ := abs_le.mp herror
  have hexact : 72 * (1 / 2 ^ 128) ≤ exactLength dpi px :=
    mul_le_mul_of_nonneg_left (inches_bounds h hpx hmax).1 (by norm_num)
  have hnormal : 2 ^ 23 / 2 ^ 149 ≤ absValue (Points.ofPixels px dpi) := by
    linarith
  have hfinite : ((Points.ofPixels px dpi).convert .single).isFinite = true ↔ _ :=
    hpoints.convert_isFinite_iff (by decide)
  obtain ⟨hnonneg, hpos, hnumber⟩ : _ ∧ _ ∧
      ((Points.ofPixels px dpi).convert .single).magnitude ≤ _ :=
    hpoints.convert_pos (by decide) hnormal
  refine ⟨hnonneg, hpos, hnumber, ?_, fun hx => ?_⟩
  · rw [hfinite, roundingLimit_single, ← limitPoints_eq, points_lt_limit_iff h hpx hmax]
  · have hround : Rounded _ ((Points.ofPixels px dpi).convert .single) :=
      InRange.convert hpoints (by decide) ⟨hnormal, hfinite.mp hx⟩
    obtain ⟨hroundLow, hroundHigh⟩ :
        absValue (Points.ofPixels px dpi) - absValue (Points.ofPixels px dpi) / 2 ^ 24 ≤ _ ∧
          _ ≤ absValue (Points.ofPixels px dpi) + absValue (Points.ofPixels px dpi) / 2 ^ 24 :=
      hround.bounds
    refine abs_le.mpr ⟨?_, ?_⟩
    · linarith
    · linarith

end

/-- The sides of a page that shows an image. -/
structure HasSides (dpi : Single) (p : PageParts) (image : Raster (Rgb UInt8)) : Prop where
  width : 1 ≤ image.width → image.width < 2 ^ 32 → IsLength dpi image.width p.width
  height : 1 ≤ image.height → image.height < 2 ^ 32 → IsLength dpi image.height p.height

lemma hasSides_of_showsImage {d : Document} {options : DocumentOptions} {tree : ObjectId}
    {p : PageParts} {image : Raster (Rgb UInt8)} (hdpi : IsPositive options.resolution)
    (h : ShowsImage d options tree p image) : HasSides options.resolution p image := by
  have hwidth : (Points.ofPixels image.width options.resolution).convert .single = p.width :=
    congrArg Box.right h.box_eq
  have hheight : (Points.ofPixels image.height options.resolution).convert .single = p.height :=
    congrArg Box.top h.box_eq
  exact ⟨fun hpx hmax => hwidth ▸ isLength_ofPixels hdpi hpx hmax,
    fun hpx hmax => hheight ▸ isLength_ofPixels hdpi hpx hmax⟩

lemma isPositive_resolution {c : Config} (h : c.fault? = none) : IsPositive c.resolution := by
  have hsound := fault?_eq_none.mp h
  unfold Unsound at hsound
  push Not at hsound
  obtain ⟨⟨hfinite, hunits⟩, _⟩ := hsound
  obtain ⟨hzero, hnonneg⟩ := signedUnits_pos.mp hunits
  exact ⟨hnonneg, Nat.pos_iff_ne_zero.mpr (of_decide_eq_false hzero), of_decide_eq_true hfinite⟩

/-- With a resolution that is accepted, rows of dots become positive lengths, which are finite
just when the exact length is below the limit; and the pages of a run have such sides, in their
boxes as in their drawings. -/
theorem page_lengths_of_accepted {c : Config} (haccept : c.fault? = none) :
    (∀ px, 1 ≤ px → px < 2 ^ 32 →
      IsLength c.resolution px ((Points.ofPixels px c.resolution).convert .single)) ∧
    ∀ (t t' : FileTree) (z : Packer) (now : Moment) (output : Path) (entries : List ScanEntry)
      (skipped : List Skipped), t.combine z c now = (.ok (.created output entries skipped), t') →
      ∃ images d, List.Forall₂ (fun e image => t.loadRgb e.path = .ok image) entries images ∧
        build c.options now images = .ok d ∧ t'.read output = .ok (d.compressed z).bytes ∧
        ∃ root tree catalog pages parts, HasPages d root tree catalog pages parts ∧
          List.Forall₂ (fun p image => ShowsImage d c.options tree p image ∧
            HasSides c.resolution p image) parts images := by
  have hdpi := isPositive_resolution haccept
  refine ⟨fun px => isLength_ofPixels hdpi, ?_⟩
  intro t t' z now output entries skipped hrun
  cases combine_eq_iff.mp hrun with
  | @created found d _ _ hbuild hwrite =>
    obtain ⟨loc, _, _, _, hfind⟩ := write_spec hwrite
    obtain ⟨root, tree, catalog, pages, parts, hpages, hshow⟩ := (build_wellFormed hbuild).page_tree
    refine ⟨_, d, batchOf_images t found, hbuild, read_of_find hfind, root, tree, catalog, pages,
      parts, hpages, ?_⟩
    exact hshow.imp fun p image h => ⟨h, hasSides_of_showsImage hdpi h⟩

theorem page_lengths_of_accepted_three_scans :
    scansConfig.fault? = none ∧
      IsLength scansConfig.resolution 1
        ((Points.ofPixels 1 scansConfig.resolution).convert .single) ∧
      ∃ skipped t', scans.combine .fixed scansConfig ⟨2026, 1, 18, 9, 30, 0⟩ =
          (.ok (.created (Bytes.ofText "./out.pdf")
            [scan "Scan (2).bmp" 2, scan "Scan (10).bmp" 10] skipped), t') ∧
        ∃ images d tree parts, images.length = 2 ∧
          t'.read (Bytes.ofText "./out.pdf") = .ok (d.compressed .fixed).bytes ∧
          List.Forall₂ (fun p image => ShowsImage d scansConfig.options tree p image ∧
            HasSides scansConfig.resolution p image) parts images := by
  have haccept : scansConfig.fault? = none := by decide
  obtain ⟨hlengths, hpages⟩ := page_lengths_of_accepted haccept
  obtain ⟨skipped, t', _, hcombine, _, _⟩ := scans_combine .fixed ⟨2026, 1, 18, 9, 30, 0⟩
  obtain ⟨images, d, himages, _, hread, root, tree, catalog, pages, parts, _, hsides⟩ :=
    hpages _ _ _ _ _ _ _ hcombine
  exact ⟨haccept, hlengths 1 (by decide) (by decide), skipped, t', hcombine, images, d, tree, parts,
    himages.length_eq.symm, hread, hsides⟩

/-- The finest resolution is accepted, but a single dot is then too long for a page. -/
theorem finest_resolution_overflows :
    ¬∀ c : Config, c.fault? = none → ∀ px, 1 ≤ px → px < 2 ^ 32 →
      ((Points.ofPixels px c.resolution).convert .single).isFinite = true := by
  intro h
  let c : Config := { scansConfig with resolution := ⟨false, 1⟩ }
  have haccept : c.fault? = none := by decide
  have hlength := isLength_ofPixels (isPositive_resolution haccept)
    (show 1 ≤ 1 by decide) (show 1 < 2 ^ 32 by decide)
  have hbelow := hlength.finite_iff.mp (h c haccept 1 (by decide) (by decide))
  have hunits : c.resolution.significand = 1 ∧ c.resolution.step = 0 := by decide
  rw [exactLength, absValue_single_eq, hunits.1, hunits.2] at hbelow
  norm_num at hbelow

end ScanBinder.Proofs
