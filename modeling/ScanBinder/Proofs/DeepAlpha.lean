import Mathlib.Algebra.Order.Ring.Abs
import Mathlib.Tactic.NormNum
import Mathlib.Tactic.Positivity
import Mathlib.Tactic.Ring
import ScanBinder.Proofs.PictureSamples

/-!
# Sixteen-bit pixels over white

Colour and alpha of sixteen bits are first brought to eight bits and then laid over white. Three
roundings meet in a channel: those of the colour and of alpha, each of which counts as often as
the other sample is large, and that of the composite. Together they stay below two steps of the
result. Nothing of the colour is lost beyond its own rounding where alpha is full, and a clear
pixel is white.
-/

namespace ScanBinder.Proofs

/-- A channel of sixteen bits laid over white, exactly, as a number from 0 to 255. -/
def exactDeepComposite (c a : UInt16) : ℚ :=
  255 - (a.toNat : ℚ) / 65535 * (255 - 255 * c.toNat / 65535)

/-! ## The errors -/

/-- A sample of sixteen bits as a number from 0 to 255. -/
def scaled (v : UInt16) : ℚ :=
  (v.toNat : ℚ) / 257

lemma scaled_bounds (v : UInt16) : 0 ≤ scaled v ∧ scaled v ≤ 255 := by
  have hv : v.toNat ≤ 65535 := Nat.le_of_lt_succ v.toNat_lt
  qify at hv
  unfold scaled
  constructor
  · positivity
  · linarith

lemma narrow_error (v : UInt16) : |((narrow v).toNat : ℚ) - scaled v| ≤ 128 / 257 := by
  have hlow : v.toNat ≤ 257 * (narrow v).toNat + 128 := by
    rw [toNat_narrow]
    omega
  have hhigh : 257 * (narrow v).toNat ≤ v.toNat + 128 := by
    rw [toNat_narrow]
    omega
  qify at hlow hhigh
  unfold scaled
  rw [abs_le]
  constructor
  · linarith
  · linarith

/-- The error of each factor counts as often as the other factor is large. -/
lemma product_error {x x' y y' e : ℚ} (hx' : 0 ≤ x' ∧ x' ≤ 255) (hy : 0 ≤ y ∧ y ≤ 255)
    (hxe : |x' - x| ≤ e) (hye : |y' - y| ≤ e) : |x' * y' - x * y| ≤ 255 * e + 255 * e := by
  have hsplit : x' * y' - x * y = x' * (y' - y) + y * (x' - x) := by ring
  calc |x' * y' - x * y|
      ≤ |x' * (y' - y)| + |y * (x' - x)| := by
        rw [hsplit]
        exact abs_add_le _ _
    _ = x' * |y' - y| + y * |x' - x| := by
        rw [abs_mul, abs_mul, abs_of_nonneg hx'.1, abs_of_nonneg hy.1]
    _ ≤ 255 * e + 255 * e :=
        add_le_add (mul_le_mul hx'.2 hye (abs_nonneg _) (by norm_num))
          (mul_le_mul hy.2 hxe (abs_nonneg _) (by norm_num))

/-- Both composites take from white the product of alpha and of what the colour lacks. -/
lemma exactComposite_eq (c a : UInt8) :
    exactComposite c a = 255 - (a.toNat : ℚ) * (255 - c.toNat) / 255 := by
  unfold exactComposite
  ring

lemma exactDeepComposite_eq (c a : UInt16) :
    exactDeepComposite c a = 255 - scaled a * (255 - scaled c) / 255 := by
  unfold exactDeepComposite scaled
  ring

/-- The composite of the reduced samples is near that of the samples. -/
lemma exactComposite_narrow_error (c a : UInt16) :
    |exactComposite (narrow c) (narrow a) - exactDeepComposite c a| ≤ 256 / 257 := by
  have hbyte : ((narrow a).toNat : ℚ) ≤ 255 := by
    exact_mod_cast Nat.le_of_lt_succ (narrow a).toNat_lt
  obtain ⟨hlow, hhigh⟩ := scaled_bounds c
  have hlack : |(255 - ((narrow c).toNat : ℚ)) - (255 - scaled c)| ≤ 128 / 257 := by
    rw [sub_sub_sub_cancel_left, abs_sub_comm]
    exact narrow_error c
  have hproduct := product_error ⟨by positivity, hbyte⟩
    (show 0 ≤ 255 - scaled c ∧ 255 - scaled c ≤ 255 from ⟨by linarith, by linarith⟩)
    (narrow_error a) hlack
  rw [abs_le] at hproduct ⊢
  rw [exactComposite_eq, exactDeepComposite_eq]
  constructor
  · linarith
  · linarith

/-- All three errors together. -/
lemma blendWhite_narrow_error (c a : UInt16) :
    |((blendWhite (narrow c) (narrow a)).toNat : ℚ) - exactDeepComposite c a| < 3 / 2 := by
  have hround := exactComposite_sub_lt_half (blendWhite_isComposite (narrow c) (narrow a))
  have hnarrow := exactComposite_narrow_error c a
  rw [abs_sub_comm] at hround
  calc |((blendWhite (narrow c) (narrow a)).toNat : ℚ) - exactDeepComposite c a|
      ≤ |((blendWhite (narrow c) (narrow a)).toNat : ℚ) - exactComposite (narrow c) (narrow a)| +
          |exactComposite (narrow c) (narrow a) - exactDeepComposite c a| := abs_sub_le _ _ _
    _ < 1 / 2 + 256 / 257 := add_lt_add_of_lt_of_le hround hnarrow
    _ < 3 / 2 := by norm_num

/-! ## Every pixel -/

/-- What a channel of sixteen bits is over white. -/
structure IsDeepOverWhite (c a : UInt16) (v : UInt8) : Prop where
  reduced : ∃ c' a' : UInt8, c'.toNat = (c.toNat + 128) / 257 ∧
    a'.toNat = (a.toNat + 128) / 257 ∧ v = blendWhite c' a'
  near : |(v.toNat : ℚ) - exactDeepComposite c a| < 2
  of_full : a = 65535 → v.toNat = (c.toNat + 128) / 257
  of_clear : a = 0 → v = 255

lemma blendWhite_narrow_isDeepOverWhite (c a : UInt16) :
    IsDeepOverWhite c a (blendWhite (narrow c) (narrow a)) := by
  have hwhite := blendWhite_isOverWhite (narrow c) (narrow a)
  refine ⟨⟨narrow c, narrow a, toNat_narrow c, toNat_narrow a, rfl⟩, ?_, ?_, ?_⟩
  · exact lt_trans (blendWhite_narrow_error c a) (by norm_num)
  · rintro rfl
    rw [hwhite.of_full rfl, toNat_narrow]
  · rintro rfl
    exact hwhite.of_clear rfl

/-- A picture of sixteen bits with alpha keeps its size in opaque colour, and each channel is less
than two steps away from the exact composite of its sample. -/
theorem toRgb_deep_error (image : Raster (Rgba UInt16)) :
    (Picture.rgba16 image).toRgb.width = image.width ∧
      (Picture.rgba16 image).toRgb.height = image.height ∧
      ∀ x y, x < image.width → y < image.height →
        ∃ p q, image.pixel? x y = some p ∧ (Picture.rgba16 image).toRgb.pixel? x y = some q ∧
          IsDeepOverWhite p.r p.a q.r ∧ IsDeepOverWhite p.g p.a q.g ∧
          IsDeepOverWhite p.b p.a q.b := by
  refine ⟨rfl, rfl, ?_⟩
  intro x y hx hy
  obtain ⟨p, hp⟩ := exists_pixel hx hy
  have hq : (Picture.rgba16 image).toRgb.pixel? x y = some (overWhite (p.map narrow)) := by
    unfold Picture.toRgb flattenOnWhite
    rw [pixel?_map, pixel?_map, hp]
    rfl
  exact ⟨p, overWhite (p.map narrow), hp, hq, blendWhite_narrow_isDeepOverWhite p.r p.a,
    blendWhite_narrow_isDeepOverWhite p.g p.a, blendWhite_narrow_isDeepOverWhite p.b p.a⟩

/-- Opaque, clear, and with samples that are all rounded away from their values. -/
def deepVeil : Raster (Rgba UInt16) :=
  ⟨3, 1, [⟨128, 129, 40000, 65535⟩, ⟨65535, 0, 0, 0⟩, ⟨128, 32896, 385, 32767⟩], rfl⟩

theorem toRgb_deep_error_veil :
    (Picture.rgba16 deepVeil).toRgb.pixel? 0 0 = some ⟨0, 1, 156⟩ ∧
      (Picture.rgba16 deepVeil).toRgb.pixel? 1 0 = some ⟨255, 255, 255⟩ ∧
      ∃ q, (Picture.rgba16 deepVeil).toRgb.pixel? 2 0 = some q ∧
        |(q.r.toNat : ℚ) - exactDeepComposite 128 32767| < 2 ∧
        |(q.g.toNat : ℚ) - exactDeepComposite 32896 32767| < 2 := by
  obtain ⟨_, _, hpixels⟩ := toRgb_deep_error deepVeil
  obtain ⟨p, q, hp, hq, hr, hg, hb⟩ := hpixels 0 0 (by decide) (by decide)
  obtain ⟨p', q', hp', hq', hr', hg', hb'⟩ := hpixels 1 0 (by decide) (by decide)
  obtain ⟨p'', q'', hp'', hq'', hr'', hg'', _⟩ := hpixels 2 0 (by decide) (by decide)
  obtain rfl : ⟨128, 129, 40000, 65535⟩ = p := Option.some.inj hp
  obtain rfl : ⟨65535, 0, 0, 0⟩ = p' := Option.some.inj hp'
  obtain rfl : ⟨128, 32896, 385, 32767⟩ = p'' := Option.some.inj hp''
  refine ⟨?_, ?_, q'', hq'', hr''.near, hg''.near⟩
  · cases q with
    | mk r g b =>
      rw [hq, Option.some_inj, Rgb.mk.injEq]
      exact ⟨UInt8.toNat_inj.mp (hr.of_full rfl), UInt8.toNat_inj.mp (hg.of_full rfl),
        UInt8.toNat_inj.mp (hb.of_full rfl)⟩
  · cases q' with
    | mk r g b =>
      rw [hq', Option.some_inj, Rgb.mk.injEq]
      exact ⟨hr'.of_clear rfl, hg'.of_clear rfl, hb'.of_clear rfl⟩

end ScanBinder.Proofs
