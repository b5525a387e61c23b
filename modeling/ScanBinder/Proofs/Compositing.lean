import Mathlib.Data.Rat.Cast.Order
import Mathlib.Tactic.Linarith
import Mathlib.Tactic.Qify
import ScanBinder.Proofs.PaletteColours

/-!
# Rasters over white

A channel over white is the integer nearest to the exact composite. The division by 255 is done
with shifts on 32 bits and its result cut to eight; the same steps with a check at each of them
give the same channel, so nothing wraps and nothing is cut off.
-/

namespace ScanBinder.Proofs

/-! ## The nearest channel -/

/-- A channel laid over white, exactly. -/
def exactComposite (c a : UInt8) : ℚ :=
  ((c.toNat : ℚ) * a.toNat + 255 * (255 - a.toNat)) / 255

/-- Every other integer is farther away, so there is no tie. -/
def IsNearestInteger (v : ℤ) (x : ℚ) : Prop :=
  ∀ k : ℤ, k ≠ v → |x - v| < |x - k|

lemma isNearestInteger_of_lt_half {v : ℤ} {x : ℚ} (h : |x - v| < 1 / 2) :
    IsNearestInteger v x := by
  intro k hk
  have hapart : (1 : ℚ) ≤ |(v : ℚ) - k| := by
    exact_mod_cast Int.one_le_abs (sub_ne_zero.mpr (Ne.symm hk))
  have htriangle := abs_sub_le (v : ℚ) x k
  rw [abs_sub_comm (v : ℚ) x] at htriangle
  linarith

lemma exactComposite_sub_lt_half {c a v : UInt8} (h : IsComposite c a v) :
    |exactComposite c a - v.toNat| < 1 / 2 := by
  have ha : a.toNat ≤ 255 := Nat.le_of_lt_succ a.toNat_lt
  obtain ⟨hlow, hhigh⟩ := h
  qify [ha] at hlow hhigh
  unfold exactComposite
  rw [abs_lt]
  constructor
  · linarith
  · linarith

lemma isNearestInteger_of_isComposite {c a v : UInt8} (h : IsComposite c a v) :
    IsNearestInteger v.toNat (exactComposite c a) := by
  apply isNearestInteger_of_lt_half
  rw [Int.cast_natCast]
  exact exactComposite_sub_lt_half h

/-- Laying a channel over white makes it no darker. -/
lemma le_of_isComposite {c a v : UInt8} (h : IsComposite c a v) : c ≤ v := by
  have hc : c.toNat ≤ 255 := Nat.le_of_lt_succ c.toNat_lt
  have ha : a.toNat ≤ 255 := Nat.le_of_lt_succ a.toNat_lt
  have hwhite : c.toNat * (255 - a.toNat) ≤ 255 * (255 - a.toNat) := Nat.mul_le_mul_right _ hc
  have hsum : c.toNat * a.toNat + c.toNat * (255 - a.toNat) = c.toNat * 255 := by
    rw [← Nat.mul_add, Nat.add_sub_cancel' ha]
  have hlow := h.1
  rw [UInt8.le_iff_toNat_le]
  omega

lemma composite_of_full {c v : UInt8} (h : IsComposite c 255 v) : v = c := by
  unfold IsComposite at h
  apply UInt8.toNat_inj.mp
  simp only [UInt8.reduceToNat, Nat.sub_self, Nat.mul_zero, Nat.add_zero] at h
  omega

/-! ## Arithmetic with checks

An operation is refused where it would wrap, become negative or lose a part of the number. -/

def checkedAdd (x y : UInt32) : Option UInt32 :=
  if x.toNat + y.toNat < 4294967296 then some (x + y) else none

def checkedMul (x y : UInt32) : Option UInt32 :=
  if x.toNat * y.toNat < 4294967296 then some (x * y) else none

def checkedSub (x y : UInt32) : Option UInt32 :=
  if y.toNat ≤ x.toNat then some (x - y) else none

def checkedByte (x : UInt32) : Option UInt8 :=
  if x.toNat < 256 then some x.toUInt8 else none

def checkedDiv255 (v : UInt32) : Option UInt32 := do
  let t ← checkedAdd v 128
  let u ← checkedAdd (t >>> 8) t
  return u >>> 8

/-- The steps of `blendWhite`, with a check at each. -/
def checkedBlendWhite (c a : UInt8) : Option UInt8 := do
  let rest ← checkedSub 255 a.toUInt32
  let colour ← checkedMul c.toUInt32 a.toUInt32
  let white ← checkedMul 255 rest
  let sum ← checkedAdd colour white
  let quotient ← checkedDiv255 sum
  checkedByte quotient

section
variable {x y v : UInt32}

lemma checkedAdd_eq_some (h : x.toNat + y.toNat < 4294967296) : checkedAdd x y = some (x + y) :=
  if_pos h

lemma checkedMul_eq_some (h : x.toNat * y.toNat < 4294967296) : checkedMul x y = some (x * y) :=
  if_pos h

lemma checkedSub_eq_some (h : y.toNat ≤ x.toNat) : checkedSub x y = some (x - y) :=
  if_pos h

lemma checkedByte_eq_some (h : x.toNat < 256) : checkedByte x = some x.toUInt8 :=
  if_pos h

lemma checkedDiv255_eq_some (h : v.toNat ≤ 65025) : checkedDiv255 v = some (div255 v) := by
  have hbias : v.toNat + (128 : UInt32).toNat < 4294967296 := by
    change v.toNat + 128 < 4294967296
    omega
  have hshift : ((v + 128) >>> 8).toNat ≤ (v + 128).toNat := by
    rw [UInt32.toNat_shiftRight]
    exact Nat.shiftRight_le _ _
  have hfold : ((v + 128) >>> 8).toNat + (v + 128).toNat < 4294967296 := by
    rw [add_128_toNat h] at hshift ⊢
    omega
  unfold checkedDiv255
  rw [checkedAdd_eq_some hbias, Option.bind_eq_bind, Option.bind_some, checkedAdd_eq_some hfold]
  rfl

end

/-- A channel passes every check. -/
theorem checkedBlendWhite_eq_some (c a : UInt8) :
    checkedBlendWhite c a = some (blendWhite c a) := by
  have hc : c.toUInt32.toNat ≤ 255 := Nat.le_of_lt_succ c.toNat_lt
  have ha : a.toUInt32.toNat ≤ (255 : UInt32).toNat := Nat.le_of_lt_succ a.toNat_lt
  have hrest : (255 - a.toUInt32).toNat ≤ 255 := by
    rw [sub_alpha_toNat]
    exact Nat.sub_le _ _
  have hcolour : c.toUInt32.toNat * a.toUInt32.toNat ≤ 65025 := Nat.mul_le_mul hc ha
  have hwhite : (255 : UInt32).toNat * (255 - a.toUInt32).toNat ≤ 65025 :=
    Nat.mul_le_mul (Nat.le_refl 255) hrest
  have hparts : (c.toUInt32 * a.toUInt32).toNat + (255 * (255 - a.toUInt32)).toNat < 4294967296 := by
    rw [UInt32.toNat_mul, UInt32.toNat_mul]
    have hmod := Nat.add_le_add (Nat.mod_le (c.toUInt32.toNat * a.toUInt32.toNat) (2 ^ 32))
      (Nat.mod_le ((255 : UInt32).toNat * (255 - a.toUInt32).toNat) (2 ^ 32))
    omega
  obtain ⟨hsum, hle⟩ := weighted_toNat c a
  rw [← hsum] at hle
  have hquotient := div255_toNat hle
  unfold checkedBlendWhite
  simp only [Option.bind_eq_bind]
  rw [checkedSub_eq_some ha, Option.bind_some, checkedMul_eq_some (by omega), Option.bind_some,
    checkedMul_eq_some (by omega), Option.bind_some, checkedAdd_eq_some hparts, Option.bind_some,
    checkedDiv255_eq_some hle, Option.bind_some, checkedByte_eq_some (by omega)]
  rfl

/-! ## Every pixel -/

/-- What a channel is over white. -/
structure IsOverWhite (c a v : UInt8) : Prop where
  nearest : IsNearestInteger v.toNat (exactComposite c a)
  between : c ≤ v ∧ v ≤ 255
  of_full : a = 255 → v = c
  of_clear : a = 0 → v = 255
  unwrapped : checkedBlendWhite c a = some v

lemma blendWhite_isOverWhite (c a : UInt8) : IsOverWhite c a (blendWhite c a) := by
  have hcomposite := blendWhite_isComposite c a
  have hwhite : blendWhite c a ≤ 255 := by
    rw [UInt8.le_iff_toNat_le]
    exact Nat.le_of_lt_succ (blendWhite c a).toNat_lt
  refine ⟨isNearestInteger_of_isComposite hcomposite, ⟨le_of_isComposite hcomposite, hwhite⟩,
    ?_, ?_, checkedBlendWhite_eq_some c a⟩
  · rintro rfl
    exact composite_of_full hcomposite
  · rintro rfl
    exact composite_of_transparent hcomposite

lemma exists_pixel {α : Type} {r : Raster α} {x y : Nat} (hx : x < r.width) (hy : y < r.height) :
    ∃ p, r.pixel? x y = some p := by
  have hindex : y * r.width + x < r.pixels.length := by
    rw [r.size_eq, Nat.mul_comm r.width]
    calc y * r.width + x < y * r.width + r.width := Nat.add_lt_add_left hx _
      _ = (y + 1) * r.width := (Nat.succ_mul _ _).symm
      _ ≤ r.height * r.width := Nat.mul_le_mul_right _ hy
  unfold Raster.pixel?
  rw [if_pos hx, List.getElem?_eq_getElem hindex]
  exact ⟨_, rfl⟩

/-- Laying a raster over white keeps its size, and at every place each channel is the one nearest
to the exact composite there. -/
theorem flattenOnWhite_nearest (image : Raster (Rgba UInt8)) :
    (flattenOnWhite image).width = image.width ∧ (flattenOnWhite image).height = image.height ∧
      ∀ x y, x < image.width → y < image.height →
        ∃ p q, image.pixel? x y = some p ∧ (flattenOnWhite image).pixel? x y = some q ∧
          IsOverWhite p.r p.a q.r ∧ IsOverWhite p.g p.a q.g ∧ IsOverWhite p.b p.a q.b := by
  refine ⟨rfl, rfl, ?_⟩
  intro x y hx hy
  obtain ⟨p, hp⟩ := exists_pixel hx hy
  have hq : (flattenOnWhite image).pixel? x y = some (overWhite p) := by
    unfold flattenOnWhite
    rw [pixel?_map, hp]
    rfl
  exact ⟨p, overWhite p, hp, hq, blendWhite_isOverWhite p.r p.a, blendWhite_isOverWhite p.g p.a,
    blendWhite_isOverWhite p.b p.a⟩

/-- A clear pixel beside a half clear one. -/
def veil : Raster (Rgba UInt8) :=
  ⟨2, 1, [⟨10, 20, 30, 0⟩, ⟨0, 200, 255, 128⟩], rfl⟩

theorem flattenOnWhite_nearest_veil :
    (flattenOnWhite veil).pixel? 1 0 = some ⟨127, 227, 255⟩ ∧
      IsNearestInteger 127 (exactComposite 0 128) ∧
      IsNearestInteger 227 (exactComposite 200 128) ∧
      (flattenOnWhite veil).pixel? 0 0 = some ⟨255, 255, 255⟩ := by
  obtain ⟨_, _, hpixels⟩ := flattenOnWhite_nearest veil
  obtain ⟨p, q, hp, hq, hr, hg, _⟩ := hpixels 1 0 (by decide) (by decide)
  obtain ⟨p', q', hp', hq', hr', hg', hb'⟩ := hpixels 0 0 (by decide) (by decide)
  have hhalf : (flattenOnWhite veil).pixel? 1 0 = some ⟨127, 227, 255⟩ := by decide
  obtain rfl : ⟨0, 200, 255, 128⟩ = p := Option.some.inj hp
  obtain rfl : ⟨10, 20, 30, 0⟩ = p' := Option.some.inj hp'
  obtain rfl := Option.some.inj (hq.symm.trans hhalf)
  refine ⟨hhalf, hr.nearest, hg.nearest, ?_⟩
  cases q' with
  | mk r g b =>
    rw [hq', Option.some_inj, Rgb.mk.injEq]
    exact ⟨hr'.of_clear rfl, hg'.of_clear rfl, hb'.of_clear rfl⟩

end ScanBinder.Proofs
