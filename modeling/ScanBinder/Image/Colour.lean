import ScanBinder.Image.Raster
import ScanBinder.Number.Binary

/-!
# Colour

Samples have eight bits, sixteen bits, or are numbers between zero and one. Here they are
reduced to eight bits, and transparent pixels are laid over white.
-/

namespace ScanBinder

/-- A sixteen-bit sample in eight bits. -/
def narrow (v : UInt16) : UInt8 :=
  UInt8.ofNat ((v.toNat + 128) / 257)

/-- A fractional sample in eight bits. Everything that is not less than one is full, and
negative samples are zero. -/
def quantize (v : Single) : UInt8 :=
  if !v.less (.ofInt .single 1) then 255
  else if v.negative then 0
  else UInt8.ofNat (v * .ofInt .single 255).roundHalfUp

/-- `v / 255` to the nearest number, for `v` up to `255 * 255`. -/
def div255 (v : UInt32) : UInt32 :=
  let t := v + 128
  (t >>> 8 + t) >>> 8

/-- A channel over white, weighted by alpha. -/
def blendWhite (c a : UInt8) : UInt8 :=
  (div255 (c.toUInt32 * a.toUInt32 + 255 * (255 - a.toUInt32))).toUInt8

/-- A pixel over white. -/
def overWhite (p : Rgba UInt8) : Rgb UInt8 :=
  ⟨blendWhite p.r p.a, blendWhite p.g p.a, blendWhite p.b p.a⟩

/-- A transparent raster over white. -/
def flattenOnWhite (image : Raster (Rgba UInt8)) : Raster (Rgb UInt8) :=
  image.map overWhite

/-- Gray as a colour. -/
def Luma.rgb {σ : Type} (p : Luma σ) : Rgb σ :=
  ⟨p.l, p.l, p.l⟩

/-- The gray of a pixel without its alpha. -/
def LumaA.luma {σ : Type} (p : LumaA σ) : Luma σ :=
  ⟨p.l⟩

def Rgb.map {σ τ : Type} (f : σ → τ) (p : Rgb σ) : Rgb τ :=
  ⟨f p.r, f p.g, f p.b⟩

def Rgba.map {σ τ : Type} (f : σ → τ) (p : Rgba σ) : Rgba τ :=
  ⟨f p.r, f p.g, f p.b, f p.a⟩

end ScanBinder
