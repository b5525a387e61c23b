import ScanBinder.Bytes
import ScanBinder.Image.Colour

/-!
# Pictures

A decoded picture has one of ten layouts of samples. Whatever its layout, it is reduced to
an opaque raster of eight-bit colour in one of two ways: with the alpha of coloured pixels
laid over white, or with all alpha dropped.
-/

namespace ScanBinder

/-- The channels of a picture and the width of its samples. -/
inductive Layout where
  | l8
  | la8
  | rgb8
  | rgba8
  | l16
  | la16
  | rgb16
  | rgba16
  | rgb32f
  | rgba32f
deriving DecidableEq

namespace Layout

def all : List Layout :=
  [l8, la8, rgb8, rgba8, l16, la16, rgb16, rgba16, rgb32f, rgba32f]

def name : Layout → String
  | l8 => "L8"
  | la8 => "La8"
  | rgb8 => "Rgb8"
  | rgba8 => "Rgba8"
  | l16 => "L16"
  | la16 => "La16"
  | rgb16 => "Rgb16"
  | rgba16 => "Rgba16"
  | rgb32f => "Rgb32F"
  | rgba32f => "Rgba32F"

/-- The layout of a name. -/
def ofName? (s : String) : Option Layout :=
  all.find? (·.name = s)

end Layout

/-- A decoded picture. -/
inductive Picture where
  | l8 (raster : Raster (Luma UInt8))
  | la8 (raster : Raster (LumaA UInt8))
  | rgb8 (raster : Raster (Rgb UInt8))
  | rgba8 (raster : Raster (Rgba UInt8))
  | l16 (raster : Raster (Luma UInt16))
  | la16 (raster : Raster (LumaA UInt16))
  | rgb16 (raster : Raster (Rgb UInt16))
  | rgba16 (raster : Raster (Rgba UInt16))
  | rgb32f (raster : Raster (Rgb Single))
  | rgba32f (raster : Raster (Rgba Single))
deriving DecidableEq

/-! ## Samples in a row -/

/-- Gray pixels from their samples. -/
def lumas {σ : Type} (ss : List σ) : List (Luma σ) :=
  ss.map Luma.mk

/-- Gray pixels with alpha from their samples, those in `done` last first. -/
def lumaAs {σ : Type} (done : List (LumaA σ)) : List σ → List (LumaA σ)
  | l :: a :: ss => lumaAs (⟨l, a⟩ :: done) ss
  | _ => done.reverse

/-- Coloured pixels from their samples, those in `done` last first. -/
def rgbs {σ : Type} (done : List (Rgb σ)) : List σ → List (Rgb σ)
  | r :: g :: b :: ss => rgbs (⟨r, g, b⟩ :: done) ss
  | _ => done.reverse

/-- Coloured pixels with alpha from their samples, those in `done` last first. -/
def rgbas {σ : Type} (done : List (Rgba σ)) : List σ → List (Rgba σ)
  | r :: g :: b :: a :: ss => rgbas (⟨r, g, b, a⟩ :: done) ss
  | _ => done.reverse

/-- Sixteen-bit samples, most significant byte first, those in `done` last first. -/
def words (done : List UInt16) : Bytes → List UInt16
  | hi :: lo :: bs => words (UInt16.ofNat (hi.toNat * 256 + lo.toNat) :: done) bs
  | _ => done.reverse

/-- Fractional samples, most significant byte first, those in `done` last first. -/
def singles (done : List Single) : Bytes → List Single
  | a :: b :: c :: d :: bs => singles (.ofBits .single (Bytes.bigEndian [a, b, c, d]) :: done) bs
  | _ => done.reverse

def Luma.samples {σ : Type} (p : Luma σ) : List σ := [p.l]
def LumaA.samples {σ : Type} (p : LumaA σ) : List σ := [p.l, p.a]
def Rgb.samples {σ : Type} (p : Rgb σ) : List σ := [p.r, p.g, p.b]
def Rgba.samples {σ : Type} (p : Rgba σ) : List σ := [p.r, p.g, p.b, p.a]

def wordBytes (v : UInt16) : Bytes :=
  Bytes.ofNatBE 2 v.toNat

def singleBytes (v : Single) : Bytes :=
  Bytes.ofNatBE 4 v.toBits

/-- The samples of an opaque raster, pixel after pixel. -/
def Raster.rgbBytes (r : Raster (Rgb UInt8)) : Bytes :=
  r.pixels.flatMap Rgb.samples

namespace Picture

/-- The picture of a layout whose samples are given most significant byte first. There
have to be enough of them, and the rest is left out. -/
def ofSamples? (layout : Layout) (width height : Nat) (bs : Bytes) : Option Picture :=
  match layout with
  | .l8 => (Raster.ofPixels? width height (lumas bs)).map l8
  | .la8 => (Raster.ofPixels? width height (lumaAs [] bs)).map la8
  | .rgb8 => (Raster.ofPixels? width height (rgbs [] bs)).map rgb8
  | .rgba8 => (Raster.ofPixels? width height (rgbas [] bs)).map rgba8
  | .l16 => (Raster.ofPixels? width height (lumas (words [] bs))).map l16
  | .la16 => (Raster.ofPixels? width height (lumaAs [] (words [] bs))).map la16
  | .rgb16 => (Raster.ofPixels? width height (rgbs [] (words [] bs))).map rgb16
  | .rgba16 => (Raster.ofPixels? width height (rgbas [] (words [] bs))).map rgba16
  | .rgb32f => (Raster.ofPixels? width height (rgbs [] (singles [] bs))).map rgb32f
  | .rgba32f => (Raster.ofPixels? width height (rgbas [] (singles [] bs))).map rgba32f

def layout : Picture → Layout
  | l8 _ => .l8
  | la8 _ => .la8
  | rgb8 _ => .rgb8
  | rgba8 _ => .rgba8
  | l16 _ => .l16
  | la16 _ => .la16
  | rgb16 _ => .rgb16
  | rgba16 _ => .rgba16
  | rgb32f _ => .rgb32f
  | rgba32f _ => .rgba32f

def width : Picture → Nat
  | l8 r => r.width
  | la8 r => r.width
  | rgb8 r => r.width
  | rgba8 r => r.width
  | l16 r => r.width
  | la16 r => r.width
  | rgb16 r => r.width
  | rgba16 r => r.width
  | rgb32f r => r.width
  | rgba32f r => r.width

def height : Picture → Nat
  | l8 r => r.height
  | la8 r => r.height
  | rgb8 r => r.height
  | rgba8 r => r.height
  | l16 r => r.height
  | la16 r => r.height
  | rgb16 r => r.height
  | rgba16 r => r.height
  | rgb32f r => r.height
  | rgba32f r => r.height

/-- The samples, most significant byte first. -/
def sampleBytes : Picture → Bytes
  | l8 r => r.pixels.flatMap Luma.samples
  | la8 r => r.pixels.flatMap LumaA.samples
  | rgb8 r => r.pixels.flatMap Rgb.samples
  | rgba8 r => r.pixels.flatMap Rgba.samples
  | l16 r => r.pixels.flatMap (·.samples.flatMap wordBytes)
  | la16 r => r.pixels.flatMap (·.samples.flatMap wordBytes)
  | rgb16 r => r.pixels.flatMap (·.samples.flatMap wordBytes)
  | rgba16 r => r.pixels.flatMap (·.samples.flatMap wordBytes)
  | rgb32f r => r.pixels.flatMap (·.samples.flatMap singleBytes)
  | rgba32f r => r.pixels.flatMap (·.samples.flatMap singleBytes)

/-- The picture in opaque eight-bit colour: coloured pixels with alpha are laid over
white, gray ones lose their alpha. -/
def toRgb : Picture → Raster (Rgb UInt8)
  | l8 r => r.map Luma.rgb
  | la8 r => r.map (·.luma.rgb)
  | rgb8 r => r
  | rgba8 r => flattenOnWhite r
  | l16 r => r.map (·.rgb.map narrow)
  | la16 r => r.map (·.luma.rgb.map narrow)
  | rgb16 r => r.map (·.map narrow)
  | rgba16 r => flattenOnWhite (r.map (·.map narrow))
  | rgb32f r => r.map (·.map quantize)
  | rgba32f r => flattenOnWhite (r.map (·.map quantize))

/-- The picture in eight-bit colour without any alpha. -/
def dropAlpha : Picture → Raster (Rgb UInt8)
  | rgba8 r => r.map Rgba.rgb
  | rgba16 r => r.map (·.rgb.map narrow)
  | rgba32f r => r.map (·.rgb.map quantize)
  | p => p.toRgb

end Picture

end ScanBinder
