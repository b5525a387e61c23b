/-!
# Rasters

A raster is a rectangle of pixels in rows from the top, each row from the left. Its width
and height fix the number of its pixels.
-/

namespace ScanBinder

/-- A gray pixel. -/
structure Luma (σ : Type) where
  l : σ
deriving DecidableEq

/-- A gray pixel with alpha. -/
structure LumaA (σ : Type) where
  l : σ
  a : σ
deriving DecidableEq

/-- A coloured pixel. -/
structure Rgb (σ : Type) where
  r : σ
  g : σ
  b : σ
deriving DecidableEq

/-- A coloured pixel with alpha. -/
structure Rgba (σ : Type) where
  r : σ
  g : σ
  b : σ
  a : σ
deriving DecidableEq

/-- The colour of a pixel without its alpha. -/
def Rgba.rgb {σ : Type} (p : Rgba σ) : Rgb σ :=
  ⟨p.r, p.g, p.b⟩

structure Raster (α : Type) where
  width : Nat
  height : Nat
  pixels : List α
  size_eq : pixels.length = width * height
deriving DecidableEq

namespace Raster

variable {α β : Type}

/-- Changes each pixel by itself. -/
def map (f : α → β) (r : Raster α) : Raster β :=
  ⟨r.width, r.height, r.pixels.map f, by rw [List.length_map, r.size_eq]⟩

/-- The raster of one colour. -/
def fill (width height : Nat) (a : α) : Raster α :=
  ⟨width, height, List.replicate (width * height) a, List.length_replicate⟩

/-- The raster of the first pixels of a list, if there are enough of them. -/
def ofPixels? (width height : Nat) (pixels : List α) : Option (Raster α) :=
  if h : width * height ≤ pixels.length then
    some ⟨width, height, pixels.take (width * height), by rw [List.length_take]; omega⟩
  else none

/-- The raster whose pixel in column `x` and row `y` is `f x y`. -/
def tabulate (width height : Nat) (f : Nat → Nat → α) : Raster α :=
  ⟨width, height, (List.range (width * height)).map fun i => f (i % width) (i / width),
    by rw [List.length_map, List.length_range]⟩

/-- The pixel in column `x` and row `y`. -/
def pixel? (r : Raster α) (x y : Nat) : Option α :=
  if x < r.width then r.pixels[y * r.width + x]? else none

end Raster

end ScanBinder
