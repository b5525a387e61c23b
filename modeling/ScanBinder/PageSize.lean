import ScanBinder.Number.Binary

/-!
# Page sizes

Lengths are counted in points, of which an inch has 72. An image printed at a resolution
of so many dots per inch fills a page of its own.
-/

namespace ScanBinder

/-- A length in points. -/
abbrev Points := Double

/-- How many points an inch has. -/
def pointsPerInch : Double :=
  .ofInt .double 72

def Points.ofInches (inches : Double) : Points :=
  inches * pointsPerInch

/-- The length of a row of dots. -/
def Points.ofPixels (pixels : Nat) (dpi : Single) : Points :=
  .ofInches (.ofInt .double pixels / dpi.convert .double)

/-- The size of a page. -/
structure PageSize where
  width : Points
  height : Points
deriving DecidableEq

/-- A rectangle from its lower left to its upper right corner. -/
structure Box where
  left : Single
  bottom : Single
  right : Single
  top : Single
deriving DecidableEq

namespace PageSize

/-- The page that an image fills. -/
def ofImage (width height : Nat) (dpi : Single) : PageSize :=
  ⟨.ofPixels width dpi, .ofPixels height dpi⟩

/-- The rectangle of the page, with a corner at zero. -/
def mediaBox (p : PageSize) : Box :=
  ⟨⟨false, 0⟩, ⟨false, 0⟩, p.width.convert .single, p.height.convert .single⟩

end PageSize

end ScanBinder
