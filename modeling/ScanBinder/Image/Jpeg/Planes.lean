import ScanBinder.Image.Jpeg.Blocks

/-!
# Planes of blocks

Each component has a plane of blocks. A scan of several components goes through the image in
units, which cover the same part of the image in every component; a scan of one component
goes through the blocks of its plane in rows. Data that ends early, or that makes no sense,
leaves blocks as they are up to the next restart.
-/

namespace ScanBinder.Jpeg

/-- The blocks of a component in rows: their number across, the number of those across and
down that a scan of the component alone brings, and their waves. -/
structure Plane where
  across : Nat
  ownAcross : Nat
  ownDown : Nat
  blocks : Array Block

/-- How often `n` has to be taken to reach `m`. -/
def ceilDiv (m n : Nat) : Nat :=
  (m + n - 1) / n

/-- How an image is divided: the largest shares of samples, and the units across and down. -/
structure Layout where
  most : Nat
  mostDown : Nat
  unitsAcross : Nat
  unitsDown : Nat

/-- The layout of a frame. -/
def Frame.layout (f : Frame) : Layout :=
  let most := (f.components.map Component.across).foldl max 1
  let mostDown := (f.components.map Component.down).foldl max 1
  ⟨most, mostDown, ceilDiv f.width (8 * most), ceilDiv f.height (8 * mostDown)⟩

/-- The planes of a frame, with blank blocks. -/
def Frame.planes (f : Frame) : Array Plane :=
  let l := f.layout
  (f.components.map fun c =>
    { across := l.unitsAcross * c.across
      ownAcross := ceilDiv (ceilDiv (f.width * c.across) l.most) 8
      ownDown := ceilDiv (ceilDiv (f.height * c.down) l.mostDown) 8
      blocks := Array.replicate (l.unitsAcross * c.across * (l.unitsDown * c.down)) .blank
      : Plane }).toArray

/-- A component in a scan: its place in the frame, its share of samples, and its codes. -/
structure Guest where
  place : Nat
  across : Nat
  down : Nat
  coding : Coding

/-- The blocks of a component in the unit with the given number. -/
def Guest.blocksOfUnit (g : Guest) (l : Layout) (unit : Nat) : List Nat :=
  let row := unit / l.unitsAcross * g.down
  let column := unit % l.unitsAcross * g.across
  (List.range g.down).flatMap fun v =>
    (List.range g.across).map fun h => (row + v) * (l.unitsAcross * g.across) + column + h

/-- Reads blocks of a component. -/
def Guest.read (g : Guest) (band : Band) : List Nat → Option Cursor → Array Plane →
    Option Cursor × Array Plane
  | i :: is, some cur, planes =>
    let block := ((planes[g.place]?).bind (·.blocks[i]?)).getD .blank
    match cur.readBlock? g.coding band block with
    | some (block, cur) =>
      g.read band is (some cur)
        (planes.modify g.place fun p => { p with blocks := p.blocks.setIfInBounds i block })
    | none => (none, planes)
  | _, cur, planes => (cur, planes)

/-- Reads a unit: the blocks of one component after those of another. Each component has a
first wave before it of its own; the rest carries over. -/
def readUnit (band : Band) : List (Guest × List Nat) → List Int → Option Cursor →
    Array Plane → List Int × Option Cursor × Array Plane
  | (g, blocks) :: more, before :: befores, cur, planes =>
    let (cur, planes) := g.read band blocks (cur.map ({ · with before })) planes
    let (befores, rest, planes) := readUnit band more befores cur planes
    ((cur.map Cursor.before).getD before :: befores, rest, planes)
  | _, befores, cur, planes => (befores, cur, planes)

/-- Opens the first of the pieces. -/
def openPiece (pieces : List Bytes) : Option Cursor :=
  pieces.head?.map fun piece => ⟨0, 0, .down piece⟩

/-- Reads units from one piece of data after another; `left` of them remain in the present
one. -/
def readUnits (guests : List Guest) (band : Band) (restart : Nat) :
    (units : List (List (Guest × List Nat))) → (left : Nat) → List Int → Option Cursor →
    List Bytes → Array Plane → Array Plane
  | [], _, _, _, _, planes => planes
  | unit :: units, left, befores, cur, more, planes =>
    if restart ≠ 0 ∧ left = 0 then
      let (befores, cur, planes) := readUnit band unit (guests.map fun _ => 0) (openPiece more) planes
      readUnits guests band restart units (restart - 1) befores cur more.tail planes
    else
      let (befores, cur, planes) := readUnit band unit befores cur planes
      readUnits guests band restart units (left - 1) befores cur more planes

/-- The components of a scan that have code tables. A scan that brings only first waves, or
none of them, needs only one of the tables. -/
def guestsOf (t : Tables) (components : List Component) (scan : Scan) : List Guest :=
  scan.places.filterMap fun place =>
    components[place]?.map fun c =>
      let noCode : PrefixCode := ⟨[], #[]⟩
      ⟨place, c.across, c.down,
        ⟨(t.dc.lookup c.dc).getD noCode, (t.ac.lookup c.ac).getD noCode⟩⟩

/-- The blocks of a scan, unit by unit. -/
def unitsOf (l : Layout) (guests : List Guest) (planes : Array Plane) :
    List (List (Guest × List Nat)) :=
  match guests with
  | [g] =>
    match planes[g.place]? with
    | some p =>
      (List.range p.ownDown).flatMap fun row =>
        (List.range p.ownAcross).map fun column => [(g, [row * p.across + column])]
    | none => []
  | _ =>
    (List.range (l.unitsAcross * l.unitsDown)).map fun unit =>
      guests.map fun g => (g, g.blocksOfUnit l unit)

/-- Reads the data of a scan, up to the marker that ends it. -/
def readData (t : Tables) (frame : Frame) (scan : Scan) (data : Bytes) (planes : Array Plane) :
    Array Plane × Bytes :=
  let guests := guestsOf t frame.components scan
  let (pieces, rest) := intervals [] [] data
  (readUnits guests scan.band t.restart (unitsOf frame.layout guests planes) t.restart
    (guests.map fun _ => 0) (openPiece pieces) pieces.tail planes, rest)

/-- Reads the data of a scan and of the scans after it, as far as they can be read. -/
def readScans : (fuel : Nat) → Tables → Scan → Bytes → Array Plane → Array Plane
  | 0, _, _, _, planes => planes
  | fuel + 1, t, scan, data, planes =>
    match t.frame with
    | none => planes
    | some frame =>
      let (planes, rest) := readData t frame scan data planes
      match Tables.readToScan (rest.length + 1) 0 t rest with
      | .ok (t, scan, data) => readScans fuel t scan data planes
      | .error _ => planes

end ScanBinder.Jpeg
