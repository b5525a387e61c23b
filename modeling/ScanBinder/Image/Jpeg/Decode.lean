import ScanBinder.Image.Jpeg.Course
import ScanBinder.Image.Jpeg.Planes
import ScanBinder.Image.Jpeg.Tables
import ScanBinder.Image.Jpeg.Transform
import ScanBinder.Image.Picture

/-!
# Reading JPEG files

The waves of each block are scaled by the steps of their component and turned into samples,
and the samples of the components under a pixel make its colour.
-/

namespace ScanBinder.Jpeg

/-- The samples of a component, block after block. -/
structure Samples where
  across : Nat
  down : Nat
  blocksAcross : Nat
  blocks : Array (Array Int)

/-- The samples of a block; those of a block without waves are all zero. -/
def samplesOfBlock (steps : Array Nat) (block : Block) : Array Int :=
  if block.all (· = 0) then Block.blank
  else inverse ((List.range 64).foldl
    (fun out k => out.setIfInBounds (zigzag[k]?.getD 64)
      ((block[k]?.getD 0) * ((steps[k]?.getD 1 : Nat) : Int)))
    (Array.replicate 64 0))

/-- A sample between 0 and 255. -/
def clamp (v : Int) : UInt8 :=
  UInt8.ofNat (max 0 (min 255 v)).toNat

/-- The sample of a component under a pixel. -/
def Samples.under (s : Samples) (l : Layout) (x y : Nat) : Int :=
  let x := x * s.across / l.most
  let y := y * s.down / l.mostDown
  ((s.blocks[y / 8 * s.blocksAcross + x / 8]?).bind (·[y % 8 * 8 + x % 8]?)).getD 0

/-- The colour of brightness and colour differences. -/
def colourOf (y cb cr : Int) : Rgb UInt8 :=
  let y := (y + 128) * 65536 + 32768
  ⟨clamp ((y + 91881 * cr) / 65536), clamp ((y - 22554 * cb - 46802 * cr) / 65536),
    clamp ((y + 116130 * cb) / 65536)⟩

/-- A share of light let through by an ink and by black. -/
def through (ink black : UInt8) : UInt8 :=
  UInt8.ofNat ((ink.toNat * black.toNat + 127) / 255)

/-- The colour of a pixel from its samples. -/
def Space.colour (space : Space) (a b c d : Int) : Rgb UInt8 :=
  let plain := fun (v : Int) => clamp (v + 128)
  match space with
  | gray => ⟨plain a, plain a, plain a⟩
  | ycc => colourOf a b c
  | rgb => ⟨plain a, plain b, plain c⟩
  | cmyk => ⟨through (plain a) (plain d), through (plain b) (plain d), through (plain c) (plain d)⟩
  | ycck =>
    let inks := colourOf a b c
    ⟨through (255 - inks.r) (plain d), through (255 - inks.g) (plain d),
      through (255 - inks.b) (plain d)⟩

/-- The most bytes that the samples of a picture may take. -/
def memoryLimit : Nat := 512 * 1024 * 1024

/-- The components of a frame with their roles. -/
def Frame.roles (f : Frame) : List (Component × Role) :=
  f.components.zipIdx.filterMap fun (c, i) => (Role.ofPlace? i).map (c, ·)

/-- What the components stand for in the end: three components that go by the letters of
the primary colours, or that an editor has left as they are, are those colours; without a
fourth component there is no black. -/
def Tables.finalSpace (t : Tables) (f : Frame) : Space :=
  if f.components.map Component.id = [0x52, 0x47, 0x42] then .rgb
  else if f.components.length = 3 ∧ t.space = .cmyk then .rgb
  else if f.components.length < 4 ∧ t.space = .ycck then .ycc
  else t.space

/-- A code table that a component asks for is there. -/
def Tables.checkCode (kind : CodeClass) (codes : List (Nat × PrefixCode)) (place : Nat)
    (role : Role) : Except Flaw Unit :=
  if places ≤ place then .error (.codes (.noPlace kind role))
  else if (codes.lookup place).isNone then .error (.codes (.missing kind role))
  else .ok ()

/-- All that the blocks need is there. Files in several passes bring their code tables as
they go, and films may leave them out. -/
def Tables.check (t : Tables) (f : Frame) : Except Flaw Unit := do
  for (c, role) in f.roles do
    if (t.steps.lookup c.steps).isNone then throw (.steps (.missing role))
  if !f.passes && !t.film then
    for (c, role) in f.roles do
      checkCode .dc t.dc c.dc role
      checkCode .ac t.ac c.ac role

/-- The samples of the components, in the order of the frame. -/
def Tables.samples (t : Tables) (f : Frame) (planes : Array Plane) : List Samples :=
  (f.components.zip planes.toList).map fun (c, p) =>
    ⟨c.across, c.down, p.across,
      p.blocks.map (samplesOfBlock ((t.steps.lookup c.steps).getD #[]))⟩

/-- The frame of a file, what its components stand for, and their samples. -/
structure Content where
  frame : Frame
  space : Space
  samples : List Samples

namespace Content

/-- Reads a file. The samples of a picture with colours may take up to `limit` bytes. -/
def ofFile (limit : Nat) (file : Bytes) : Except Flaw Content := do
  let (t, scan, data) ← Tables.ofFile file
  match t.frame with
  | none => throw (.frame .noComponents)
  | some frame =>
    let space := t.finalSpace frame
    if limit < frame.width * frame.height * (if space = .gray then 1 else 3) then throw .overLimit
    t.check frame
    t.checkData frame scan data
    return ⟨frame, space, t.samples frame (readScans data.length t scan data frame.planes)⟩

/-- The sample of a component under a pixel. -/
def sampleAt (c : Content) (i x y : Nat) : Int :=
  (c.samples[i]?.map (·.under c.frame.layout x y)).getD 0

/-- The samples of all components, pixel by pixel, as they are stored. -/
def bytes (c : Content) : Bytes :=
  (List.range c.frame.height).flatMap fun y =>
    (List.range c.frame.width).flatMap fun x =>
      (List.range c.samples.length).map fun i => clamp (c.sampleAt i x y + 128)

end Content

/-- The picture in a JPEG file. -/
def decode (file : Bytes) : Except Flaw Picture := do
  let c ← Content.ofFile memoryLimit file
  let width := c.frame.width
  let height := c.frame.height
  return if c.space = .gray then
    .l8 (.tabulate width height fun x y => Luma.mk (clamp (c.sampleAt 0 x y + 128)))
  else
    .rgb8 (.tabulate width height fun x y =>
      c.space.colour (c.sampleAt 0 x y) (c.sampleAt 1 x y) (c.sampleAt 2 x y) (c.sampleAt 3 x y))

end ScanBinder.Jpeg
