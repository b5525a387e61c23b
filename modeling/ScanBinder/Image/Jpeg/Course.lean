import ScanBinder.Image.Jpeg.Planes

/-!
# Segments among the coded blocks

Markers may stand among the coded blocks. They are met while bits are fetched, which is done
four bytes at a time, and their segments are read after the unit at hand. What is wrong with
such a segment makes the file unreadable; what is wrong with the blocks does not.
-/

namespace ScanBinder.Jpeg

/-- Coded data from which bits are fetched. -/
structure Feed where
  held : List Bool
  rest : Bytes
  /-- The marker that was met. -/
  marker : Option UInt8
  /-- Whether the file has ended. -/
  ended : Bool

namespace Feed

/-- Data of which nothing has been fetched. -/
def start (bs : Bytes) : Feed :=
  ⟨[], bs, none, false⟩

/-- Bits are fetched when there are fewer than these. -/
def lowMark : Nat := 32

/-- Fetches up to `n` bytes, not beyond a marker. Markers without a meaning are passed over. -/
def fetch : (n : Nat) → Feed → Feed
  | 0, f => f
  | n + 1, f =>
    match f.rest with
    | [] => fetch n { f with held := f.held ++ bitsDown 0, ended := true }
    | b :: rest =>
      if b ≠ 0xFF then fetch n { f with held := f.held ++ bitsDown b, rest }
      else
        match rest.dropWhile (· = 0xFF) with
        | [] => fetch n { f with held := f.held ++ bitsDown b, rest := [] }
        | m :: rest =>
          if m = 0 then fetch n { f with held := f.held ++ bitsDown b, rest }
          else { f with rest, marker := if Tables.isKnown m then some m else none }

/-- Makes sure that bits are held: behind the end of the data, and behind a marker, they are
zero. -/
def refill (f : Feed) : Feed :=
  if lowMark ≤ f.held.length then f
  else if f.marker.isSome || f.ended then
    { f with held := f.held ++ List.replicate lowMark false }
  else fetch 4 f

/-- The bits that are held, followed by zeros. -/
def bits (f : Feed) : BitStream :=
  ⟨bitsDown, f.held ++ List.replicate lowMark false, []⟩

/-- The feed once bits have been used and `s` is left. -/
def used (f : Feed) (s : BitStream) : Feed :=
  { f with held := s.pending.take (s.pending.length - lowMark) }

/-- The next symbol, and the feed after it and the bits that belong to it; `n` says how many
those are. -/
def symbol? (f : Feed) (code : PrefixCode) (n : Nat → Nat) : Option (Nat × Feed) :=
  let f := f.refill
  match Jpeg.symbol? code f.bits with
  | none => none
  | some (v, s) => (s.bigNumber? 0 (n v)).map fun (_, s) => (v, f.used s)

/-- Passes over the waves of a block from place `k` on. -/
def passWaves (code : PrefixCode) : (fuel k : Nat) → Feed → Option Feed
  | 0, _, f => some f
  | fuel + 1, k, f =>
    if 64 ≤ k then some f
    else
      match f.symbol? code (· % 16) with
      | none => none
      | some (v, f) =>
        if v % 16 ≠ 0 then passWaves code fuel (k + v / 16 + 1) f
        else if v / 16 = 15 then passWaves code fuel (k + 16) f
        else some f

/-- Passes over what a scan brings for a block: all its waves, its first one, or a bit of
that. -/
def passBlock (band : Band) (coding : Coding) (f : Feed) : Option Feed :=
  if band.last ≠ 0 then
    match f.symbol? coding.dc id with
    | none => none
    | some (_, f) => f.passWaves coding.ac 64 1
  else if band.high = 0 then (f.symbol? coding.dc id).map Prod.snd
  else
    let f := f.refill
    f.bits.next?.map fun (_, s) => f.used s

/-- Passes over blocks with the given codings. -/
def passBlocks (band : Band) : List Coding → Feed → Option Feed
  | [], f => some f
  | c :: cs, f =>
    match f.passBlock band c with
    | some f => f.passBlocks band cs
    | none => none

end Feed

/-- The codings of the blocks of a unit. A component that is alone in its frame has one block
in a unit. -/
def unitCodings (t : Tables) (frame : Frame) (scan : Scan) : List Coding :=
  (guestsOf t frame.components scan).flatMap fun g =>
    List.replicate (if frame.components.length = 1 then 1 else g.across * g.down) g.coding

/-- The number of units of a scan. -/
def unitCount (frame : Frame) : Nat :=
  if frame.components.length = 1 then ceilDiv frame.width 8 * ceilDiv frame.height 8
  else frame.layout.unitsAcross * frame.layout.unitsDown

def isRestart (marker : UInt8) : Bool :=
  0xD0 ≤ marker && marker ≤ 0xD7

/-- Passes over the units of a file in one pass; `left` of them remain in the scan, and `due` of
them before a restart. Segments that are met on the way have to be sound. -/
def passUnits : (fuel : Nat) → Tables → Frame → Scan → (left due : Nat) → Feed → Except Flaw Unit
  | 0, _, _, _, _, _, _ => .ok ()
  | _, _, _, _, 0, _, _ => .ok ()
  | fuel + 1, t, frame, scan, left + 1, due, f =>
    match f.passBlocks scan.band (unitCodings t frame scan) with
    | none => .ok ()
    | some f =>
      let due := due - 1
      match f.marker with
      | none => passUnits fuel t frame scan left due f
      | some 0xD9 => .ok ()
      | some 0xDA => do
        let (t, scan, rest) ← t.readScan f.rest
        passUnits fuel t frame scan (unitCount frame) t.restart (.start rest)
      | some m =>
        if isRestart m then
          if t.restart ≠ 0 && due = 0 then
            passUnits fuel t frame scan left t.restart (.start f.rest)
          else passUnits fuel t frame scan left due f
        else do
          let (t, rest) ← t.add m f.rest
          passUnits fuel t frame scan left due (.start rest)

/-! ## Files in several passes -/

/-- The next marker and the bytes after it; nothing if there is none that is known. -/
def nextMarker? : Bytes → Option (UInt8 × Bytes)
  | 0xFF :: bs =>
    match bs.dropWhile (· = 0xFF) with
    | m :: rest =>
      if m = 0 then nextMarker? bs
      else if Tables.isKnown m then some (m, rest)
      else none
    | [] => none
  | _ :: bs => nextMarker? bs
  | [] => none

/-- Whether a pass can be read: waves other than the first ones come for one component at a
time, and not together with the first ones, and the code tables are there. -/
def isPass (t : Tables) (frame : Frame) (scan : Scan) : Bool :=
  let band := scan.band
  let shape := if scan.places.length = 1 then band.first ≠ 0 || band.last = 0 else band.last = 0
  shape && scan.places.all fun place =>
    match frame.components[place]? with
    | some c =>
      if band.first = 0 then (t.dc.lookup c.dc).isSome else (t.ac.lookup c.ac).isSome
    | none => false

/-- The most passes of a file. -/
def passLimit : Nat := 100

/-- Reads the segments after a pass, the first of them behind a marker, and the passes after it.
Of a pass that cannot be read, and where no marker follows, the file is taken to end. -/
def passScans : (fuel : Nat) → Tables → Frame → (passes : Nat) → Option (UInt8 × Bytes) →
    Except Flaw Unit
  | 0, _, _, _, _ => .ok ()
  | _, _, _, _, none => .ok ()
  | fuel + 1, t, frame, passes, some (marker, bs) => do
    if marker = 0xD9 then return
    if isRestart marker then passScans fuel t frame passes (nextMarker? bs)
    else if marker = 0xDA then
      let (t, scan, bs) ← t.readScan bs
      if !isPass t frame scan then return
      match nextMarker? bs with
      | none => return
      | next =>
        if passLimit < passes + 1 then
          throw (.remark ("Too many scans, exceeded limit of " ++ toString passLimit))
        passScans fuel t frame (passes + 1) next
    else
      let (t, bs) ← t.add marker bs
      passScans fuel t frame passes (nextMarker? bs)

/-- Passes over the units of the first pass, up to a marker. -/
def passFirst (band : Band) (codings : List Coding) : (units : Nat) → Feed → Option Feed
  | 0, f => some f
  | units + 1, f =>
    if f.marker.isSome then some f
    else
      match f.passBlocks band codings with
      | some f => passFirst band codings units f
      | none => none

/-- The marker that follows the first pass. It has to be met while the pass is read; only for
waves other than the first ones it is looked for. -/
def afterFirst (t : Tables) (frame : Frame) (scan : Scan) (data : Bytes) :
    Except Flaw (Option (UInt8 × Bytes)) :=
  if scan.band.first ≠ 0 then .ok (nextMarker? data)
  else
    match passFirst scan.band (unitCodings t frame scan) (unitCount frame) (.start data) with
    | none => .ok none
    | some f =>
      match f.marker with
      | some m => .ok (some (m, f.rest))
      | none => .error (.remark "Marker missing where expected")

/-- Nothing among and after the coded blocks makes the file unreadable. -/
def Tables.checkData (t : Tables) (frame : Frame) (scan : Scan) (data : Bytes) : Except Flaw Unit := do
  if frame.passes then
    if isPass t frame scan then
      passScans (data.length + 1) t frame 1 (← afterFirst t frame scan data)
  else
    let units := unitCount frame
    passUnits ((units + 1) * (data.length / 8 + 2)) t frame scan units t.restart (.start data)

end ScanBinder.Jpeg
