import ScanBinder.Codec.Adler
import ScanBinder.Codec.Inflate

/-!
# What is left of faulty data

Data is inflated one window at a time and handed over in portions. A portion is never larger
than the room that is left for the result, nor than a limit that grows while portions are
full. A fault is met by the portion that asks for the window it lies in; that portion is lost,
and what was handed over before it stays.
-/

namespace ScanBinder

namespace Inflate

/-- The bytes that are inflated at a time. -/
def windowSize : Nat := 32768

/-- The number of windows that are complete before the one in which the last of `size` bytes
lies. -/
def windowsBefore (size : Nat) : Nat :=
  (size - 1) / windowSize

end Inflate

/-- A result that is being handed over. -/
structure Handover where
  /-- The bytes that have been handed over. -/
  size : Nat
  /-- The bytes for which there is room. -/
  room : Nat
  /-- The size of the largest portion. -/
  limit : Nat
  /-- The bytes of the last window that are still waiting. -/
  waiting : Nat
  /-- The windows up to the fault. -/
  windows : Nat

namespace Handover

/-- The size of a portion that only finds out whether there is more. -/
def probe : Nat := 32

/-- The size of the largest portion at first. -/
def firstLimit : Nat := 8192

/-- Before anything is handed over. -/
def start (room windows : Nat) : Handover :=
  ⟨0, room, firstLimit, 0, windows⟩

/-- Makes room for `n` more bytes, at least twice as much as before. -/
def makeRoom (h : Handover) (n : Nat) : Handover :=
  if h.size + n ≤ h.room then h else { h with room := max (2 * h.room) (h.size + n) }

/-- Hands over up to `n` bytes, unless the fault is met. What is waiting comes by itself;
otherwise whole windows are inflated until there are enough bytes. -/
def take (h : Handover) (n : Nat) : Option (Nat × Handover) :=
  if 0 < h.waiting then
    let got := min n h.waiting
    some (got, { h with waiting := h.waiting - got })
  else
    let needed := Inflate.windowsBefore n + 1
    if h.windows < needed then none
    else
      some (n, { h with
        waiting := needed * Inflate.windowSize - n
        windows := h.windows - needed })

/-- A portion that finds out whether there is more; room is made for what it brings. -/
def takeProbe (h : Handover) : Option Handover :=
  (h.take probe).map fun (got, h) =>
    let h := h.makeRoom got
    { h with size := h.size + got }

/-- A usual portion. A full one of the largest size lets the next ones be larger. -/
def takePortion (h : Handover) : Option Handover :=
  let h := if h.size = h.room then h.makeRoom probe else h
  let n := min (h.room - h.size) h.limit
  (h.take n).map fun (got, h) =>
    { h with size := h.size + got, limit := if got = n ∧ h.limit ≤ n then 2 * h.limit else h.limit }

/-- Goes on until the fault is met. When exactly the first room has been used up, a probe comes
before more room is made. -/
def run (firstRoom : Nat) : (fuel : Nat) → Handover → Nat
  | 0, h => h.size
  | fuel + 1, h =>
    let probed := if h.size = h.room ∧ h.room = firstRoom then h.takeProbe else some h
    match probed with
    | none => h.size
    | some h =>
      match h.takePortion with
      | none => h.size
      | some h => run firstRoom fuel h

/-- The number of bytes that are handed over when a fault follows `size` bytes. -/
def kept (room size : Nat) : Nat :=
  let h := start room (Inflate.windowsBefore size)
  match if room < probe then h.takeProbe else some h with
  | none => 0
  | some h => run room (size + 1) h

end Handover

/-- Inflated data with its checksum. Data that breaks off gives what is there, and faulty data
what was handed over before the fault. -/
def inflateLoosely (data : Bytes) : Array UInt8 :=
  let keep (out : Array UInt8) := out.extract 0 (Handover.kept (2 * data.length) out.size)
  match inflate .all data with
  | (out, .finished (a :: b :: c :: d :: _)) =>
    if Bytes.bigEndian [a, b, c, d] = adler32 out then out else keep out
  | (out, .faulty _) => keep out
  | (out, _) => out

end ScanBinder
