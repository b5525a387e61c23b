import ScanBinder.Codec.BitStream

/-!
# Dictionary coding

Codes stand for strings of bytes. The dictionary starts with the single bytes and two
codes of its own, one that clears it and one that ends the data; each code after the first
adds the string before it with one byte more. Codes grow with the dictionary, from
`bits + 1` bits up to twelve. Formats differ in the order of the bits and in whether codes
grow one entry early.
-/

namespace ScanBinder.Lzw

/-- Why decoding stopped. -/
inductive Stop where
  | finished
  | ended
  | badCode
deriving DecidableEq

/-- The longest code. -/
def widest : Nat := 12

/-- How a format writes codes. -/
structure Style where
  /-- The number of bits of a single byte. -/
  bits : Nat
  /-- Whether the most significant bit of a code comes first. -/
  fromTop : Bool
  /-- How many entries before they run out codes grow. -/
  early : Nat

namespace Style

/-- The codes of GIF images. -/
def gif (bits : Nat) : Style := ⟨bits, false, 0⟩

/-- The codes of TIFF images. -/
def tiff : Style := ⟨8, true, 1⟩

/-- The next code of so many bits. -/
def code? (style : Style) (width : Nat) (s : BitStream) : Option (Nat × BitStream) :=
  if style.fromTop then s.bigNumber? 0 width else s.number? width

/-- The stream of the codes in a byte string. -/
def stream (style : Style) (data : Bytes) : BitStream :=
  if style.fromTop then .down data else .up data

end Style

/-- The dictionary and the last string. The entries of the two special codes are empty. -/
structure State where
  entries : Array Bytes
  width : Nat
  last : Option Bytes

/-- The state at the start and after a clear code. -/
def State.start (bits : Nat) : State :=
  ⟨((List.range (Nat.pow 2 bits)).map fun i => [UInt8.ofNat i]).toArray ++ #[[], []], bits + 1, none⟩

/-- Adds a string, if there is a code left for it, and widens the codes when they run out. -/
def State.add (s : State) (style : Style) (entry : Bytes) : State :=
  if s.entries.size < Nat.pow 2 widest then
    let entries := s.entries.push entry
    { s with
      entries
      width := if Nat.pow 2 s.width ≤ entries.size + style.early ∧ s.width < widest then s.width + 1
        else s.width }
  else s

/-- The string that a code stands for, and the state after it. -/
def State.step? (s : State) (style : Style) (code : Nat) : Option (Bytes × State) :=
  match s.last, s.entries[code]? with
  | none, some entry => some (entry, { s with last := some entry })
  | some last, some entry =>
    some (entry, { s.add style (last ++ entry.take 1) with last := some entry })
  | some last, none =>
    if code = s.entries.size ∧ code < Nat.pow 2 widest then
      let entry := last ++ last.take 1
      some (entry, { s.add style entry with last := some entry })
    else none
  | none, none => none

/-! ## Data that is there as a whole -/

/-- What decoding gave. -/
structure Result where
  out : Array UInt8
  /-- How many bytes there were at the last code that cleared the dictionary. -/
  cleared : Nat
  stop : Stop

/-- Decodes until `limit` bytes are there or the data stops. -/
def run (style : Style) (limit : Nat) :
    (fuel : Nat) → State → BitStream → (cleared : Nat) → Array UInt8 → Result
  | 0, _, _, cleared, out => ⟨out, cleared, .ended⟩
  | fuel + 1, s, stream, cleared, out =>
    if limit ≤ out.size then ⟨out, cleared, .finished⟩
    else match style.code? s.width stream with
      | none => ⟨out, cleared, .ended⟩
      | some (code, stream) =>
        if code = Nat.pow 2 style.bits then
          run style limit fuel (.start style.bits) stream out.size out
        else if code = Nat.pow 2 style.bits + 1 then ⟨out, cleared, .finished⟩
        else match s.step? style code with
          | none => ⟨out, cleared, .badCode⟩
          | some (entry, s) => run style limit fuel s stream cleared (out ++ entry.toArray)

/-- Decodes data up to `limit` bytes. -/
def decode (style : Style) (limit : Nat) (data : Bytes) : Result :=
  run style limit (8 * data.length + 2) (.start style.bits) (style.stream data) 0 #[]

/-! ## Data that comes in pieces -/

/-- A decoder between two pieces of data. -/
structure Decoder where
  state : State
  /-- Bits of the pieces before that have not been used, at most `heldBits` of them. -/
  bits : List Bool
  /-- Bytes for which there was no room. -/
  pending : Bytes
  /-- Whether no code has been read. -/
  fresh : Bool
  /-- Whether the code that ends the data has been read. -/
  ended : Bool

namespace Decoder

/-- How many bits a decoder holds. -/
def heldBits : Nat := 64

/-- A decoder before the first piece. -/
def start (style : Style) : Decoder :=
  ⟨.start style.bits, [], [], true, false⟩

/-- Takes as many bytes as there is place for their bits. -/
def refill (d : Decoder) (input : Bytes) : Decoder × Bytes :=
  let n := (heldBits - d.bits.length) / 8
  ({ d with bits := d.bits ++ (input.take n).flatMap bitsUp }, input.drop n)

/-- The next code, if its bits are there. -/
def code? (d : Decoder) : Option (Nat × Decoder) :=
  if d.bits.length < d.state.width then none
  else
    let code := (d.bits.take d.state.width).foldr (fun b n => b.toNat + 2 * n) 0
    some (code, { d with bits := d.bits.drop d.state.width })

/-- What a code does. -/
inductive Effect where
  | bad
  | control (d : Decoder)
  | text (entry : Bytes) (d : Decoder)

/-- Carries out a code: clears the dictionary, ends the data, or stands for a string. -/
def apply (d : Decoder) (style : Style) (code : Nat) : Effect :=
  if code = Nat.pow 2 style.bits then .control { d with state := .start style.bits }
  else if code = Nat.pow 2 style.bits + 1 then .control { d with ended := true }
  else match d.state.step? style code with
    | none => .bad
    | some (entry, state) => .text entry { d with state }

/-- The most codes that are taken at once. -/
def burstLimit : Nat := 6

/-- How many codes can be taken at once: no more than there are bits for, and none after the
one with which codes get longer. -/
def burst (d : Decoder) (style : Style) : Nat :=
  let held := min burstLimit (d.bits.length / d.state.width)
  min held (Nat.pow 2 d.state.width - style.early - d.state.entries.size)

/-- Whether a code may be followed by another one in a burst: it is a string that has been
known since the burst began, when there were `known` entries, and there is room for it. -/
def isPlain (d : Decoder) (style : Style) (known room code : Nat) : Bool :=
  code ≠ Nat.pow 2 style.bits && code ≠ Nat.pow 2 style.bits + 1 && code < known &&
    match d.state.entries[code]? with
    | some entry => entry.length ≤ room
    | none => false

/-- What a burst gives: the decoder after it, the room that is left, the bytes so far, the
last in front, and whether decoding goes on. -/
structure Burst where
  decoder : Decoder
  room : Nat
  done : Bytes
  goesOn : Bool

/-- Takes codes up to one that is not plain; nothing if there is one without a meaning. A
string for which there is no room is put aside. -/
def takeBurst (style : Style) (known : Nat) :
    (count room : Nat) → Decoder → (done : Bytes) → Option Burst
  | 0, room, d, done => some ⟨d, room, done, true⟩
  | count + 1, room, d, done =>
    match d.code? with
    | none => some ⟨d, room, done, false⟩
    | some (code, next) =>
      match next.apply style code with
      | .bad => none
      | .control d => some ⟨d, room, done, false⟩
      | .text entry after =>
        if room < entry.length then some ⟨{ after with pending := entry }, room, done, false⟩
        else
          let room := room - entry.length
          let done := entry.reverse ++ done
          if d.isPlain style known (room + entry.length) code then
            takeBurst style known count room after done
          else some ⟨after, room, done, true⟩

/-- Decodes codes into so much room, in bursts. Stops at a string for which there is no room,
at a code that clears or ends, when there are not enough bits, or after a burst that leaves
no room. -/
def fill (style : Style) : (fuel room : Nat) → Decoder → (input done : Bytes) →
    Option (Decoder × Bytes × Bytes)
  | 0, _, d, input, done => some (d, input, done.reverse)
  | fuel + 1, room, d, input, done =>
    let (d, input) := d.refill input
    match takeBurst style d.state.entries.size (max 1 (d.burst style)) room d done with
    | none => none
    | some b =>
      if b.goesOn && 0 < b.room then fill style fuel b.room b.decoder input b.done
      else some (b.decoder, input, b.done.reverse)

/-- Moves pending bytes into the room, and decodes on if all of them have found place. -/
def drain (d : Decoder) (style : Style) (room : Nat) (input : Bytes) :
    Option (Decoder × Bytes × Bytes) :=
  let moved := d.pending.take room
  let left := d.pending.drop room
  let d := { d with pending := left }
  if left.isEmpty then
    (fill style (8 * input.length + d.bits.length + 1) (room - moved.length) d input []).map
      fun (d, input, out) => (d, input, moved ++ out)
  else some (d, input, moved)

/-- Decodes a piece of data into so much room while there is no string before. Decoding
stops after a code that clears the dictionary if it is the first of all; others are left
out. -/
def begin (style : Style) (room : Nat) :
    (fuel : Nat) → Decoder → (input : Bytes) → Option (Decoder × Bytes × Bytes)
  | 0, d, input => some (d, input, [])
  | fuel + 1, d, input =>
    let (d, input) := if d.bits.length < d.state.width then d.refill input else (d, input)
    match d.code? with
    | none => some (d, input, [])
    | some (code, d) =>
      match { d with fresh := false }.apply style code with
      | .bad => none
      | .control next =>
        if next.ended || d.fresh then some (next, input, [])
        else begin style room fuel next input
      | .text entry d => { d with pending := entry }.drain style room input

/-- Decodes a piece of data into so much room. Gives the decoder after it, what is left of the
piece, and the bytes; nothing if there is a code without a meaning. -/
def advance (d : Decoder) (style : Style) (room : Nat) (input : Bytes) :
    Option (Decoder × Bytes × Bytes) :=
  if d.ended then some (d, input, [])
  else if d.state.last.isSome then d.drain style room input
  else begin style room (8 * input.length + d.bits.length + 1) d input

end Decoder

end ScanBinder.Lzw
