import ScanBinder.Bytes

/-!
# Showing bytes as text

A byte string need not be well-formed UTF-8. `Bytes.chars` reads it from the left: a
well-formed sequence gives its character, and the longest start of one that breaks off
gives a single replacement character.
-/

namespace ScanBinder

/-- The replacement character. -/
def replacement : Char := '�'

namespace Bytes

/-- A continuation byte `10xxxxxx`. -/
def isContinuation (b : UInt8) : Bool :=
  0x80 ≤ b && b ≤ 0xBF

/-- Whether `b` may follow the lead byte `lead`: continuation bytes that would give an
overlong form, a surrogate or a number above `0x10FFFF` are excluded. -/
def mayFollow (lead b : UInt8) : Bool :=
  if lead == 0xE0 then 0xA0 ≤ b && b ≤ 0xBF
  else if lead == 0xED then 0x80 ≤ b && b ≤ 0x9F
  else if lead == 0xF0 then 0x90 ≤ b && b ≤ 0xBF
  else if lead == 0xF4 then 0x80 ≤ b && b ≤ 0x8F
  else isContinuation b

/-- How many bytes follow the lead byte, if it can start a sequence of several bytes. -/
def followers (lead : UInt8) : Nat :=
  if 0xC2 ≤ lead && lead ≤ 0xDF then 1
  else if 0xE0 ≤ lead && lead ≤ 0xEF then 2
  else if 0xF0 ≤ lead && lead ≤ 0xF4 then 3
  else 0

/-- The continuation bytes that are there for a lead byte, at most as many as it asks for. -/
def tail (lead : UInt8) : Bytes → Bytes
  | [] => []
  | b :: rest =>
    if followers lead ≠ 0 && mayFollow lead b then
      b :: (rest.take (followers lead - 1)).takeWhile isContinuation
    else []

/-- The payload of a lead byte. -/
def leadBits (lead : UInt8) : Nat :=
  if followers lead = 1 then lead.toNat % 32
  else if followers lead = 2 then lead.toNat % 16
  else lead.toNat % 8

/-- The character of a lead byte and the bytes that follow it. -/
def charOf (lead : UInt8) (more : Bytes) : Char :=
  if lead < 0x80 then Char.ofNat lead.toNat
  else if followers lead ≠ 0 && more.length = followers lead then
    Char.ofNat (more.foldl (fun n b => n * 64 + b.toNat % 64) (leadBits lead))
  else replacement

/-- The characters of a byte string. -/
def chars : Bytes → List Char
  | [] => []
  | lead :: rest => charOf lead (tail lead rest) :: chars (rest.drop (tail lead rest).length)
termination_by bs => bs.length
decreasing_by simp only [List.length_cons, List.length_drop]; omega

/-- A byte string as text. -/
def lossy (bs : Bytes) : String :=
  String.ofList bs.chars

end Bytes

end ScanBinder
