import ScanBinder.Image.Fault
import ScanBinder.Text.Escape

/-!
# Flaws of JPEG files

A flaw names the part of the file in which it was found. Only what comes before the coded
blocks can make a file unreadable: damage in the blocks themselves shows in the picture.
-/

namespace ScanBinder.Jpeg

/-- The part a component plays in the image, given by its place in the frame. -/
inductive Role where
  | brightness
  | blue
  | red
  | extra
deriving DecidableEq

namespace Role

/-- The role of the component at a place. -/
def ofPlace? : Nat → Option Role
  | 0 => some brightness
  | 1 => some blue
  | 2 => some red
  | 3 => some extra
  | _ => none

def text : Role → String
  | brightness => "Y"
  | blue => "Cb"
  | red => "Cr"
  | extra => "Q"

end Role

/-- What can be wrong with the tables of quantisation steps. -/
inductive StepsFlaw where
  | cut (left size : Nat)
  | precision (n : Nat)
  | place (n : Nat)
  | missing (role : Role)
deriving DecidableEq

def StepsFlaw.text : StepsFlaw → String
  | cut left size =>
    "Invalid QT table bytes left :" ++ toString left ++
      ". Too small to construct a valid qt table which should be " ++ toString size ++ " long"
  | precision n => "Expected QT precision value of either 0 or 1, found " ++ toString n
  | place n => "Too large table position for QT :" ++ toString n ++ ", expected between 0 and 3"
  | missing role => "No quantization table for component " ++ role.text

/-- The two classes of code tables. -/
inductive CodeClass where
  | dc
  | ac
deriving DecidableEq

def CodeClass.text : CodeClass → String
  | dc => "DC"
  | ac => "AC"

/-- What can be wrong with the code tables. -/
inductive CodesFlaw where
  | place (n : Nat)
  | notClass (n : Nat)
  | cut (symbols left : Nat)
  | notCode
  /-- A component asks for a table with a number that no table can have. -/
  | noPlace (kind : CodeClass) (role : Role)
  | missing (kind : CodeClass) (role : Role)
deriving DecidableEq

def CodesFlaw.text : CodesFlaw → String
  | place n => "Invalid DHT index " ++ toString n ++ ", expected between 0 and 3"
  | notClass n => "Invalid DHT position " ++ toString n ++ ", should be 0 or 1"
  | cut symbols left =>
    "Excessive Huffman table of length " ++ toString symbols ++
      " found when header length is " ++ toString left
  | notCode => "Bad Huffman Table"
  | noPlace kind role => "No Huffman " ++ kind.text ++ " table for component " ++ role.text ++ " "
  | missing kind role => "No " ++ kind.text ++ " table for component " ++ role.text

/-- What can be wrong with the frame, or with a scan that does not match it. -/
inductive FrameFlaw where
  | second
  | precision (bits : Nat)
  | noComponents
  | length (expected found : Nat)
  | repeated (id : Nat)
  | stranger (id : Nat) (known : List Nat)
deriving DecidableEq

def FrameFlaw.text : FrameFlaw → String
  | second => "Two Start of Frame Markers"
  | precision bits =>
    "The library can only parse 8-bit images, the image has " ++ toString bits ++
      " bits of precision"
  | noComponents => "Number of components cannot be zero."
  | length expected found =>
    "Length of start of frame differs from expected " ++ toString expected ++ ",value is " ++
      toString found
  | repeated id => "Duplicate ID " ++ toString id ++ " seen twice in the same component"
  | stranger id known =>
    "Invalid component id " ++ toString id ++ ", expected one one of [" ++
      ", ".intercalate (known.map toString) ++ "]"

/-- What can be wrong with the head of a scan. -/
inductive ScanFlaw where
  | length (n : Nat)
  | components (n : Nat)
  | lastWave (n : Nat)
  | firstWave (n : Nat)
  | highBit (n : Nat)
  | lowBit (n : Nat)
deriving DecidableEq

def ScanFlaw.text : ScanFlaw → String
  | length n => "Bad SOS length " ++ toString n ++ ",corrupt jpeg"
  | components n =>
    "Invalid number of components in start of scan " ++ toString n ++ ", expected in range 1..5"
  | lastWave n => "Invalid Se parameter " ++ toString n ++ ", range should be 0-63"
  | firstWave n => "Invalid Ss parameter " ++ toString n ++ ", range should be 0-63"
  | highBit n => "Invalid Ah parameter " ++ toString n ++ ", range should be 0-13"
  | lowBit n => "Invalid Al parameter " ++ toString n ++ ", range should be 0-13"

/-- What can be wrong with a JPEG file. -/
inductive Flaw where
  | tooShort (expected found : Nat)
  | badStart (word : Nat)
  | zeroSize
  | steps (flaw : StepsFlaw)
  | codes (flaw : CodesFlaw)
  | frame (flaw : FrameFlaw)
  | scan (flaw : ScanFlaw)
  /-- Anything else, in words. -/
  | remark (words : String)
  | overLimit
deriving DecidableEq

namespace Flaw

def kind : Flaw → FaultKind
  | overLimit => .limits
  | _ => .decoding

def text : Flaw → String
  | tooShort expected found =>
    "I/O errors Not enough bytes, expected " ++ toString expected ++ " but found " ++
      toString found ++ "\n"
  | badStart word =>
    "Error parsing image. Illegal start bytes:" ++
      String.ofList ((Nat.toDigits 16 word).map Char.toUpper)
  | zeroSize => "Image width or height is set to zero, cannot continue"
  | steps f => "Error parsing DQT segment. Reason:" ++ f.text
  | codes f => "Error decoding huffman values: " ++ f.text
  | frame f => "Error parsing SOF segment. Reason:" ++ f.text
  | scan f => "Error parsing SOS Segment. Reason:" ++ f.text
  | remark words => quoted words
  | overLimit => "Memory limit exceeded"

end Flaw

end ScanBinder.Jpeg
