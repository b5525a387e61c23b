import ScanBinder.Text.Utf8
import ScanBinder.Text.Silent

/-!
# Quoting text in messages

Messages show the characters of a name so that none of them can be mistaken: marks that do
not print are written by their number.
-/

namespace ScanBinder

/-- A number in lower-case hexadecimal digits. -/
def hexText (n : Nat) : String :=
  String.ofList (Nat.toDigits 16 n)

/-- A byte in two hexadecimal digits. -/
def hexByte (b : UInt8) : String :=
  String.ofList [Nat.digitChar (b.toNat / 16), Nat.digitChar (b.toNat % 16)]

/-- Whether a character shows as itself. -/
def prints (c : Char) : Bool :=
  let n := c.toNat
  if n < 0x80 then 0x20 ≤ n && n < 0x7F
  else !silentRanges.any fun (lo, hi) => lo ≤ n && n ≤ hi

/-- A character with a backslash where it needs one. -/
def escapeChar (c : Char) : String :=
  if c = '\x00' then "\\0"
  else if c = '\t' then "\\t"
  else if c = '\n' then "\\n"
  else if c = '\r' then "\\r"
  else if c = '"' then "\\\""
  else if c = '\\' then "\\\\"
  else if prints c then String.singleton c
  else "\\u\x7b" ++ hexText c.toNat ++ "\x7d"

/-- A character with a backslash where it needs one, the apostrophe included. -/
def escapeSign (c : Char) : String :=
  if c = '\x27' then "\\\x27" else escapeChar c

/-- Whether a lead byte and the bytes found after it make a character. -/
def makesChar (lead : UInt8) (more : Bytes) : Bool :=
  lead < 0x80 || (Bytes.followers lead ≠ 0 && more.length = Bytes.followers lead)

/-- A byte string with a backslash where it needs one; bytes that make no character are
written by their number. -/
def escapeBytes : Bytes → String
  | [] => ""
  | lead :: rest =>
    let more := Bytes.tail lead rest
    (if makesChar lead more then escapeChar (Bytes.charOf lead more)
      else String.join ((lead :: more).map fun b =>
        "\\x" ++ String.ofList ((hexByte b).toList.map Char.toUpper))) ++
      escapeBytes (rest.drop more.length)
termination_by bs => bs.length
decreasing_by simp only [List.length_cons, List.length_drop]; omega

/-- A byte string between quotation marks. -/
def quotedBytes (bs : Bytes) : String :=
  "\"" ++ escapeBytes bs ++ "\""

/-- A text between quotation marks. -/
def quoted (s : String) : String :=
  "\"" ++ String.join (s.toList.map escapeChar) ++ "\""

end ScanBinder
