/-!
# Blanks

The characters that separate words in a text, in any script.
-/

namespace ScanBinder

/-- The blanks, in ranges of first and last. -/
def blanks : List (Nat × Nat) :=
  [(0x09, 0x0D), (0x20, 0x20), (0x85, 0x85), (0xA0, 0xA0), (0x1680, 0x1680), (0x2000, 0x200A),
    (0x2028, 0x2029), (0x202F, 0x202F), (0x205F, 0x205F), (0x3000, 0x3000)]

/-- Whether a character separates words. -/
def isBlank (c : Char) : Bool :=
  blanks.any fun r => r.1 ≤ c.toNat && c.toNat ≤ r.2

/-- The words of a text. -/
def textWords (s : String) : List String :=
  (s.splitToList isBlank).filter (!·.isEmpty)

end ScanBinder
