/-
# Blank characters

The characters with the Unicode property White_Space, and what it means to trim them.
Time-of-day texts ignore blanks around them and before each number.
-/

namespace SupportDesk.Blank

/-- The code point ranges of the White_Space property, in increasing order. -/
def ranges : List (Nat × Nat) :=
  [(0x9, 0xD), (0x20, 0x20), (0x85, 0x85), (0xA0, 0xA0), (0x1680, 0x1680), (0x2000, 0x200A),
   (0x2028, 0x2029), (0x202F, 0x202F), (0x205F, 0x205F), (0x3000, 0x3000)]

/-- Whether a character is blank. -/
def isBlank (c : Char) : Bool := ranges.any fun r => r.1 ≤ c.toNat && c.toNat ≤ r.2

/-- Drops the blanks in front. -/
def trimLeft (cs : List Char) : List Char := cs.dropWhile isBlank

/-- Drops the blanks at the end. -/
def trimRight (cs : List Char) : List Char := (cs.reverse.dropWhile isBlank).reverse

/-- Drops the blanks on both sides. -/
def trim (cs : List Char) : List Char := trimRight (trimLeft cs)

/-- Nothing blank is left in front. -/
theorem isBlank_head_trimLeft {cs : List Char} {c : Char} {rest : List Char}
    (h : trimLeft cs = c :: rest) : isBlank c = false := by
  have := List.head?_dropWhile_not isBlank cs
  simp only [trimLeft] at h
  simpa [h] using this

end SupportDesk.Blank
