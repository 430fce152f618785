/-
  AssertionWriter.Text.Blank

  White space: the characters with the Unicode property `White_Space`, and the
  cutting of white space from the ends of a text.
-/
import AssertionWriter.Text.CodeRange

namespace AssertionWriter.Text

/-- The code points with property `White_Space`, ascending. -/
def blankRanges : List (Nat × Nat) := [
    (0x9, 0xd), (0x20, 0x20), (0x85, 0x85), (0xa0, 0xa0), (0x1680, 0x1680), (0x2000, 0x200a),
    (0x2028, 0x2029), (0x202f, 0x202f), (0x205f, 0x205f), (0x3000, 0x3000)]

/-- Whether `c` is white space. -/
def isBlank (c : Char) : Bool := inRanges blankRanges c.toNat

/-! ## Cutting white space -/

/-- `s` without the white space it starts with. -/
def trimStart (s : List Char) : List Char := s.dropWhile isBlank

/-- `s` without the white space it ends with. -/
def trimEnd (s : List Char) : List Char := (s.reverse.dropWhile isBlank).reverse

/-- `s` without the white space at either end. -/
def trim (s : List Char) : List Char := trimEnd (trimStart s)

theorem trimStart_length_le (s : List Char) : (trimStart s).length ≤ s.length :=
  (List.dropWhile_suffix isBlank).length_le

end AssertionWriter.Text
