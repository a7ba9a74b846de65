/-!
# White space

White space is the Unicode property `White_Space`, here and in every rule of the library
that trims a text or asks whether it is blank: node ids, required fields, settings of a
model, the inside of a reference. Zero-width characters are not white space.
-/

namespace Workflow.Text

/-- Whether `n` lies in one of the closed `ranges`. -/
def inRanges (ranges : List (Nat × Nat)) (n : Nat) : Bool :=
  ranges.any fun range => range.1 ≤ n && n ≤ range.2

/-- The property `White_Space`, as closed ranges of code points. -/
def blankRanges : List (Nat × Nat) :=
  [(0x09, 0x0d), (0x20, 0x20), (0x85, 0x85), (0xa0, 0xa0), (0x1680, 0x1680),
    (0x2000, 0x200a), (0x2028, 0x2029), (0x202f, 0x202f), (0x205f, 0x205f), (0x3000, 0x3000)]

/-- Whether a character is white space. -/
def isBlankChar (c : Char) : Bool :=
  inRanges blankRanges c.toNat

/-- A text is **blank** when it holds white space only; the empty text is blank. -/
def isBlank (s : String) : Bool :=
  s.toList.all isBlankChar

/-- The characters without white space at either end. -/
def trimChars (cs : List Char) : List Char :=
  ((cs.dropWhile isBlankChar).reverse.dropWhile isBlankChar).reverse

/-- The text without white space at either end. -/
def trim (s : String) : String :=
  String.ofList (trimChars s.toList)

end Workflow.Text
