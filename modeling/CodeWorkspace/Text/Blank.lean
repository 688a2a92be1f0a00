/-!
# Blank text

White space in the sense of the Unicode property `White_Space`, and the texts that hold nothing
else.  A name or a path that is blank counts as missing.
-/

namespace CodeWorkspace.Text

/-- The code points with the property `White_Space`, as inclusive ranges. -/
def blankRanges : List (Nat × Nat) :=
  [(0x09, 0x0D), (0x20, 0x20), (0x85, 0x85), (0xA0, 0xA0), (0x1680, 0x1680), (0x2000, 0x200A),
    (0x2028, 0x2029), (0x202F, 0x202F), (0x205F, 0x205F), (0x3000, 0x3000)]

/-- Whether a character is white space. -/
def isBlankChar (c : Char) : Bool :=
  blankRanges.any fun range => range.1 ≤ c.toNat && c.toNat ≤ range.2

/-- Whether a text holds nothing but white space. -/
def isBlank (text : String) : Bool :=
  text.toList.all isBlankChar

/-- The characters of a text without the white space at either end. -/
def trimmed (text : String) : List Char :=
  (((text.toList.dropWhile isBlankChar).reverse).dropWhile isBlankChar).reverse

/-- A text without the white space at either end. -/
def trim (text : String) : String :=
  String.ofList (trimmed text)

end CodeWorkspace.Text
