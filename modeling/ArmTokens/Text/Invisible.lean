import ArmTokens.Text.CodeRange

/-!
# Characters that are not seen

Blanks and separators beyond ASCII, characters that direct the layout of others,
and code points that stand for no character.
-/

set_option autoImplicit false

namespace ArmTokens

def separators : CodeRanges :=
  [(0xa0, 0xa0), (0x1680, 0x1680), (0x2000, 0x200a), (0x2028, 0x2029), (0x202f, 0x202f),
   (0x205f, 0x205f), (0x3000, 0x3000)]

def formatControls : CodeRanges :=
  [(0xad, 0xad), (0x600, 0x605), (0x61c, 0x61c), (0x6dd, 0x6dd), (0x70f, 0x70f), (0x890, 0x891),
   (0x8e2, 0x8e2), (0x180e, 0x180e), (0x200b, 0x200f), (0x202a, 0x202e), (0x2060, 0x2064),
   (0x2066, 0x206f), (0xfeff, 0xfeff), (0xfff9, 0xfffb), (0x110bd, 0x110bd), (0x110cd, 0x110cd),
   (0x13430, 0x1343f), (0x1bca0, 0x1bca3), (0x1d173, 0x1d17a), (0xe0001, 0xe0001),
   (0xe0020, 0xe007f)]

/-- The second block of controls, and the code points left to private agreement. -/
def withoutGlyph : CodeRanges :=
  [(0x80, 0x9f), (0xe000, 0xf8ff), (0xf0000, 0x10ffff)]

end ArmTokens
