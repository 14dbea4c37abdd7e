import ArmTokens.Text.Combining
import ArmTokens.Text.Invisible
import ArmTokens.Text.Quoted
import ArmTokens.Text.Unassigned
import ArmTokens.Text.Wide
import ArmTokens.Text.Width

/-!
# The standard display

Beyond ASCII, what stands on another character or is not seen takes no column,
and a wide character takes two. What cannot be seen by itself is not printed.
-/

set_option autoImplicit false

namespace ArmTokens

def charWidth (c : Char) : Nat :=
  if isAscii c then 1
  else if combiningMarks.has c || formatControls.has c || hangulTails.has c then 0
  else if wideCharacters.has c then 2
  else 1

instance : ColumnWidth where
  width := charWidth
  width_ascii c h := by simp [charWidth, h]

def isPrintable (c : Char) : Bool :=
  if isAscii c then ' ' ≤ c && c ≤ '~'
  else !(separators.has c || formatControls.has c || combiningMarks.has c ||
    spacingExtenders.has c || withoutGlyph.has c || unassigned.has c)

instance : PrintClass where
  printable := isPrintable

end ArmTokens
