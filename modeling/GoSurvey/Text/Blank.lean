import GoSurvey.Text.Ranges

/-!
# Blanks

The characters with the Unicode property `White_Space`.
-/

namespace GoSurvey.Text

/-- The ranges of blanks. -/
def blankRanges : List Range :=
  [⟨0x9, 0xD, 1⟩, ⟨0x20, 0x20, 1⟩, ⟨0x85, 0x85, 1⟩, ⟨0xA0, 0xA0, 1⟩, ⟨0x1680, 0x1680, 1⟩,
    ⟨0x2000, 0x200A, 1⟩, ⟨0x2028, 0x2029, 1⟩, ⟨0x202F, 0x202F, 1⟩, ⟨0x205F, 0x205F, 1⟩,
    ⟨0x3000, 0x3000, 1⟩]

/-- Whether a character is blank. -/
def isBlank (c : Char) : Bool :=
  Range.anyHas blankRanges c

/-- Whether a text has nothing but blanks. -/
def isBlankText (s : String) : Bool :=
  s.toList.all isBlank

end GoSurvey.Text
