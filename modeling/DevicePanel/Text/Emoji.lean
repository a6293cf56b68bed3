import DevicePanel.Text.Property.Emoji

/-!
# Emoji

The characters that make up emoji.  A selector chooses between the emoji and the
text form of a character, a joiner ties several into one, a skin tone changes the
one before it, two letters make up a flag, and so do a black flag and tags.
-/

namespace DevicePanel.Text

/-- The selector for the emoji form of a character, and the one for its text form. -/
def emojiSelector : Char := '\uFE0F'
def textSelector : Char := '\uFE0E'

/-- The joiner of emoji and of letters. -/
def joiner : Char := '\u200D'

/-- The joiner's opposite, which keeps letters apart. -/
def nonJoiner : Char := '\u200C'

/-- The letters that make up flags. -/
def isRegionalIndicator (c : Char) : Bool := 0x1F1E6 ≤ c.toNat && c.toNat ≤ 0x1F1FF

def isSkinTone (c : Char) : Bool := 0x1F3FB ≤ c.toNat && c.toNat ≤ 0x1F3FF

/-- The frame of a keycap. -/
def keycap : Char := '\u20E3'

/-- Ideographs in a frame, which keep their width in text form. -/
def isFramedIdeograph (c : Char) : Bool := 0x1F200 ≤ c.toNat && c.toNat ≤ 0x1F2FF

/-- Characters that take one column in text form and two otherwise. -/
def isNarrowAsText (c : Char) : Bool :=
  emojiBase.contains c && emojiPresentation.contains c && !isFramedIdeograph c

/-! ## Flags with tags -/

/-- The flag that tags turn into that of a region. -/
def isBlackFlag (c : Char) : Bool := c.toNat == 0x1F3F4

def isTagLetter (c : Char) : Bool := 0xE0061 ≤ c.toNat && c.toNat ≤ 0xE007A
def isTagDigit (c : Char) : Bool := 0xE0030 ≤ c.toNat && c.toNat ≤ 0xE0039
def isTagEnd (c : Char) : Bool := c.toNat == 0xE007F

/-- The tags of a flag, read from their end: letters only, or digits and the letters
behind them. -/
inductive FlagTags where
  | letters (count : Nat)
  | digits (count : Nat)
  deriving DecidableEq

namespace FlagTags

/-- The end of tags, with no tag before it yet. -/
def empty : FlagTags := .letters 0

/-- The tags with one more before them.  There are up to six letters, or three digits
and up to four letters. -/
def push? (c : Char) : FlagTags → Option FlagTags
  | .letters n =>
    if isTagLetter c && n < 6 then some (.letters (n + 1))
    else if isTagDigit c && n ≤ 4 then some (.digits 1)
    else .none
  | .digits n => if isTagDigit c && n < 3 then some (.digits (n + 1)) else .none

/-- A flag may stand before these tags. -/
def isComplete : FlagTags → Bool
  | .letters n => 3 ≤ n
  | .digits n => n == 3

end FlagTags

end DevicePanel.Text
