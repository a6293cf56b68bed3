import DevicePanel.Text.Property.Cluster

/-!
# Combining characters

Characters that are drawn on the one before them.
-/

namespace DevicePanel.Text

/-- The marks of voiced syllables in half width, which stand beside the letter that
they extend. -/
def isVoicingMark (c : Char) : Bool := c == '\uFF9E' || c == '\uFF9F'

def isCombining (c : Char) : Bool := graphemeExtend.contains c && !isVoicingMark c

end DevicePanel.Text
