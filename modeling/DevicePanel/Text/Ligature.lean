import DevicePanel.Text.Columns
import DevicePanel.Text.Property.Columns

/-!
# Ligatures

Letters that are drawn together and so share their columns.  A ligature is known by
its last letter, where the width of a text is counted from its end.
-/

namespace DevicePanel.Text

/-- The last letters of ligatures, and those with a part of the ligature before
them. -/
inductive LigatureEnd where
  /-- The Arabic letter alef, which a lam before it takes up. -/
  | alef
  /-- The Hebrew letter lamed, behind an alef and a joiner. -/
  | lamed
  /-- A Khmer letter that a sign before it puts below another one. -/
  | subscript
  /-- The Buginese letter ya, behind a vowel sign and a joiner. -/
  | ya
  | vowelAndYa
  /-- A Tifinagh consonant, behind another one and a joiner of its own or the general
  one. -/
  | consonant
  | joinerAndConsonant
  /-- The second letter of a Lisu tone. -/
  | tone
  /-- The Old Turkic letter i, behind an ec and a joiner. -/
  | orkhonI
  deriving DecidableEq

/-- The forms of the Arabic letter lam that take up an alef behind them. -/
def isLam (c : Char) : Bool :=
  let n := c.toNat
  n == 0x644 || (0x6B5 ≤ n && n ≤ 0x6B8) || n == 0x76A || n == 0x8A6 || n == 0x8C7

/-- The forms of the Arabic letter alef. -/
def isAlef (c : Char) : Bool :=
  let n := c.toNat
  n == 0x622 || n == 0x623 || n == 0x625 || n == 0x627 || (0x671 ≤ n && n ≤ 0x673) ||
    n == 0x675 || n == 0x773 || n == 0x774 || (0x870 ≤ n && n ≤ 0x882)

/-- Marks that may stand between a lam and an alef. -/
def isBetweenLamAndAlef (c : Char) : Bool := columns c == 0 && !joiningBarrier.contains c

/-- The Khmer letters that have a form below another letter. -/
def hasSubscript (c : Char) : Bool :=
  let n := c.toNat
  (0x1780 ≤ n && n ≤ 0x1782) || (0x1784 ≤ n && n ≤ 0x1787) || (0x1789 ≤ n && n ≤ 0x178C) ||
    (0x178E ≤ n && n ≤ 0x1793) || (0x1795 ≤ n && n ≤ 0x1798) || (0x179B ≤ n && n ≤ 0x179D) ||
    n == 0x17A0 || n == 0x17A2 || n == 0x17A7 || n == 0x17AB || n == 0x17AC || n == 0x17AF

def isTifinagh (c : Char) : Bool :=
  (0x2D31 ≤ c.toNat && c.toNat ≤ 0x2D65) || c == '\u2D6F'

/-- The ligature that ends with a character. -/
def ligatureEnd? (c : Char) : Option LigatureEnd :=
  let n := c.toNat
  if isAlef c then some .alef
  else if n == 0x5DC then some .lamed
  else if hasSubscript c then some .subscript
  else if n == 0x1A10 then some .ya
  else if isTifinagh c then some .consonant
  else if n == 0xA4FC || n == 0xA4FD then some .tone
  else if n == 0x10C03 then some .orkhonI
  else none

/-- Marks that may stand anywhere in a ligature other than that of lam and alef. -/
def isWithinLigature (c : Char) : Bool :=
  let n := c.toNat
  n == 0x34F || n == 0x17B4 || n == 0x17B5 || (0x180B ≤ n && n ≤ 0x180D) || n == 0x180F ||
    (0xFE00 ≤ n && n ≤ 0xFE0F) || (0xE0100 ≤ n && n ≤ 0xE01EF)

end DevicePanel.Text
