/-!
# Blank characters

The characters that count as blank around a typed value, a key or a path, and
trimming by them.  The set is the Unicode property `White_Space`; it is larger
than the four blanks of the JSON grammar.
-/

namespace DevicePanel.Text

/-- `c` has the Unicode property `White_Space`. -/
def isBlank (c : Char) : Bool :=
  let n := c.toNat
  (9 ≤ n && n ≤ 13) || n == 0x20 || n == 0x85 || n == 0xA0 || n == 0x1680 ||
    (0x2000 ≤ n && n ≤ 0x200A) || n == 0x2028 || n == 0x2029 || n == 0x202F ||
    n == 0x205F || n == 0x3000

/-- Drop the blank characters at both ends of a list of characters. -/
def trimList (cs : List Char) : List Char :=
  ((cs.dropWhile isBlank).reverse.dropWhile isBlank).reverse

/-- Drop the blank characters at both ends of a text. -/
def trim (s : String) : String :=
  String.ofList (trimList s.toList)

end DevicePanel.Text
