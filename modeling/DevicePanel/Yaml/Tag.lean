/-!
# Tags

A tag says of what kind a node is.  It consists of octets, not of characters: an
escape may stand for any octet, so a tag need not be UTF-8.  A zero octet ends it.
-/

namespace DevicePanel.Yaml

/-- The octets of a tag, none of which is zero. -/
structure Tag where
  octets : List UInt8
  nonzero : ∀ octet ∈ octets, octet ≠ 0
  deriving DecidableEq

namespace Tag

theorem ne_zero_of_mem_takeWhile {octets : List UInt8} :
    ∀ octet ∈ octets.takeWhile (· != 0), octet ≠ 0 := by
  induction octets with
  | nil => simp
  | cons first rest ih =>
    by_cases h : first = 0
    · simp [h]
    · simpa [h] using ih

/-- The tag of the octets before the first zero. -/
def ofOctets (octets : List UInt8) : Tag :=
  ⟨octets.takeWhile (· != 0), ne_zero_of_mem_takeWhile⟩

def ofString (s : String) : Tag := ofOctets s.toUTF8.data.toList

def append (leader suffix : Tag) : Tag :=
  ⟨leader.octets ++ suffix.octets, fun octet h =>
    (List.mem_append.1 h).elim (leader.nonzero octet) (suffix.nonzero octet)⟩

instance : Append Tag := ⟨append⟩

def isEmpty (t : Tag) : Bool := t.octets.isEmpty

/-- A local tag begins with an exclamation mark; its meaning is up to the reader. -/
def isLocal (t : Tag) : Bool := t.octets.head? == some 0x21

/-- A tag that can be read as text. -/
def isText (t : Tag) : Bool := (ByteArray.mk t.octets.toArray).validateUTF8

/-- A local tag that is a name of its own. -/
def isName (t : Tag) : Bool := t.isLocal && t.isText

/-! ## Tags of the common kinds -/

def null : Tag := ofString "tag:yaml.org,2002:null"
def flag : Tag := ofString "tag:yaml.org,2002:bool"
def integer : Tag := ofString "tag:yaml.org,2002:int"
def float : Tag := ofString "tag:yaml.org,2002:float"

end Tag

end DevicePanel.Yaml
