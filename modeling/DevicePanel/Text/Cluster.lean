import DevicePanel.Text.Columns
import DevicePanel.Text.Emoji
import DevicePanel.Text.Property.Cluster

/-!
# Grapheme clusters

What a reader takes for one character may be several of them: a letter with its
marks, the parts of a Hangul syllable, a flag, a joined emoji.  `clusters` cuts a
text into these, by the rules for extended grapheme clusters.
-/

namespace DevicePanel.Text

/-- The classes of characters that the rules speak of. -/
inductive ClusterClass where
  | other
  | carriageReturn
  | lineFeed
  | control
  | extend
  | joiner
  | regionalIndicator
  | prepend
  | spacingMark
  | leading
  | vowel
  | trailing
  /-- A syllable of a leading consonant and a vowel. -/
  | openSyllable
  /-- A syllable with a trailing consonant too. -/
  | closedSyllable
  deriving DecidableEq

/-- The class of a Hangul character. -/
def hangulClass? (n : Nat) : Option ClusterClass :=
  if (0x1100 ≤ n && n ≤ 0x115F) || (0xA960 ≤ n && n ≤ 0xA97C) then some .leading
  else if (0x1160 ≤ n && n ≤ 0x11A7) || (0xD7B0 ≤ n && n ≤ 0xD7C6) || n == 0x16D63 ||
      (0x16D67 ≤ n && n ≤ 0x16D6A) then some .vowel
  else if (0x11A8 ≤ n && n ≤ 0x11FF) || (0xD7CB ≤ n && n ≤ 0xD7FB) then some .trailing
  else if 0xAC00 ≤ n && n ≤ 0xD7A3 then
    some (if (n - 0xAC00) % 28 == 0 then .openSyllable else .closedSyllable)
  else none

def clusterClass (c : Char) : ClusterClass :=
  let n := c.toNat
  if c == '\r' then .carriageReturn
  else if c == '\n' then .lineFeed
  else if isControl c then .control
  else if n < 0xA9 then .other
  else if c == Text.joiner then .joiner
  else if isRegionalIndicator c then .regionalIndicator
  else if graphemeExtend.contains c || isSkinTone c then .extend
  else if clusterControl.contains c then .control
  else if spacingMark.contains c then .spacingMark
  else if clusterPrepend.contains c then .prepend
  else (hangulClass? n).getD .other

/-- The signs that link consonants into a conjunct. -/
def isConjunctLinker (c : Char) : Bool :=
  [0x94D, 0x9CD, 0xACD, 0xB4D, 0xC4D, 0xD4D, 0x1039, 0x17D2, 0x1A60, 0x1B44, 0x1BAB, 0xA9C0,
    0xAAF6, 0x10A3F, 0x11133, 0x113D0, 0x1193E, 0x11A47, 0x11A99, 0x11F42].contains c.toNat

/-- How far a conjunct has come: nothing, a consonant with marks, and one with a
linker among them. -/
inductive Conjunct where
  | none
  | consonant
  | linked
  deriving DecidableEq

/-- What the rules look back at. -/
structure ClusterEnd where
  last : ClusterClass
  /-- The cluster ends with a pictograph and extending characters. -/
  pictograph : Bool
  /-- A joiner follows these. -/
  joined : Bool
  /-- The number of regional indicators at the end is odd. -/
  oddIndicators : Bool
  conjunct : Conjunct

namespace ClusterEnd

/-- The end of a cluster that consists of a single character. -/
def start (c : Char) : ClusterEnd where
  last := clusterClass c
  pictograph := extendedPictographic.contains c
  joined := false
  oddIndicators := isRegionalIndicator c
  conjunct := if conjunctConsonant.contains c then .consonant else .none

/-- The end after another character has joined. -/
def extend (e : ClusterEnd) (c : Char) : ClusterEnd :=
  let kind := clusterClass c
  let mark := (kind == .extend && c != nonJoiner) || kind == .joiner
  { last := kind
    pictograph := extendedPictographic.contains c || (e.pictograph && kind == .extend)
    joined := e.pictograph && kind == .joiner
    oddIndicators := isRegionalIndicator c && !e.oddIndicators
    conjunct :=
      if conjunctConsonant.contains c then .consonant
      else if e.conjunct == .none || !mark then .none
      else if isConjunctLinker c then .linked
      else e.conjunct }

/-- Hangul characters that make up a syllable together. -/
def joinsSyllable (last next : ClusterClass) : Bool :=
  match last, next with
  | .leading, .leading | .leading, .vowel | .leading, .openSyllable
  | .leading, .closedSyllable | .openSyllable, .vowel | .openSyllable, .trailing
  | .vowel, .vowel | .vowel, .trailing | .closedSyllable, .trailing
  | .trailing, .trailing => true
  | _, _ => false

def isBreaking (k : ClusterClass) : Bool :=
  k == .control || k == .carriageReturn || k == .lineFeed

/-- The next character belongs to the cluster. -/
def joins (e : ClusterEnd) (c : Char) : Bool :=
  let next := clusterClass c
  if e.last == .carriageReturn && next == .lineFeed then true
  else if isBreaking e.last || isBreaking next then false
  else
    joinsSyllable e.last next || next == .extend || next == .joiner || next == .spacingMark ||
      e.last == .prepend || (e.conjunct == .linked && conjunctConsonant.contains c) ||
      (e.joined && extendedPictographic.contains c) ||
      (e.last == .regionalIndicator && e.oddIndicators && next == .regionalIndicator)

end ClusterEnd

/-- Cut the rest of a text, where `done` is the cluster begun last, in reverse. -/
def clustersFrom (e : ClusterEnd) (done : List Char) : List Char → List (List Char)
  | [] => [done.reverse]
  | c :: cs =>
    if e.joins c then clustersFrom (e.extend c) (c :: done) cs
    else done.reverse :: clustersFrom (.start c) [c] cs

/-- The clusters of a text in their order. -/
def clusters : List Char → List (List Char)
  | [] => []
  | c :: cs => clustersFrom (.start c) [c] cs

end DevicePanel.Text
