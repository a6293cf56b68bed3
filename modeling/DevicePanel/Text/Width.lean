import DevicePanel.Text.Emoji
import DevicePanel.Text.Ligature

/-!
# Widths of texts

How many columns of a terminal a text takes.  Some characters share their columns
with what follows them: the parts of one emoji, a line break of two characters, and
the letters of a ligature.  So the columns are counted from the end of a text, and
for each character it is known what follows.
-/

namespace DevicePanel.Text

/-! ## What follows -/

/-- What follows a character, as far as its width depends on that. -/
inductive Following where
  | other
  | lineFeed
  | emoji
  | skinTone
  /-- One letter of a flag, and two or more. -/
  | indicator
  | indicators
  /-- A joiner and an emoji. -/
  | joinedEmoji
  /-- A frame for a keycap, a joiner and an emoji. -/
  | joinedKeycap
  /-- One letter of a flag, an odd or an even number of them, then a joiner and an
  emoji. -/
  | joinedIndicator
  | joinedOdd
  | joinedEven
  /-- The tags of a flag, then a joiner and an emoji. -/
  | joinedTags (tags : FlagTags)
  /-- The end of a ligature, and whether a joiner is before it. -/
  | ligature (last : LigatureEnd) (joined : Bool)
  /-- The Kirat Rai vowel sign e, or a part of one, and the sign ai. -/
  | vowelE
  | vowelAi
  deriving DecidableEq

namespace Following

/-- A joiner and more of one emoji. -/
def isJoined : Following → Bool
  | .joinedEmoji | .joinedKeycap => true
  | _ => false

/-- The end of a ligature is still one with a selector before it. -/
def isLigature : Following → Bool
  | .ligature .. => true
  | _ => false

end Following

/-- What follows a character, and the selector in front of that. -/
structure Context where
  following : Following := .other
  selector : Option Char := none
  deriving DecidableEq

/-! ## Counting -/

/-- The columns of a character that does not share them with what follows, and what
it is for the character before. -/
def alone (c : Char) : Int × Following :=
  let kind : Following :=
    if isSkinTone c then .skinTone
    else if isRegionalIndicator c then .indicator
    else if emojiPresentation.contains c then .emoji
    else
      match ligatureEnd? c with
      | some last => .ligature last false
      | none =>
        if c.toNat == 0x16D67 then .vowelE
        else if c.toNat == 0x16D68 then .vowelAi
        else .other
  (columns c, kind)

/-- The columns that a character adds to the end of a ligature, if it joins it. -/
def joinLigature? (c : Char) (last : LigatureEnd) (joined : Bool) : Option (Int × Following) :=
  match last with
  | .alef =>
    if isLam c then some (0, .other)
    else if isBetweenLamAndAlef c then some (0, .ligature .alef joined)
    else none
  | last =>
    if c == joiner then some (0, .ligature last true)
    else if isWithinLigature c then some (0, .ligature last joined)
    else
      match last with
      | .alef => none
      | .lamed => if joined && c == '\u05D0' then some (0, .other) else none
      | .subscript => if c == '\u17D2' then some (-1, .other) else none
      | .ya => if joined && c == '\u1A17' then some (0, .ligature .vowelAndYa true) else none
      | .vowelAndYa => if c == '\u1A15' then some (0, .other) else none
      | .consonant =>
        if c == '\u2D7F' then some (1, .ligature .joinerAndConsonant true)
        else if joined && isTifinagh c then some (0, .other)
        else none
      | .joinerAndConsonant => if isTifinagh c then some (-1, .other) else none
      | .tone => if 0xA4F8 ≤ c.toNat && c.toNat ≤ 0xA4FB then some (0, .other) else none
      | .orkhonI => if joined && c.toNat == 0x10C32 then some (0, .other) else none

/-- The columns that a character adds to the emoji that follows it, if it is a part
of it. -/
def joinEmoji? (c : Char) (next : Following) : Option (Int × Following) :=
  match next with
  | .skinTone =>
    if emojiModifierBase.contains c then some (0, .emoji)
    else if c == joiner then some (0, .joinedEmoji)
    else none
  | .emoji | .indicators => if c == joiner then some (0, .joinedEmoji) else none
  | .indicator => if isRegionalIndicator c then some (1, .indicators) else none
  | .joinedEmoji =>
    if c == keycap then some (0, .joinedKeycap)
    else if isRegionalIndicator c then some (1, .joinedIndicator)
    else if isSkinTone c then some (0, .skinTone)
    else if isTagEnd c then some (0, .joinedTags .empty)
    else if emojiPresentation.contains c then some (0, .emoji)
    else none
  | .joinedTags tags =>
    if tags.isComplete && isBlackFlag c then some (0, .emoji)
    else (tags.push? c).map fun tags => (0, .joinedTags tags)
  | .joinedIndicator => if isRegionalIndicator c then some (-1, .joinedEven) else none
  | .joinedOdd =>
    if isRegionalIndicator c then some (-1, .joinedEven)
    else if c == joiner then some (0, .joinedEmoji)
    else none
  | .joinedEven =>
    if isRegionalIndicator c then some (3, .joinedOdd)
    else if c == joiner then some (0, .joinedEmoji)
    else none
  | _ => none

/-- The columns that a character adds to the Kirat Rai vowel sign that follows it, if it
is a part of it. -/
def joinVowel? (c : Char) (ai : Bool) : Option (Int × Following) :=
  let n := c.toNat
  if n == 0x16D63 then some (0, .other)
  else if ai then none
  else if n == 0x16D67 then some (0, .vowelAi)
  else if n == 0x16D68 then some (1, .vowelE)
  else if n == 0x16D69 then some (0, .other)
  else none

/-- The columns that a character adds to what follows it, without a selector. -/
def beforeFollowing (c : Char) (next : Following) : Int × Following :=
  match next with
  | .ligature last joined => (joinLigature? c last joined).getD (alone c)
  | .vowelE => (joinVowel? c false).getD (alone c)
  | .vowelAi => (joinVowel? c true).getD (alone c)
  | next =>
    let next := if next == .indicators && isRegionalIndicator c then .indicator else next
    (joinEmoji? c next).getD (alone c)

/-- The columns of an ASCII character or a control. -/
def beforeAscii (c : Char) (next : Context) : Int × Following :=
  if c == '\n' then (1, .lineFeed)
  else if c == '\r' && next == ⟨.lineFeed, none⟩ then (0, .other)
  else (1, .other)

/-- The context of a selector. -/
def Context.select (next : Context) (selector : Char) : Context :=
  let keep := next.following.isLigature || (selector == emojiSelector && next.following.isJoined)
  ⟨if keep then next.following else .other, some selector⟩

/-- The columns that a character adds to what follows it. -/
def before (c : Char) (next : Context) : Int × Context :=
  if next.selector == some emojiSelector && emojiBase.contains c then
    (if next.following.isJoined then 0 else 2, ⟨.emoji, none⟩)
  else
    let following :=
      if next.selector.isSome && !next.following.isLigature then .other else next.following
    if c.toNat ≤ 0xA0 then
      let (added, kind) := beforeAscii c next
      (added, ⟨kind, none⟩)
    else if c == emojiSelector || c == textSelector then (0, Context.select ⟨following, none⟩ c)
    else if next.selector == some textSelector && isNarrowAsText c then (1, {})
    else
      let (added, kind) := beforeFollowing c following
      (added, ⟨kind, none⟩)

/-- The columns of a text, in which a control counts as one. -/
def width (cs : List Char) : Nat :=
  (cs.foldr (fun c (total, next) =>
    let (added, next) := before c next
    (total + added, next)) ((0 : Int), ({} : Context))).1.toNat

/-- The columns that a symbol is given on a screen, where every mark of a voiced
syllable counts twice. -/
def symbolWidth (cs : List Char) : Nat := width cs + cs.countP isVoicingMark

end DevicePanel.Text
