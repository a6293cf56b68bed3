import DevicePanel.Yaml.Token.Scalar

/-!
# Anchors, tags and directives

Reading of the names that stand before nodes, and of the directives that stand
before documents.
-/

namespace DevicePanel.Yaml

/-! ## Anchors -/

/-- The name behind the indicator of an anchor or an alias. -/
def anchorName (context : Context) (c : Cursor) : Except Error (String × Cursor) :=
  let start := c.mark
  let (name, c) := c.skip.takeWhile isWord
  let mayFollow (d : Char) := "?:,]\x7d%@`".toList.contains d
  if name.isEmpty || !(atGap c.rest || headIs mayFollow c.rest) then
    fail context start .noAnchorName c.mark
  else .ok (String.ofList name, c)

/-! ## Tags -/

/-- A character of a tag besides letters, digits, hyphens and underscores; only
whole tags and directives have commas and brackets in them. -/
def isUriMark (whole : Bool) (c : Char) : Bool :=
  ";/?:@&=+$.%!~*'()".toList.contains c || (whole && ",[]".toList.contains c)

/-- The number of octets of a character in UTF-8, from its first octet. -/
def octets? (first : Nat) : Option Nat :=
  if first < 0x80 then some 1
  else if first / 0x20 == 6 then some 2
  else if first / 0x10 == 14 then some 3
  else if first / 8 == 30 then some 4
  else none

/-- The octets of one escaped character, put before `done`; `left` are to come, or
the first one tells how many. -/
def uriEscape (context : Context) (start : Mark) :
    Nat → Option Nat → List UInt8 → Cursor → Except Error (List UInt8 × Cursor)
  | 0, _, done, c => .ok (done, c)
  | fuel + 1, left, done, c =>
    match c.rest with
    | '%' :: a :: b :: _ =>
      match hexValue? a, hexValue? b with
      | some high, some low =>
        let octet := high * 16 + low
        let left : Except Error Nat := match left with
          | some n => if octet / 0x40 == 2 then .ok n else fail context start .badUriTrail c.mark
          | none =>
            match octets? octet with
            | some n => .ok n
            | none => fail context start .badUriLead c.mark
        match left with
        | .error e => .error e
        | .ok left =>
          let done := octet.toUInt8 :: done
          let c := c.skipN 3
          if left ≤ 1 then .ok (done, c)
          else uriEscape context start fuel (some (left - 1)) done c
      | _, _ => fail context start .noUriEscape c.mark
    | _ => fail context start .noUriEscape c.mark

/-- The octets of a tag from the cursor on, put before `done`. -/
def uriOctets (whole : Bool) (context : Context) (start : Mark) :
    Nat → List UInt8 → Cursor → Except Error (List UInt8 × Cursor)
  | 0, done, c => .ok (done, c)
  | fuel + 1, done, c =>
    match c.rest with
    | [] => .ok (done, c)
    | d :: _ =>
      if isWord d || isUriMark whole d then
        if d == '%' then
          match uriEscape context start 4 none done c with
          | .error e => .error e
          | .ok (done, c) => uriOctets whole context start fuel done c
        else uriOctets whole context start fuel (d.toUInt8 :: done) c.skip
      else .ok (done, c)

/-- A tag or a part of one, of which `head` has been read already. -/
def tagUri (whole : Bool) (context : Context) (start : Mark) (head : List Char) (c : Cursor) :
    Except Error (Tag × Cursor) := do
  let ahead := c.rest.takeWhile fun d => isWord d || isUriMark whole d
  let headOctets := (head.drop 1).map Char.toUInt8
  let (octets, rest) ← uriOctets whole context start ahead.length headOctets.reverse c
  if head.isEmpty && rest.mark == c.mark then fail context start .noTagUri rest.mark
  else .ok (.ofOctets octets.reverse, rest)

/-- The handle of a tag: a name between exclamation marks, or a single mark with
what follows it. -/
def tagHandle (directive : Bool) (start : Mark) (c : Cursor) :
    Except Error (List Char × Cursor) :=
  if headIs (· == '!') c.rest then
    let (name, c) := c.skip.takeWhile isWord
    if headIs (· == '!') c.rest then .ok ('!' :: name ++ ['!'], c.skip)
    else if directive && !name.isEmpty then fail .tagDirectiveMark start .noTagMark c.mark
    else .ok ('!' :: name, c)
  else fail (if directive then .tagDirectiveHandle else .tag) start .noTagMark c.mark

/-- The handle and the suffix of the tag at the cursor. -/
def tagParts (c : Cursor) : Except Error (String × Tag × Cursor) := do
  let start := c.mark
  match c.rest with
  | _ :: '<' :: _ =>
    let (suffix, c) ← tagUri true .tagUri start [] (c.skipN 2)
    if headIs (· == '>') c.rest then .ok ("", suffix, c.skip)
    else fail .tag start .noTagBracket c.mark
  | _ =>
    let (handle, c) ← tagHandle false start c
    if 2 ≤ handle.length && handle.getLast? == some '!' then
      let (suffix, c) ← tagUri false .tagUri start [] c
      .ok (String.ofList handle, suffix, c)
    else
      let (suffix, c) ← tagUri false .tagUri start handle c
      if suffix.isEmpty then .ok ("", .ofString "!", c) else .ok ("!", suffix, c)

/-- The tag at the cursor, behind which there has to be a gap. -/
def tag (flow : Bool) (c : Cursor) : Except Error (String × Tag × Cursor) := do
  let (handle, suffix, rest) ← tagParts c
  if atGap rest.rest || (flow && headIs (· == ',') rest.rest) then .ok (handle, suffix, rest)
  else fail .tag c.mark .noTagLineEnd rest.mark

/-! ## Directives -/

/-- A number of a version, which has at most nine digits. -/
def versionNumber (start : Mark) (c : Cursor) : Except Error (Nat × Cursor) :=
  let (digits, rest) := c.takeWhile Char.isDigit
  if digits.isEmpty then fail .versionDirective start .noVersion rest.mark
  else if 9 < digits.length then fail .versionDirective start .longVersion (c.skipN 9).mark
  else .ok (digits.foldl (fun n d => n * 10 + (d.toNat - 48)) 0, rest)

def versionDirective (start : Mark) (c : Cursor) : Except Error (TokenKind × Cursor) := do
  let (major, c) ← versionNumber start (c.skipWhile isBlank)
  if headIs (· == '.') c.rest then
    let (minor, c) ← versionNumber start c.skip
    .ok (.versionDirective major minor, c)
  else fail .versionDirective start .noVersionDigit c.mark

def tagDirective (start : Mark) (c : Cursor) : Except Error (TokenKind × Cursor) := do
  let (handle, c) ← tagHandle true start (c.skipWhile isBlank)
  if headIs isBlank c.rest then
    let (leader, c) ← tagUri true .tagDirectiveUri start [] (c.skipWhile isBlank)
    if atGap c.rest then .ok (.tagDirective (String.ofList handle) leader, c)
    else fail .tagDirective start .noTagLineEnd c.mark
  else fail .tagDirective start .noTagSpace c.mark

/-- The directive at the cursor: the place behind it, and behind its line. -/
def directive (c : Cursor) : Except Error (TokenKind × Mark × Cursor) := do
  let start := c.mark
  let (name, c) := c.skip.takeWhile isWord
  if name.isEmpty then fail .directive start .noDirectiveName c.mark
  else if !atGap c.rest then fail .directive start .badDirectiveName c.mark
  else
    let (kind, c) ←
      if name == "YAML".toList then versionDirective start c
      else if name == "TAG".toList then tagDirective start c
      else fail .directive start .unknownDirective c.mark
    let stop := c.mark
    let c := c.skipWhile isBlank
    let c := if headIs (· == '#') c.rest then c.skipToBreak else c
    if atBreakOrEnd c.rest then .ok (kind, stop, c.skipLine)
    else fail .directive start .noDirectiveEnd c.mark

end DevicePanel.Yaml
