import DevicePanel.Yaml.Error
import DevicePanel.Yaml.Token

/-!
# Scalars

Reading of plain, quoted and block scalars.  Line breaks inside plain and quoted
scalars are folded: one stands for a space, each further one for a line feed.
-/

namespace DevicePanel.Yaml

/-- The error of a problem at a place. -/
def fail (context : Context) (start : Mark) (problem : Problem) (mark : Mark) : Except Error α :=
  .error (.malformed problem mark (some (context, start)))

/-! ## Gaps -/

/-- Blanks and line breaks between two pieces of a scalar. -/
structure Gap where
  /-- There is a line break in the gap. -/
  broken : Bool := false
  /-- The blanks before the first line break. -/
  blanks : List Char := []
  firstBreak : List Char := []
  moreBreaks : List Char := []

namespace Gap

/-- What a gap stands for. -/
def text (g : Gap) : List Char :=
  if !g.broken then g.blanks
  else if g.firstBreak.head? == some '\n' then
    if g.moreBreaks.isEmpty then [' '] else g.moreBreaks
  else g.firstBreak ++ g.moreBreaks

/-- The gap at the cursor.  After a line break, tabs before column `margin` are
refused. -/
def read (start : Mark) (margin : Int) : Nat → Gap → Cursor → Except Error (Gap × Cursor)
  | 0, g, c => .ok (g, c)
  | fuel + 1, g, c =>
    match c.rest with
    | [] => .ok (g, c)
    | d :: _ =>
      if isBlank d then
        if g.broken && decide ((c.mark.column : Int) < margin) && d == '\t' then
          fail .plainScalar start .tabInPlain c.mark
        else if g.broken then read start margin fuel g c.skip
        else read start margin fuel { g with blanks := g.blanks ++ [d] } c.skip
      else if isBreak d then
        let g := if g.broken then { g with moreBreaks := g.moreBreaks ++ c.breakText }
          else { g with broken := true, blanks := [], firstBreak := c.breakText }
        read start margin fuel g c.skipLine
      else .ok (g, c)

end Gap

/-! ## Plain scalars -/

/-- How many characters belong to the word at the start of a plain scalar's text,
and whether a colon after them is misplaced. -/
def plainWord (flow : Bool) : List Char → Nat × Bool
  | [] => (0, false)
  | c :: r =>
    if isBlank c || isBreak c then (0, false)
    else if flow && c == ':' && headIs (fun d => isFlowIndicator d || d == '?') r then (0, true)
    else if (c == ':' && atGap r) || (flow && isFlowIndicator c) then (0, false)
    else
      let (n, misplaced) := plainWord flow r
      (n + 1, misplaced)

/-- The rest of a plain scalar whose text so far is `done`, last character first.
The second part of the result tells whether it ends behind a line break. -/
def plainScalar (flow : Bool) (start : Mark) (indent : Int) :
    Nat → List Char → Gap → Cursor → Except Error (String × Bool × Cursor)
  | 0, done, g, c => .ok (String.ofList done.reverse, g.broken, c)
  | fuel + 1, done, g, c =>
    if c.atDocumentMark || headIs (· == '#') c.rest then
      .ok (String.ofList done.reverse, g.broken, c)
    else
      let (n, misplaced) := plainWord flow c.rest
      if misplaced then fail .plainScalar start .flowColon (c.skipN n).mark
      else
        let word := c.rest.take n
        let done := if n == 0 then done else word.reverse ++ (g.text.reverse ++ done)
        let g := if n == 0 then g else {}
        let c := c.skipN n
        if headIs (fun d => isBlank d || isBreak d) c.rest then
          match Gap.read start indent fuel g c with
          | .error e => .error e
          | .ok (g, c) =>
            if !flow && decide ((c.mark.column : Int) < indent) then
              .ok (String.ofList done.reverse, g.broken, c)
            else plainScalar flow start indent fuel done g c
        else .ok (String.ofList done.reverse, g.broken, c)

/-! ## Quoted scalars -/

/-- The character for an escape without digits. -/
def escapedChar? : Char → Option Char
  | '0' => some (Char.ofNat 0)
  | 'a' => some (Char.ofNat 7)
  | 'b' => some (Char.ofNat 8)
  | 't' => some '\t'
  | '\t' => some '\t'
  | 'n' => some '\n'
  | 'v' => some (Char.ofNat 11)
  | 'f' => some (Char.ofNat 12)
  | 'r' => some '\r'
  | 'e' => some (Char.ofNat 27)
  | ' ' => some ' '
  | '"' => some '"'
  | '/' => some '/'
  | '\\' => some '\\'
  | 'N' => some (Char.ofNat 0x85)
  | '_' => some (Char.ofNat 0xA0)
  | 'L' => some (Char.ofNat 0x2028)
  | 'P' => some (Char.ofNat 0x2029)
  | _ => none

/-- The number of digits of an escape with digits. -/
def escapeDigits? : Char → Option Nat
  | 'x' => some 2
  | 'u' => some 4
  | 'U' => some 8
  | _ => none

/-- The character of the escape at the cursor, which is at a backslash. -/
def escape (start : Mark) (c : Cursor) : Except Error (Char × Cursor) :=
  match c.rest with
  | _ :: d :: _ =>
    match escapedChar? d, escapeDigits? d with
    | some e, _ => .ok (e, c.skipN 2)
    | none, some n =>
      let c := c.skipN 2
      let digits := (c.rest.take n).filterMap hexValue?
      if digits.length < n then fail .quotedEscape start .noHexDigit c.mark
      else
        let value := digits.foldl (fun v d => v * 16 + d) 0
        if (0xD800 ≤ value && value ≤ 0xDFFF) || 0x10FFFF < value then
          fail .quotedEscape start .badCodePoint c.mark
        else .ok (Char.ofNat value, c.skipN n)
    | none, none => fail .quotedEscape start .unknownEscape c.mark
  | _ => fail .quotedEscape start .unknownEscape c.mark

/-- The characters of a quoted scalar up to the next gap or the closing quote, put
before `done`, and whether they end with an escaped line break. -/
def quotedWord (single : Bool) (start : Mark) :
    Nat → List Char → Cursor → Except Error (List Char × Bool × Cursor)
  | 0, done, c => .ok (done, false, c)
  | fuel + 1, done, c =>
    match c.rest with
    | [] => .ok (done, false, c)
    | d :: r =>
      if isBlank d || isBreak d then .ok (done, false, c)
      else if single then
        if d == '\'' then
          if headIs (· == '\'') r then quotedWord single start fuel ('\'' :: done) (c.skipN 2)
          else .ok (done, false, c)
        else quotedWord single start fuel (d :: done) c.skip
      else if d == '"' then .ok (done, false, c)
      else if d == '\\' then
        if headIs isBreak r then .ok (done, true, c.skip.skipLine)
        else
          match escape start c with
          | .error e => .error e
          | .ok (e, c) => quotedWord single start fuel (e :: done) c
      else quotedWord single start fuel (d :: done) c.skip

/-- The rest of a quoted scalar behind its opening quote. -/
def quotedScalar (single : Bool) (start : Mark) :
    Nat → List Char → Cursor → Except Error (String × Cursor)
  | 0, _, c => fail .quotedScalar start .endOfStream c.mark
  | fuel + 1, done, c =>
    if c.atDocumentMark then fail .quotedScalar start .documentMark c.mark
    else if c.rest.isEmpty then fail .quotedScalar start .endOfStream c.mark
    else
      match quotedWord single start fuel done c with
      | .error e => .error e
      | .ok (done, broken, c) =>
        if headIs (· == if single then '\'' else '"') c.rest then
          .ok (String.ofList done.reverse, c.skip)
        else
          match Gap.read start 0 fuel { broken } c with
          | .error e => .error e
          | .ok (g, c) => quotedScalar single start fuel (g.text.reverse ++ done) c

/-! ## Block scalars -/

/-- What happens to the line breaks at the end of a block scalar. -/
inductive Chomping where
  | strip
  | clip
  | keep
  deriving DecidableEq

/-- The header of a block scalar behind its indicator: the chomping and the
indentation, if it is given. -/
def blockHeader (start : Mark) (c : Cursor) : Except Error (Chomping × Option Nat × Cursor) :=
  let chomping? : Cursor → Option Chomping := fun c =>
    match c.rest with
    | '+' :: _ => some .keep
    | '-' :: _ => some .strip
    | _ => none
  let indentation (c : Cursor) : Except Error (Option Nat × Cursor) :=
    match c.rest with
    | d :: _ =>
      if d == '0' then fail .blockScalar start .zeroIndentation c.mark
      else if d.isDigit then .ok (some (d.toNat - 48), c.skip)
      else .ok (none, c)
    | [] => .ok (none, c)
  match chomping? c with
  | some chomping => do
    let (increment, c) ← indentation c.skip
    .ok (chomping, increment, c)
  | none => do
    let (increment, c) ← indentation c
    match increment, chomping? c with
    | some n, some chomping => .ok (chomping, some n, c.skip)
    | _, _ => .ok (.clip, increment, c)

/-- The blank lines at the cursor and the indentation of the next line, up to
`indent` if that is known; `widest` is the widest indentation seen so far. -/
def blankLines (start : Mark) (indent : Option Nat) :
    Nat → Nat → List Char → Cursor → Except Error (Nat × List Char × Cursor)
  | 0, widest, breaks, c => .ok (widest, breaks, c)
  | fuel + 1, widest, breaks, c =>
    let room := indent.map (· - c.mark.column)
    let spaces := (c.rest.takeWhile (· == ' ')).length
    let c := c.skipN (min spaces (room.getD spaces))
    let widest := max widest c.mark.column
    let within := indent.all (c.mark.column < ·)
    if within && headIs (· == '\t') c.rest then
      fail .blockScalar start .tabIndentation c.mark
    else if headIs isBreak c.rest then
      blankLines start indent fuel widest (breaks ++ c.breakText) c.skipLine
    else .ok (widest, breaks, c)

/-- The lines of a block scalar at the given indentation.  `done` is the text so
far, last character first; `lineBreak` ends the last line, and `blank` tells
whether that line began with a blank. -/
def blockLines (literal : Bool) (start : Mark) (indent : Nat) :
    Nat → List Char → List Char → List Char → Bool → Cursor →
      Except Error (List Char × List Char × List Char × Cursor)
  | 0, done, lineBreak, breaks, _, c => .ok (done, lineBreak, breaks, c)
  | fuel + 1, done, lineBreak, breaks, blank, c =>
    if c.mark.column == indent && !c.rest.isEmpty then
      let blankHere := headIs isBlank c.rest
      let joint :=
        if !literal && lineBreak.head? == some '\n' && !blank && !blankHere then
          if breaks.isEmpty then [' '] else []
        else lineBreak
      let (line, c) := c.takeWhile (!isBreak ·)
      let done := line.reverse ++ (breaks.reverse ++ (joint.reverse ++ done))
      let lineBreak := c.breakText
      match blankLines start (some indent) fuel 0 [] c.skipLine with
      | .error e => .error e
      | .ok (_, breaks, c) =>
        blockLines literal start indent fuel done lineBreak breaks blankHere c
    else .ok (done, lineBreak, breaks, c)

/-- A block scalar in a collection with the given indentation. -/
def blockScalar (literal : Bool) (parent : Int) (fuel : Nat) (c : Cursor) :
    Except Error (String × Cursor) := do
  let start := c.mark
  let (chomping, increment, c) ← blockHeader start c.skip
  let c := c.skipWhile isBlank
  let c := if headIs (· == '#') c.rest then c.skipToBreak else c
  if !atBreakOrEnd c.rest then fail .blockScalar start .noDirectiveEnd c.mark
  else
    let c := c.skipLine
    let given := increment.map fun n => if 0 ≤ parent then parent.toNat + n else n
    let (widest, breaks, c) ← blankLines start given fuel 0 [] c
    let indent := given.getD (max widest (max (parent + 1).toNat 1))
    let (done, lineBreak, breaks, c) ← blockLines literal start indent fuel [] [] breaks false c
    let done := if chomping == .strip then done else lineBreak.reverse ++ done
    let done := if chomping == .keep then breaks.reverse ++ done else done
    .ok (String.ofList done.reverse, c)

end DevicePanel.Yaml
