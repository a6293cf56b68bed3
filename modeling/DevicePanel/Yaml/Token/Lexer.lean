import DevicePanel.Yaml.Token.Property

/-!
# From characters to tokens

The lexer turns a text into tokens.  Two things are only known later than the
place where they belong: a key without a question mark shows by the colon behind
it, and a block collection by the indentation of its first entry.  Tokens
therefore wait in a queue as long as a key may still begin before them.
-/

namespace DevicePanel.Yaml

/-- A place where a key may begin: the number of the token there.  In a block
mapping a key has to begin at the mapping's indentation. -/
structure KeyCandidate where
  required : Bool
  token : Nat
  mark : Mark

/-- How many bytes the colon of a key may be behind its beginning. -/
def maxKeyLength : Nat := 1024

/-- The state of the lexer. -/
structure Lexer where
  cursor : Cursor
  /-- The number of characters of the text, which bounds every loop over them. -/
  size : Nat
  /-- The tokens that wait, and the number of those that have been delivered. -/
  queue : List Token := []
  delivered : Nat := 0
  /-- The indentation of the innermost block collection, and of those around it. -/
  indent : Int := -1
  outerIndents : List Int := []
  /-- A key may begin at the cursor. -/
  keyAllowed : Bool := true
  /-- The key candidates, one for the block level and one for each flow collection
  around the cursor, innermost first. -/
  candidates : List (Option KeyCandidate) := [none]

namespace Lexer

def mark (lx : Lexer) : Mark := lx.cursor.mark

/-- The cursor is inside a flow collection. -/
def inFlow (lx : Lexer) : Bool := 1 < lx.candidates.length

/-- Append a token to the queue. -/
def emit (lx : Lexer) (kind : TokenKind) (start stop : Mark) : Lexer :=
  { lx with queue := lx.queue ++ [⟨kind, start, stop⟩] }

/-- Put a token into the queue before the one with the given number. -/
def insertAt (lx : Lexer) (number : Nat) (kind : TokenKind) (mark : Mark) : Lexer :=
  let place := number - lx.delivered
  { lx with queue := lx.queue.take place ++ ⟨kind, mark, mark⟩ :: lx.queue.drop place }

/-- Step over a number of characters that make up a token. -/
def emitChars (lx : Lexer) (kind : TokenKind) (n : Nat) : Lexer :=
  let start := lx.mark
  let cursor := lx.cursor.skipN n
  { lx with cursor }.emit kind start cursor.mark

/-! ## Indentation -/

/-- Open a block collection if the column is beyond the current indentation.  The
token that opens it comes before the token with the given number, or last. -/
def roll (lx : Lexer) (column : Nat) (number : Option Nat) (kind : TokenKind) (mark : Mark) :
    Lexer :=
  if !lx.inFlow && decide (lx.indent < column) then
    let lx := { lx with indent := column, outerIndents := lx.indent :: lx.outerIndents }
    match number with
    | some n => lx.insertAt n kind mark
    | none => lx.emit kind mark mark
  else lx

/-- Close the block collections beyond a column, going outwards through the given
indentations. -/
def unrollFrom (column : Int) : List Int → Lexer → Lexer
  | [], lx => lx
  | outer :: rest, lx =>
    if column < lx.indent then
      unrollFrom column rest
        ({ lx with indent := outer, outerIndents := rest }.emit .blockEnd lx.mark lx.mark)
    else lx

def unroll (lx : Lexer) (column : Int) : Lexer :=
  if lx.inFlow then lx else unrollFrom column lx.outerIndents lx

/-! ## Keys -/

def noColon (candidate : KeyCandidate) (lx : Lexer) : Except Error α :=
  fail .simpleKey candidate.mark .noColon lx.mark

/-- A key ends on the line where it begins, and not too far from there. -/
def isStale (lx : Lexer) (candidate : KeyCandidate) : Bool :=
  candidate.mark.line < lx.mark.line || candidate.mark.offset + maxKeyLength < lx.mark.offset

/-- Give up the candidates behind which no colon can come any more. -/
def dropStale (lx : Lexer) : Except Error Lexer := do
  let check : Option KeyCandidate → Except Error (Option KeyCandidate)
    | none => .ok none
    | some candidate =>
      if lx.isStale candidate then
        if candidate.required then noColon candidate lx else .ok none
      else .ok (some candidate)
  if lx.candidates.any (·.any lx.isStale) then
    let candidates ← lx.candidates.reverse.mapM check
    .ok { lx with candidates := candidates.reverse }
  else .ok lx

/-- Give up the innermost candidate. -/
def dropKey (lx : Lexer) : Except Error Lexer :=
  match lx.candidates with
  | some candidate :: outer =>
    if candidate.required then noColon candidate lx
    else .ok { lx with candidates := none :: outer }
  | _ => .ok lx

/-- A key may begin with the next token. -/
def saveKey (lx : Lexer) : Except Error Lexer :=
  if lx.keyAllowed then do
    let required := !lx.inFlow && lx.indent == lx.mark.column
    let lx ← lx.dropKey
    let candidate := ⟨required, lx.delivered + lx.queue.length, lx.mark⟩
    .ok { lx with candidates := some candidate :: lx.candidates.drop 1 }
  else .ok lx

/-- The first token of the queue may turn out to belong to a key. -/
def isWaiting (lx : Lexer) : Bool :=
  lx.candidates.any fun candidate => candidate.any (·.token == lx.delivered)

/-! ## Between tokens -/

/-- Step over a byte order mark, which may stand at the start of a line. -/
def skipOrderMark (c : Cursor) : Cursor :=
  if c.mark.column == 0 && headIs (· == '\uFEFF') c.rest then c.skip else c

/-- Step over blanks, comments and line breaks.  Tabs are not taken where a key
may begin. -/
def skipSpace : Nat → Lexer → Lexer
  | 0, lx => lx
  | fuel + 1, lx =>
    let tabs := lx.inFlow || !lx.keyAllowed
    let cursor := (skipOrderMark lx.cursor).skipWhile fun c => c == ' ' || (tabs && c == '\t')
    let cursor := if headIs (· == '#') cursor.rest then cursor.skipToBreak else cursor
    if headIs isBreak cursor.rest then
      skipSpace fuel
        { lx with cursor := cursor.skipLine, keyAllowed := lx.keyAllowed || !lx.inFlow }
    else { lx with cursor }

/-! ## Tokens -/

def problem (lx : Lexer) (p : Problem) : Except Error α := .error (.malformed p lx.mark none)

def fetchEnd (lx : Lexer) : Except Error Lexer := do
  let m := lx.mark
  let m := if m.column == 0 then m else ⟨m.offset, m.line + 1, 0⟩
  let lx := { lx with cursor := ⟨[], m⟩ }.unroll (-1)
  let lx ← lx.dropKey
  .ok ({ lx with keyAllowed := false }.emit .streamEnd m m)

def fetchDirective (lx : Lexer) : Except Error Lexer := do
  let lx ← (lx.unroll (-1)).dropKey
  let start := lx.mark
  let (kind, stop, cursor) ← directive lx.cursor
  .ok ({ lx with cursor, keyAllowed := false }.emit kind start stop)

def fetchDocumentMark (lx : Lexer) (kind : TokenKind) : Except Error Lexer := do
  let lx ← (lx.unroll (-1)).dropKey
  .ok ({ lx with keyAllowed := false }.emitChars kind 3)

def fetchFlowStart (lx : Lexer) (kind : TokenKind) : Except Error Lexer := do
  let lx ← lx.saveKey
  .ok ({ lx with candidates := none :: lx.candidates, keyAllowed := true }.emitChars kind 1)

def fetchFlowEnd (lx : Lexer) (kind : TokenKind) : Except Error Lexer := do
  let lx ← lx.dropKey
  let candidates := if lx.inFlow then lx.candidates.drop 1 else lx.candidates
  .ok ({ lx with candidates, keyAllowed := false }.emitChars kind 1)

def fetchFlowEntry (lx : Lexer) : Except Error Lexer := do
  let lx ← lx.dropKey
  .ok ({ lx with keyAllowed := true }.emitChars .flowEntry 1)

def fetchBlockEntry (lx : Lexer) : Except Error Lexer := do
  if !lx.inFlow && !lx.keyAllowed then lx.problem .sequenceNotAllowed
  else
    let lx := lx.roll lx.mark.column none .blockSequenceStart lx.mark
    let lx ← lx.dropKey
    .ok ({ lx with keyAllowed := true }.emitChars .blockEntry 1)

def fetchKey (lx : Lexer) : Except Error Lexer := do
  if !lx.inFlow && !lx.keyAllowed then lx.problem .keyNotAllowed
  else
    let lx := lx.roll lx.mark.column none .blockMappingStart lx.mark
    let lx ← lx.dropKey
    .ok ({ lx with keyAllowed := !lx.inFlow }.emitChars .key 1)

def fetchValue (lx : Lexer) : Except Error Lexer :=
  match lx.candidates with
  | some candidate :: outer =>
    let lx := lx.insertAt candidate.token .key candidate.mark
    let lx := lx.roll candidate.mark.column (some candidate.token) .blockMappingStart
      candidate.mark
    .ok ({ lx with candidates := none :: outer, keyAllowed := false }.emitChars .value 1)
  | _ =>
    if !lx.inFlow && !lx.keyAllowed then lx.problem .valueNotAllowed
    else
      let lx := lx.roll lx.mark.column none .blockMappingStart lx.mark
      .ok ({ lx with keyAllowed := !lx.inFlow }.emitChars .value 1)

def fetchAnchor (lx : Lexer) (context : Context) (kind : String → TokenKind) :
    Except Error Lexer := do
  let lx ← lx.saveKey
  let start := lx.mark
  let (name, cursor) ← anchorName context lx.cursor
  .ok ({ lx with cursor, keyAllowed := false }.emit (kind name) start cursor.mark)

def fetchTag (lx : Lexer) : Except Error Lexer := do
  let lx ← lx.saveKey
  let start := lx.mark
  let (handle, suffix, cursor) ← tag lx.inFlow lx.cursor
  .ok ({ lx with cursor, keyAllowed := false }.emit (.tag handle suffix) start cursor.mark)

def fetchBlockScalar (lx : Lexer) (literal : Bool) : Except Error Lexer := do
  let lx ← lx.dropKey
  let start := lx.mark
  let (text, cursor) ← blockScalar literal lx.indent (lx.size + 1) lx.cursor
  let style := if literal then ScalarStyle.literal else .folded
  .ok ({ lx with cursor, keyAllowed := true }.emit (.scalar text style) start cursor.mark)

def fetchQuoted (lx : Lexer) (single : Bool) : Except Error Lexer := do
  let lx ← lx.saveKey
  let start := lx.mark
  let cursor := lx.cursor.skip
  let (text, cursor) ← quotedScalar single start (lx.size + 1) [] cursor
  let style := if single then ScalarStyle.singleQuoted else .doubleQuoted
  .ok ({ lx with cursor, keyAllowed := false }.emit (.scalar text style) start cursor.mark)

def fetchPlain (lx : Lexer) : Except Error Lexer := do
  let lx ← lx.saveKey
  let start := lx.mark
  let (text, broken, cursor) ←
    plainScalar lx.inFlow start (lx.indent + 1) (lx.size + 1) [] {} lx.cursor
  .ok ({ lx with cursor, keyAllowed := broken }.emit (.scalar text .plain) start cursor.mark)

/-- A character that stands for itself only behind another one. -/
def isIndicator (c : Char) : Bool := "-?:,[]\x7b\x7d#&*!|>'\"%@`".toList.contains c

/-- A plain scalar may begin here. -/
def startsPlain (lx : Lexer) : Bool :=
  match lx.cursor.rest with
  | [] => false
  | c :: r =>
    (!(isBlank c || isBreak c) && !isIndicator c) || (c == '-' && !headIs isBlank r) ||
      (!lx.inFlow && (c == '?' || c == ':') && !atGap r)

/-- Read the next token into the queue, with those that it brings along. -/
def fetch (lx : Lexer) : Except Error Lexer := do
  let lx ← (skipSpace (lx.size + 1) lx).dropStale
  let lx := lx.unroll lx.mark.column
  match lx.cursor.rest with
  | [] => lx.fetchEnd
  | c :: r =>
    if lx.mark.column == 0 && c == '%' then lx.fetchDirective
    else if lx.cursor.atDocumentMark then
      lx.fetchDocumentMark (if c == '-' then .documentStart else .documentEnd)
    else if c == '[' then lx.fetchFlowStart .flowSequenceStart
    else if c == '{' then lx.fetchFlowStart .flowMappingStart
    else if c == ']' then lx.fetchFlowEnd .flowSequenceEnd
    else if c == '}' then lx.fetchFlowEnd .flowMappingEnd
    else if c == ',' then lx.fetchFlowEntry
    else if c == '-' && atGap r then lx.fetchBlockEntry
    else if c == '?' && (lx.inFlow || atGap r) then lx.fetchKey
    else if c == ':' && (lx.inFlow || atGap r) then lx.fetchValue
    else if c == '*' then lx.fetchAnchor .alias .alias
    else if c == '&' then lx.fetchAnchor .anchor .anchor
    else if c == '!' then lx.fetchTag
    else if c == '|' && !lx.inFlow then lx.fetchBlockScalar true
    else if c == '>' && !lx.inFlow then lx.fetchBlockScalar false
    else if c == '\'' then lx.fetchQuoted true
    else if c == '"' then lx.fetchQuoted false
    else if lx.startsPlain then lx.fetchPlain
    else fail .nextToken lx.mark .badStart lx.mark

/-- Deliver the first token of the queue, or read one more if there is none or if
it may still turn out to belong to a key. -/
def advance (lx : Lexer) : Except Error (Option Token × Lexer) :=
  match lx.queue with
  | [] => lx.fetch.map fun lx => (none, lx)
  | token :: queue => do
    let lx ← lx.dropStale
    if lx.isWaiting then lx.fetch.map fun lx => (none, lx)
    else .ok (some token, { lx with queue, delivered := lx.delivered + 1 })

/-- The tokens from a state on, after those that are `done`. -/
def run : Nat → List Token → Lexer → List Token × Option Error
  | 0, done, _ => (done.reverse, none)
  | fuel + 1, done, lx =>
    match lx.advance with
    | .error e => (done.reverse, some e)
    | .ok (none, lx) => run fuel done lx
    | .ok (some token, lx) =>
      if token.kind == .streamEnd then ((token :: done).reverse, none)
      else run fuel (token :: done) lx

end Lexer

/-- The tokens of a text, and the error that ends them before the end of the text.
Each character brings a bounded number of tokens, which bounds the steps. -/
def Token.scan (source : List Char) : List Token × Option Error :=
  let start : Token := ⟨.streamStart, .start, .start⟩
  Lexer.run (8 * source.length + 16) []
    { cursor := .ofList source, size := source.length, queue := [start] }

end DevicePanel.Yaml
