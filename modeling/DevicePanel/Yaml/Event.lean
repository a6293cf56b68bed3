import DevicePanel.Yaml.Error
import DevicePanel.Yaml.Token

/-!
# Events of a YAML text

Events say what a text contains: documents, and in them sequences, mappings and
scalars.  `Event.ofTokens` finds the events of a list of tokens.
-/

namespace DevicePanel.Yaml

/-- The names before a node. -/
structure Properties where
  anchor : Option String := none
  tag : Option Tag := none
  deriving DecidableEq

/-- An event without its place. -/
inductive EventKind where
  | streamStart
  | streamEnd
  | documentStart
  | documentEnd
  | «alias» (name : String)
  | scalar (properties : Properties) (text : String) (style : ScalarStyle)
  | sequenceStart (properties : Properties)
  | sequenceEnd
  | mappingStart (properties : Properties)
  | mappingEnd
  deriving DecidableEq

/-- An event and the place where it begins. -/
structure Event where
  kind : EventKind
  mark : Mark

/-- What the grammar expects next. -/
inductive Expected where
  | streamStart
  | implicitDocument
  | document
  | documentContent
  | documentEnd
  | blockNode
  | blockSequenceFirst
  | blockSequenceEntry
  | indentlessEntry
  | blockMappingFirst
  | blockMappingKey
  | blockMappingValue
  | flowSequenceFirst
  | flowSequenceEntry
  | flowPairKey
  | flowPairValue
  | flowPairEnd
  | flowMappingFirst
  | flowMappingKey
  | flowMappingValue
  | flowMappingNoValue
  | nothing
  deriving DecidableEq

/-- The state of the grammar: the tokens to come and the error behind the last of
them, what is expected, what is expected after that, where the collections around
began, and the tag directives of the document. -/
structure Grammar where
  tokens : List Token
  scanError : Option Error
  expected : Expected := .streamStart
  later : List Expected := []
  starts : List Mark := []
  tagHandles : List (String × Tag) := []

namespace Grammar

/-- The handles that every document has. -/
def defaultHandles : List (String × Tag) :=
  [("!", .ofString "!"), ("!!", .ofString "tag:yaml.org,2002:")]

/-- A step of the grammar: an event and the state behind it. -/
abbrev Step := Except Error (Event × Grammar)

/-- The next token. -/
def peek (g : Grammar) : Except Error Token :=
  match g.tokens, g.scanError with
  | token :: _, _ => .ok token
  | [], some e => .error e
  | [], none => .ok ⟨.streamEnd, .start, .start⟩

def skip (g : Grammar) : Grammar := { g with tokens := g.tokens.drop 1 }

def expecting (g : Grammar) (expected : Expected) : Grammar := { g with expected }

/-- Go on with what was put off. -/
def resume (g : Grammar) : Grammar :=
  match g.later with
  | e :: later => { g with expected := e, later }
  | [] => { g with expected := .nothing }

/-- Put `e` off until the next node has been read. -/
def andThen (g : Grammar) (e : Expected) : Grammar := { g with later := e :: g.later }

/-- Enter a collection that begins with the next token, and step over that. -/
def enter (g : Grammar) (token : Token) : Grammar :=
  { g.skip with starts := token.start :: g.starts }

/-- Leave a collection. -/
def leave (g : Grammar) : Grammar := { g.resume with starts := g.starts.drop 1 }

def emit (g : Grammar) (kind : EventKind) (mark : Mark) : Step := .ok (⟨kind, mark⟩, g)

/-- A scalar that is left out. -/
def emptyScalar (g : Grammar) (mark : Mark) : Step := g.emit (.scalar {} "" .plain) mark

def problem (p : Problem) (mark : Mark) : Except Error α := .error (.malformed p mark none)

/-- A problem of the innermost collection. -/
def collectionProblem (g : Grammar) (context : Context) (p : Problem) (mark : Mark) : Step :=
  .error (.malformed p mark (some (context, (g.starts.head?).getD .start)))

/-! ## Documents -/

def isDirective (token : Token) : Bool :=
  match token.kind with
  | .versionDirective .. | .tagDirective .. => true
  | _ => false

/-- Read the directives before a document. -/
def directives : Nat → Bool → List (String × Tag) → Grammar → Except Error Grammar
  | 0, _, handles, g => .ok { g with tagHandles := handles }
  | fuel + 1, versioned, handles, g => do
    let token ← g.peek
    match token.kind with
    | .versionDirective major minor =>
      if versioned then problem .duplicateVersion token.start
      else if major != 1 || !(minor == 1 || minor == 2) then problem .badVersion token.start
      else directives fuel true handles g.skip
    | .tagDirective handle leader =>
      if handles.any fun (h, _) => h == handle then problem .duplicateTag token.start
      else directives fuel versioned (handles ++ [(handle, leader)]) g.skip
    | _ =>
      let more := defaultHandles.filter fun (h, _) => !handles.any fun (k, _) => k == h
      .ok { g with tagHandles := handles ++ more }

def skipDocumentEnds (g : Grammar) : Grammar :=
  { g with tokens := g.tokens.dropWhile fun t => t.kind == .documentEnd }

def document (g : Grammar) (implicit : Bool) : Step := do
  let g := if implicit then g else g.skipDocumentEnds
  let token ← g.peek
  let begins := match token.kind with
    | .versionDirective .. | .tagDirective .. | .documentStart | .streamEnd => false
    | _ => true
  if token.kind == .streamEnd then
    (g.skip.expecting .nothing).emit .streamEnd token.start
  else
    let start := token.start
    let ahead := g.tokens.takeWhile isDirective
    let g ← directives (ahead.length + 1) false [] g
    if implicit && begins then
      ((g.andThen .documentEnd).expecting .blockNode).emit .documentStart start
    else
      let token ← g.peek
      if token.kind == .documentStart then
        ((g.skip.andThen .documentEnd).expecting .documentContent).emit .documentStart start
      else problem .noDocumentStart token.start

def documentEnd (g : Grammar) : Step := do
  let token ← g.peek
  let g := if token.kind == .documentEnd then g.skip else g
  let g := { g with tagHandles := [] }
  (g.expecting .document).emit .documentEnd token.start

/-! ## Nodes -/

/-- The tag for a handle and a suffix. -/
def tagName (g : Grammar) (start mark : Mark) (handle : String) (suffix : Tag) :
    Except Error Tag :=
  if handle.isEmpty then .ok suffix
  else
    match g.tagHandles.find? fun (h, _) => h == handle with
    | some (_, leader) => .ok (leader ++ suffix)
    | none => .error (.malformed .undefinedTag mark (some (.node, start)))

/-- The anchor at the next token, if there is one. -/
def anchor (g : Grammar) : Except Error (Option String × Grammar) := do
  let token ← g.peek
  match token.kind with
  | .anchor name => .ok (some name, g.skip)
  | _ => .ok (none, g)

/-- The tag at the next token, if there is one: handle, suffix and place. -/
def tag (g : Grammar) : Except Error (Option (String × Tag × Mark) × Grammar) := do
  let token ← g.peek
  match token.kind with
  | .tag handle suffix => .ok (some (handle, suffix, token.start), g.skip)
  | _ => .ok (none, g)

/-- The anchor and the tag of a node, in any order. -/
def properties (g : Grammar) (start : Mark) : Except Error (Properties × Grammar) := do
  let (first, g) ← g.anchor
  let (written, g) ← g.tag
  let (second, g) ← if first.isNone && written.isSome then g.anchor else .ok (none, g)
  let name ← match written with
    | none => .ok none
    | some (handle, suffix, mark) => (g.tagName start mark handle suffix).map some
  .ok (⟨first <|> second, name⟩, g)

/-- A node.  In a block context it may be a block collection, and after a key it
may be a sequence without an indentation of its own. -/
def node (g : Grammar) (block indentless : Bool) : Step := do
  let token ← g.peek
  match token.kind with
  | .alias name => g.skip.resume.emit (.alias name) token.start
  | _ =>
    let start := token.start
    let (properties, g) ← g.properties start
    let token ← g.peek
    let collection (expected : Expected) (kind : Properties → EventKind) : Step :=
      (g.expecting expected).emit (kind properties) start
    let noContent : Step :=
      if properties.anchor.isSome || properties.tag.isSome then
        g.resume.emit (.scalar properties "" .plain) start
      else
        .error (.malformed .noContent token.start
          (some (if block then .blockNode else .flowNode, start)))
    match token.kind with
    | .scalar text style => g.skip.resume.emit (.scalar properties text style) start
    | .flowSequenceStart => collection .flowSequenceFirst .sequenceStart
    | .flowMappingStart => collection .flowMappingFirst .mappingStart
    | .blockEntry => if indentless then collection .indentlessEntry .sequenceStart else noContent
    | .blockSequenceStart =>
      if block then collection .blockSequenceFirst .sequenceStart else noContent
    | .blockMappingStart =>
      if block then collection .blockMappingFirst .mappingStart else noContent
    | _ => noContent

/-- The content of a document, which may be missing. -/
def documentContent (g : Grammar) : Step := do
  let token ← g.peek
  match token.kind with
  | .versionDirective .. | .tagDirective .. | .documentStart | .documentEnd | .streamEnd =>
    g.resume.emptyScalar token.start
  | _ => g.node true false

/-- A node, after which `next` is expected, or an empty scalar if a token of the
kinds `without` comes instead. -/
def nodeOr (g : Grammar) (next : Expected) (without : List TokenKind) (mark : Mark)
    (block indentless : Bool) : Step := do
  let token ← g.peek
  if without.contains token.kind then (g.expecting next).emptyScalar mark
  else (g.andThen next).node block indentless

/-! ## Block collections -/

def blockSequenceEntry (g : Grammar) : Step := do
  let token ← g.peek
  match token.kind with
  | .blockEntry =>
    g.skip.nodeOr .blockSequenceEntry [.blockEntry, .blockEnd] token.stop true false
  | .blockEnd => g.skip.leave.emit .sequenceEnd token.start
  | _ => g.collectionProblem .blockSequence .noHyphen token.start

def indentlessEntry (g : Grammar) : Step := do
  let token ← g.peek
  match token.kind with
  | .blockEntry =>
    g.skip.nodeOr .indentlessEntry [.blockEntry, .key, .value, .blockEnd] token.stop true false
  | _ => g.resume.emit .sequenceEnd token.start

def blockMappingKey (g : Grammar) : Step := do
  let token ← g.peek
  match token.kind with
  | .key => g.skip.nodeOr .blockMappingValue [.key, .value, .blockEnd] token.stop true true
  | .blockEnd => g.skip.leave.emit .mappingEnd token.start
  | _ => g.collectionProblem .blockMapping .noKey token.start

def blockMappingValue (g : Grammar) : Step := do
  let token ← g.peek
  match token.kind with
  | .value => g.skip.nodeOr .blockMappingKey [.key, .value, .blockEnd] token.stop true true
  | _ => (g.expecting .blockMappingKey).emptyScalar token.start

/-! ## Flow collections -/

/-- Step over the comma before an entry that is not the first. -/
def flowComma (g : Grammar) (first : Bool) (closing : TokenKind) (context : Context)
    (p : Problem) : Except Error Grammar := do
  let token ← g.peek
  if first || token.kind == closing then .ok g
  else if token.kind == .flowEntry then .ok g.skip
  else .error (.malformed p token.start (some (context, (g.starts.head?).getD .start)))

def flowSequenceEntry (g : Grammar) (first : Bool) : Step := do
  let g ← g.flowComma first .flowSequenceEnd .flowSequence .noListEnd
  let token ← g.peek
  match token.kind with
  | .flowSequenceEnd => g.skip.leave.emit .sequenceEnd token.start
  | .key => (g.skip.expecting .flowPairKey).emit (.mappingStart {}) token.start
  | _ => (g.andThen .flowSequenceEntry).node false false

/-- The key of a single pair in a sequence.  A token that ends the pair at once is
taken with it. -/
def flowPairKey (g : Grammar) : Step := do
  let token ← g.peek
  match token.kind with
  | .value | .flowEntry | .flowSequenceEnd =>
    (g.skip.expecting .flowPairValue).emptyScalar token.stop
  | _ => (g.andThen .flowPairValue).node false false

def flowPairValue (g : Grammar) : Step := do
  let token ← g.peek
  match token.kind with
  | .value =>
    let g := g.skip
    let token ← g.peek
    g.nodeOr .flowPairEnd [.flowEntry, .flowSequenceEnd] token.start false false
  | _ => (g.expecting .flowPairEnd).emptyScalar token.start

def flowPairEnd (g : Grammar) : Step := do
  let token ← g.peek
  (g.expecting .flowSequenceEntry).emit .mappingEnd token.start

def flowMappingKey (g : Grammar) (first : Bool) : Step := do
  let g ← g.flowComma first .flowMappingEnd .flowMapping .noMapEnd
  let token ← g.peek
  match token.kind with
  | .flowMappingEnd => g.skip.leave.emit .mappingEnd token.start
  | .key =>
    let g := g.skip
    let token ← g.peek
    g.nodeOr .flowMappingValue [.value, .flowEntry, .flowMappingEnd] token.start false false
  | _ => (g.andThen .flowMappingNoValue).node false false

def flowMappingValue (g : Grammar) : Step := do
  let token ← g.peek
  match token.kind with
  | .value =>
    let g := g.skip
    let token ← g.peek
    g.nodeOr .flowMappingKey [.flowEntry, .flowMappingEnd] token.start false false
  | _ => (g.expecting .flowMappingKey).emptyScalar token.start

def flowMappingNoValue (g : Grammar) : Step := do
  let token ← g.peek
  (g.expecting .flowMappingKey).emptyScalar token.start

/-! ## Steps -/

/-- Enter the collection at the next token, then go on. -/
def entering (g : Grammar) (step : Grammar → Step) : Step := do
  let token ← g.peek
  step (g.enter token)

/-- The next event. -/
def step (g : Grammar) : Step :=
  match g.expected with
  | .streamStart =>
    (g.skip.expecting .implicitDocument).emit .streamStart .start
  | .implicitDocument => g.document true
  | .document => g.document false
  | .documentContent => g.documentContent
  | .documentEnd => g.documentEnd
  | .blockNode => g.node true false
  | .blockSequenceFirst => g.entering blockSequenceEntry
  | .blockSequenceEntry => g.blockSequenceEntry
  | .indentlessEntry => g.indentlessEntry
  | .blockMappingFirst => g.entering blockMappingKey
  | .blockMappingKey => g.blockMappingKey
  | .blockMappingValue => g.blockMappingValue
  | .flowSequenceFirst => g.entering (flowSequenceEntry · true)
  | .flowSequenceEntry => g.flowSequenceEntry false
  | .flowPairKey => g.flowPairKey
  | .flowPairValue => g.flowPairValue
  | .flowPairEnd => g.flowPairEnd
  | .flowMappingFirst => g.entering (flowMappingKey · true)
  | .flowMappingKey => g.flowMappingKey false
  | .flowMappingValue => g.flowMappingValue
  | .flowMappingNoValue => g.flowMappingNoValue
  | .nothing => g.emit .streamEnd .start

/-- The events from a state on, after those that are `done`. -/
def run : Nat → List Event → Grammar → List Event × Option Error
  | 0, done, _ => (done.reverse, none)
  | fuel + 1, done, g =>
    match g.step with
    | .error e => (done.reverse, some e)
    | .ok (event, g) =>
      if event.kind == .streamEnd then ((event :: done).reverse, none)
      else run fuel (event :: done) g

end Grammar

/-- The events of a list of tokens, and the error that ends them early.  Each token
brings a bounded number of events, which bounds the steps. -/
def Event.ofTokens (tokens : List Token) (scanError : Option Error) :
    List Event × Option Error :=
  Grammar.run (4 * tokens.length + 16) [] { tokens, scanError }

end DevicePanel.Yaml
