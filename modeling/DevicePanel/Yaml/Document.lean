import DevicePanel.Yaml.Event
import DevicePanel.Yaml.Token.Lexer

/-!
# Documents of YAML

The first document of a YAML text: its nodes in the order of the text, and the
places that aliases stand for.  A document is cut short where the text has an
error; what comes before the error can still be read.
-/

namespace DevicePanel.Yaml

/-- A scalar as it is written. -/
structure Scalar where
  tag : Option Tag
  text : String
  style : ScalarStyle

/-- A part of a document. -/
inductive Item where
  /-- The text has no document. -/
  | nothing
  | scalar (scalar : Scalar)
  | sequenceStart (tag : Option Tag)
  | sequenceEnd
  | mappingStart (tag : Option Tag)
  | mappingEnd
  /-- The node with the anchor of the given number again. -/
  | «alias» (anchor : Nat)

/-- The first document of a text. -/
structure Document where
  items : Array (Item × Mark)
  /-- The numbers of anchors and the items they are at; the latest is first. -/
  anchors : List (Nat × Nat)
  /-- The error that cuts the document short. -/
  fault : Option Error
  /-- The text goes on after the document. -/
  followed : Bool

namespace Document

/-- A document that is being put together, with the names of its anchors. -/
structure Draft where
  items : Array (Item × Mark) := #[]
  /-- The names of anchors, each once, and their numbers. -/
  names : List (String × Nat) := []
  anchors : List (Nat × Nat) := []

namespace Draft

def push (d : Draft) (item : Item) (mark : Mark) : Draft :=
  { d with items := d.items.push (item, mark) }

/-- Let an anchor stand for the next item.  Its number is how many names are in use
so far, so a name that is used again may share its number with a later one. -/
def setAnchor (d : Draft) : Option String → Draft
  | none => d
  | some name =>
    let number := d.names.length
    { d with
      names := (name, number) :: d.names.filter fun (n, _) => n != name
      anchors := (number, d.items.size) :: d.anchors }

def anchor? (d : Draft) (name : String) : Option Nat :=
  (d.names.find? fun (n, _) => n == name).map (·.2)

def finish (d : Draft) (fault : Option Error) (followed : Bool) : Document :=
  ⟨d.items, d.anchors, fault, followed⟩

end Draft

/-- Put together the events up to the end of the first document; `cut` is the error
behind the last of them. -/
def collect (cut : Option Error) : List Event → Draft → Document
  | [], d => d.finish cut false
  | ⟨kind, mark⟩ :: rest, d =>
    match kind with
    | .streamStart | .documentStart => collect cut rest d
    | .streamEnd => (if d.items.isEmpty then d.push .nothing mark else d).finish none false
    | .documentEnd =>
      let ended := match rest with
        | ⟨.streamEnd, _⟩ :: _ => true
        | _ => false
      d.finish none !ended
    | .alias name =>
      match d.anchor? name with
      | some number => collect cut rest (d.push (.alias number) mark)
      | none => d.finish (some (.unknownAnchor mark)) false
    | .scalar properties text style =>
      collect cut rest
        ((d.setAnchor properties.anchor).push (.scalar ⟨properties.tag, text, style⟩) mark)
    | .sequenceStart properties =>
      collect cut rest ((d.setAnchor properties.anchor).push (.sequenceStart properties.tag) mark)
    | .sequenceEnd => collect cut rest (d.push .sequenceEnd mark)
    | .mappingStart properties =>
      collect cut rest ((d.setAnchor properties.anchor).push (.mappingStart properties.tag) mark)
    | .mappingEnd => collect cut rest (d.push .mappingEnd mark)

/-- The item that an alias stands for. -/
def target? (d : Document) (anchor : Nat) : Option Nat :=
  (d.anchors.find? fun (n, _) => n == anchor).map (·.2)

end Document

/-- Characters that may be in a text. -/
def isPrintable (c : Char) : Bool :=
  let n := c.toNat
  n == 0x09 || n == 0x0A || n == 0x0D || n == 0x85 || (0x20 ≤ n && n ≤ 0x7E) ||
    (0xA0 ≤ n && n ≤ 0xFFFD) || 0x10000 ≤ n

/-- The first document of a text. -/
def Document.ofText (source : String) : Document :=
  let chars := source.toList
  let allowed := chars.takeWhile isPrintable
  if allowed.length < chars.length then
    ({} : Draft).finish (some (.controlCharacter (Text.byteLength allowed))) false
  else
    let (tokens, scanError) := Token.scan chars
    let (events, cut) := Event.ofTokens tokens scanError
    collect cut events {}

end DevicePanel.Yaml
