import DevicePanel.LineBuffer
import DevicePanel.Value.Commit

/-!
# Drafts

A draft is what the user has entered for a parameter and not committed yet: the
position of a switch, or a text.  A text that has not been edited stands for the
committed value.
-/

namespace DevicePanel

/-- A text that is being entered. -/
structure TextDraft where
  buffer : LineBuffer := .empty
  /-- The user has edited the text since it was mounted or cleared. -/
  edited : Bool := false
  /-- Why the text was rejected when it was last confirmed. -/
  error : Option ValueError := none
  deriving DecidableEq

namespace TextDraft

/-- Apply an edit.  An edit takes back the rejection. -/
def edit (d : TextDraft) (f : LineBuffer → LineBuffer) : TextDraft where
  buffer := f d.buffer
  edited := true
  error := none

/-- Move the cursor. -/
def move (d : TextDraft) (f : LineBuffer → LineBuffer) : TextDraft :=
  { d with buffer := f d.buffer }

/-- The value that the text stands for. -/
def read (d : TextDraft) (format : Format) (committed : Option Value) : Except ValueError Value :=
  if d.edited then format.parse d.buffer.text
  else
    match committed with
    | some value => .ok value
    | none => .error .emptyInput

/-- Confirm the text: the draft afterwards and the value to commit.  The text stays,
so that it can be confirmed again. -/
def confirm (d : TextDraft) (format : Format) (committed : Option Value) :
    TextDraft × Option Value :=
  match d.read format committed with
  | .ok value => ({ d with error := none }, some value)
  | .error e => ({ d with error := some e }, none)

end TextDraft

/-- What the user has entered.  Edits and rejections belong to a text: `edited` and `error` are
fields of a `TextDraft` alone, so by its type a switch is never edited and never rejected. -/
inductive Draft where
  | switch (on : Bool)
  | text (draft : TextDraft)
  deriving DecidableEq

namespace Draft

/-- The draft of a parameter that has not been touched.  A switch starts in its
committed position, or off. -/
def mount (format : Format) (committed : Option Value) : Draft :=
  if format.isBoolean then .switch ((committed.bind Value.toBool?).getD false) else .text {}

def switch? : Draft → Option Bool
  | .switch on => some on
  | .text _ => none

def text? : Draft → Option TextDraft
  | .switch _ => none
  | .text d => some d

def isSwitch (d : Draft) : Bool := d.switch?.isSome

/-- The text has been edited. -/
def edited (d : Draft) : Bool := d.text?.any (·.edited)

def error? (d : Draft) : Option ValueError := d.text?.bind (·.error)

/-- Flip a switch: the draft afterwards and the new position. -/
def flip : Draft → Draft × Option Bool
  | .switch on => (.switch !on, some !on)
  | d => (d, none)

/-- Throw an entered text away. -/
def clear : Draft → Draft
  | .switch on => .switch on
  | .text _ => .text {}

@[simp] theorem clear_text (t : TextDraft) : clear (.text t) = .text {} := rfl

/-- Confirm an entered text.  A switch has nothing to confirm. -/
def confirm (d : Draft) (format : Format) (committed : Option Value) : Draft × Option Value :=
  match d with
  | .switch _ => (d, none)
  | .text t =>
    let (t, value) := t.confirm format committed
    (.text t, value)

end Draft

end DevicePanel
