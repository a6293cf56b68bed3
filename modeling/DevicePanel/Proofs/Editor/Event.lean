import DevicePanel.Editor.Basic
import DevicePanel.Proofs.Value.Shape

/-!
# Events of an editor

A key, a pasted text and the pointer reach an editor by three ways; here they are the
cases of one event, so that a fact about editors is stated once for all of them.

Without the link an event leaves the draft as it is and gives no value.  With the link a
switch flips or stays, and a text is edited, kept, thrown away or confirmed: these are
the reactions of a text.  So a value comes out of a draft in two ways only, as the new
position of a switch or as what a confirmed text is read as.
-/

namespace DevicePanel

/-- The events that reach an editor. -/
inductive EditorEvent where
  | key (e : KeyEvent)
  | paste (pasted : String)
  | pointer (e : PointerEvent)

namespace TextDraft

/-- A text that has not been edited stands for the committed value. -/
theorem read_of_idle {t : TextDraft} (idle : t.edited = false) (f : Format)
    (committed : Option Value) : (t.read f committed).toOption = committed := by
  rw [read.eq_def, idle]
  cases committed with
  | none => rfl
  | some v => rfl

/-- A text that has been edited stands for itself. -/
theorem read_of_edited {t : TextDraft} (edited : t.edited = true) (f : Format)
    (committed : Option Value) : t.read f committed = f.parse t.buffer.text := by
  rw [read.eq_def, if_pos edited]

/-- What is read from a text has the shape of the format, as the committed value has. -/
theorem hasShape_of_read {t : TextDraft} {f : Format} {committed : Option Value}
    {v : Value} (hcommitted : ∀ w, committed = some w → w.HasShape f)
    (h : t.read f committed = .ok v) : v.HasShape f := by
  rw [read.eq_def] at h
  split at h
  · exact Format.hasShape_of_parse h
  · split at h
    · cases h
      exact hcommitted v rfl
    · cases h

/-- Two drafts of a text that differ at most in the place of the cursor and in the
rejection. -/
def SameText (t t' : TextDraft) : Prop :=
  t'.buffer.toList = t.buffer.toList ∧ t'.edited = t.edited

theorem sameText_refl (t : TextDraft) : SameText t t := ⟨rfl, rfl⟩

theorem sameText_move (t : TextDraft) {f : LineBuffer → LineBuffer}
    (h : ∀ b, (f b).toList = b.toList) : SameText t (t.move f) := ⟨h t.buffer, rfl⟩

/-- Why a text stands for no value. -/
def rejection? (t : TextDraft) (f : Format) (committed : Option Value) : Option ValueError :=
  match t.read f committed with
  | .ok _ => none
  | .error e => some e

theorem confirm_eq (t : TextDraft) (f : Format) (committed : Option Value) :
    t.confirm f committed =
      ({ t with error := t.rejection? f committed }, (t.read f committed).toOption) := by
  rw [confirm, rejection?]
  cases t.read f committed <;> rfl

/-- Confirming keeps the text and gives the value that is read from it. -/
theorem confirm_spec (t : TextDraft) (f : Format) (committed : Option Value) :
    SameText t (t.confirm f committed).1 ∧
      (t.confirm f committed).2 = (t.read f committed).toOption := by
  rw [confirm_eq]
  exact ⟨⟨rfl, rfl⟩, rfl⟩

end TextDraft

namespace Draft

/-- A draft after an event, and the value to commit. -/
def receive (d : Draft) (p : EditorProps) (focus : EditorFocus) (layout : EditorLayout) :
    EditorEvent → Draft × Option Value
  | .key e => d.key p focus e
  | .paste pasted => (d.paste p focus pasted, none)
  | .pointer e => d.pointer p layout e

/-- The edit of a text that an event stands for.  A key that is a command is none, and
while the button has the focus nothing is. -/
def editOf? (focus : EditorFocus) : EditorEvent → Option (LineBuffer → LineBuffer)
  | .key e => if focus.confirm || e.isCommand then none else keyEdit? e.key
  | .paste pasted =>
      if focus.confirm then none else some (·.insertAll (pastedChars pasted))
  | .pointer _ => none

/-- What an event does to a text while the link is up, and the value that it gives. -/
inductive Reaction (p : EditorProps) (focus : EditorFocus) (event : EditorEvent)
    (t : TextDraft) (result : Draft × Option Value) : Prop
  /-- The event stands for an edit, which is applied. -/
  | edit {f : LineBuffer → LineBuffer} (h : editOf? focus event = some f)
      (eq : result = (.text (t.edit f), none))
  /-- At most the cursor moves. -/
  | keep {t' : TextDraft} (h : editOf? focus event = none) (same : t.SameText t')
      (eq : result = (.text t', none))
  /-- The text is thrown away. -/
  | clear (h : editOf? focus event = none) (eq : result = (.text {}, none))
  /-- The text is confirmed. -/
  | confirm (h : editOf? focus event = none)
      (eq : result = (Draft.text t).confirm p.format p.committed)

variable {p : EditorProps} {focus : EditorFocus} {layout : EditorLayout}

/-- Without the link nothing that reaches an editor has an effect. -/
theorem receive_of_down (d : Draft) (down : p.connected = false) (event : EditorEvent) :
    d.receive p focus layout event = (d, none) := by
  cases event with
  | key e => simp [receive, key, down]
  | paste pasted =>
      cases d with
      | switch on => rfl
      | text t => simp [receive, paste, down]
  | pointer e => simp [receive, pointer, down]

/-! ## Switches -/

/-- An event flips a switch and gives its new position, or has no effect on it. -/
theorem receive_switch (p : EditorProps) (focus : EditorFocus) (layout : EditorLayout)
    (on : Bool) (event : EditorEvent) :
    (switch on).receive p focus layout event = (.switch on, none) ∨
      (switch on).receive p focus layout event = (.switch !on, some (.bool !on)) := by
  cases event with
  | key e =>
      simp only [receive, key]
      split
      · exact .inl rfl
      · split
        · exact .inr rfl
        · exact .inl rfl
  | paste pasted => exact .inl rfl
  | pointer e =>
      simp only [receive, pointer]
      split
      · exact .inl rfl
      · split
        · exact .inl rfl
        · exact .inl rfl
        · exact .inr rfl

/-! ## Texts -/

theorem toList_of_keyMove {k : Key} {move : LineBuffer → LineBuffer}
    (h : keyMove? k = some move) (b : LineBuffer) : (move b).toList = b.toList := by
  cases k <;> cases h
  · exact LineBuffer.toList_moveLeft b
  · exact LineBuffer.toList_moveRight b
  · exact LineBuffer.toList_moveHome b
  · exact LineBuffer.toList_moveEnd b

/-- A key in a field that stands for no edit keeps the text. -/
theorem sameText_fieldKey {k : Key} (h : keyEdit? k = none) (t : TextDraft) :
    t.SameText (fieldKey t k) := by
  rw [fieldKey, h]
  dsimp only
  split
  next move hmove => exact t.sameText_move (toList_of_keyMove hmove)
  · exact t.sameText_refl

theorem reaction_key (t : TextDraft) (e : KeyEvent) :
    Reaction p focus (.key e) t (textKey t p focus.confirm e) := by
  rw [textKey]
  split
  next hkey => exact .confirm (by simp [editOf?, hkey, keyEdit?]) rfl
  next hkey => exact .clear (by simp [editOf?, hkey, keyEdit?]) rfl
  · split
    next hother => exact .keep (by rw [editOf?, if_pos hother]) t.sameText_refl rfl
    next hfield =>
      have hedit : editOf? focus (.key e) = keyEdit? e.key := by
        rw [editOf?, if_neg hfield]
      cases hkey : keyEdit? e.key with
      | none => exact .keep (hedit.trans hkey) (sameText_fieldKey hkey t) rfl
      | some f =>
          rw [fieldKey, hkey]
          exact .edit (hedit.trans hkey) rfl

theorem reaction_paste (up : p.connected = true) (t : TextDraft) (pasted : String) :
    Reaction p focus (.paste pasted) t ((Draft.text t).paste p focus pasted, none) := by
  rw [paste, up]
  by_cases hbutton : focus.confirm = true
  · rw [hbutton]
    exact .keep (by rw [editOf?, if_pos hbutton]) t.sameText_refl rfl
  · rw [Bool.not_eq_true] at hbutton
    rw [hbutton]
    exact .edit (by rw [editOf?, hbutton]; rfl) rfl

theorem reaction_pointer (t : TextDraft) (e : PointerEvent) :
    Reaction p focus (.pointer e) t ((Draft.text t).pointer p layout e) := by
  rw [pointer]
  split
  · exact .keep rfl t.sameText_refl rfl
  · split
    · exact .keep rfl t.sameText_refl rfl
    · exact .confirm rfl rfl
    · exact .keep rfl (t.sameText_move fun b => b.toList_moveToColumn _) rfl

/-- The reactions are all that an event can do to a text while the link is up. -/
theorem reaction_receive (up : p.connected = true) (layout : EditorLayout) (t : TextDraft)
    (event : EditorEvent) :
    Reaction p focus event t ((Draft.text t).receive p focus layout event) := by
  cases event with
  | key e =>
      have hkey : (Draft.text t).key p focus e = textKey t p focus.confirm e := by
        rw [key, up]
        rfl
      rw [receive, hkey]
      exact reaction_key t e
  | paste pasted => exact reaction_paste up t pasted
  | pointer e => exact reaction_pointer t e

/-- A property of the text of a draft; a switch has none. -/
def TextIs (P : TextDraft → Prop) : Draft → Prop
  | .switch _ => True
  | .text t => P t

/-- What an empty text has, every edit keeps, and neither the cursor nor a rejection
matters to, is kept by every event. -/
theorem textIs_receive {P : TextDraft → Prop} {event : EditorEvent} (clear : P {})
    (edit : ∀ t f, editOf? focus event = some f → P t → P (t.edit f))
    (same : ∀ t t', t.SameText t' → P t → P t') {d : Draft} (h : d.TextIs P) :
    (d.receive p focus layout event).1.TextIs P := by
  cases d with
  | switch on =>
      rcases receive_switch p focus layout on event with heq | heq
      · rw [heq]
        trivial
      · rw [heq]
        trivial
  | text t =>
      cases hlink : p.connected with
      | false =>
          rw [receive_of_down _ hlink]
          exact h
      | true =>
          cases reaction_receive hlink layout t event with
          | edit hedit heq =>
              rw [heq]
              exact edit t _ hedit h
          | keep _ hsame heq =>
              rw [heq]
              exact same t _ hsame h
          | clear _ heq =>
              rw [heq]
              exact clear
          | confirm _ heq =>
              rw [heq]
              exact same t _ (t.confirm_spec p.format p.committed).1 h

/-! ## Values -/

/-- A value comes out of a switch as its new position, and out of a text as what is read
from it. -/
theorem value_of_receive {d : Draft} {event : EditorEvent} {v : Value}
    (h : (d.receive p focus layout event).2 = some v) :
    (∃ on, d = .switch on ∧ v = .bool !on) ∨
      ∃ t, d = .text t ∧ t.read p.format p.committed = .ok v := by
  cases d with
  | switch on =>
      rcases receive_switch p focus layout on event with hkept | hflipped
      · rw [hkept] at h
        cases h
      · rw [hflipped] at h
        cases h
        exact .inl ⟨on, rfl, rfl⟩
  | text t =>
      refine .inr ⟨t, rfl, ?_⟩
      cases hlink : p.connected with
      | false =>
          rw [receive_of_down _ hlink] at h
          cases h
      | true =>
          cases reaction_receive hlink layout t event with
          | edit _ heq | keep _ _ heq | clear _ heq =>
              rw [heq] at h
              cases h
          | confirm _ heq =>
              rw [heq] at h
              have hread := (t.confirm_spec p.format p.committed).2.symm.trans h
              cases hvalue : t.read p.format p.committed with
              | ok w =>
                  rw [hvalue] at hread
                  cases hread
                  rfl
              | error e =>
                  rw [hvalue] at hread
                  cases hread

/-- Exactly the boolean format has a switch. -/
theorem isSwitch_mount (f : Format) (committed : Option Value) :
    (mount f committed).isSwitch = f.isBoolean := by
  rw [mount]
  split
  next h =>
    rw [h]
    rfl
  next h =>
    rw [Bool.not_eq_true] at h
    rw [h]
    rfl

/-- A switch stays a switch, and a text a text. -/
theorem isSwitch_receive (d : Draft) (event : EditorEvent) :
    (d.receive p focus layout event).1.isSwitch = d.isSwitch := by
  cases d with
  | switch on =>
      rcases receive_switch p focus layout on event with h | h
      · rw [h]
      · rw [h]
        rfl
  | text t =>
      cases hlink : p.connected with
      | false => rw [receive_of_down _ hlink]
      | true =>
          cases reaction_receive hlink layout t event with
          | edit _ heq | keep _ _ heq | clear _ heq | confirm _ heq =>
              rw [heq]
              rfl

end Draft

end DevicePanel
