import DevicePanel.Proofs.App.EffectLog
import DevicePanel.Proofs.App.Frame
import DevicePanel.Proofs.Editor.FieldCursor
import DevicePanel.Proofs.Editor.Typing

/-!
# The cursor and typing

A frame decides by the link, the focus and the room in the field whether it shows the
cursor; a key finds its way by the focus, the list's own keys, the link and its modifiers.
The two agree.  Where the cursor is shown, a character goes into the text of the selected
entry.  Where it is not, although there would be room for it, no character goes into any
text.

Both are facts about the panel that the frame leaves, so they are proved for panels first.
-/

namespace DevicePanel

/-- The event is the press of a character's key, and no modifier makes a command of it. -/
structure KeyEvent.Types (e : KeyEvent) (c : Char) : Prop where
  key : e.key = .char c
  press : e.action = .press
  plain : e.isCommand = false

theorem KeyEvent.Types.not_isMove {e : KeyEvent} {c : Char} (h : e.Types c) : ¬ e.IsMove := by
  rintro (hkey | hkey | hkey | hkey) <;> cases h.key.symm.trans hkey

namespace Draft

/-- The line of an entered text, with its cursor. -/
def buffer? (d : Draft) : Option LineBuffer := d.text?.map (·.buffer)

variable {p : EditorProps} {focus : EditorFocus} {e : KeyEvent} {c : Char}

/-- A character that is typed into a field is inserted at its cursor. -/
theorem textKey_of_types (h : e.Types c) (hc : Text.isControl c = false) (t : TextDraft) :
    textKey t p false e = (.text (t.edit (·.insert c)), none) := by
  rw [textKey, h.key, h.plain]
  dsimp only
  rw [Bool.or_false, if_neg Bool.false_ne_true, fieldKey_char hc]

/-- A typed character leaves the line of a draft alone if the link is down, the button
has the focus, or there is no line. -/
theorem buffer?_key_of_types (h : e.Types c) {d : Draft}
    (blocked : p.connected = false ∨ focus.confirm = true ∨ d.isSwitch = true) :
    (d.key p focus e).1.buffer? = d.buffer? := by
  cases d with
  | switch on =>
      rcases receive_switch p focus {} on (.key e) with heq | heq
      · exact congrArg (·.1.buffer?) heq
      · exact congrArg (·.1.buffer?) heq
  | text t =>
      rcases blocked with hdown | hbutton | hswitch
      · have hnone : (Draft.text t).receive p focus {} (.key e) = (.text t, none) :=
          receive_of_down (.text t) hdown (.key e)
        exact congrArg (·.1.buffer?) hnone
      · have hsame : textKey t p focus.confirm e = (.text t, none) := by
          rw [textKey, h.key, hbutton]
          rfl
        rw [key]
        split
        · rfl
        · rw [hsame]
      · cases hswitch

end Draft

namespace Panel

/-- The lines of all entered texts. -/
def buffers (p : Panel) : List (Option LineBuffer) := p.entries.map (·.draft.buffer?)

/-- Where the cursor is shown in a panel that has been drawn. -/
def cursor? (p : Panel) (connected : Bool) : Option (Nat × Nat) :=
  p.entry?.bind fun e => e.draft.text?.bind fun t =>
    Editor.cursor? (Editor.contentArea p.editorLayout (e.props connected)) t
      (e.props connected) p.editorFocus

/-- The selected entry has a text, and the inside of its field, where it was drawn, has
columns. -/
def HasField (p : Panel) (e : Entry) (t : TextDraft) : Prop :=
  p.entry? = some e ∧ e.draft = .text t ∧
    0 < (Editor.contentArea p.editorLayout (e.props true)).width

variable {p : Panel} {connected : Bool}

/-- The cursor is shown in a field with columns that has the focus while the link is up. -/
theorem isSome_cursor?_iff :
    (p.cursor? connected).isSome = true ↔
      ∃ e t, p.HasField e t ∧ connected = true ∧ p.editorFocus.input = true := by
  constructor
  · intro h
    obtain ⟨cell, hcell⟩ := Option.isSome_iff_exists.mp h
    obtain ⟨e, he, hcell⟩ := Option.bind_eq_some_iff.mp hcell
    obtain ⟨t, ht, hcell⟩ := Option.bind_eq_some_iff.mp hcell
    have htext : e.draft = .text t := by
      cases hdraft : e.draft with
      | switch on =>
          rw [hdraft] at ht
          cases ht
      | text t' =>
          rw [hdraft] at ht
          cases ht
          rfl
    rw [Editor.cursor?] at hcell
    split at hcell
    next hshown =>
      rw [Bool.and_eq_true, Bool.and_eq_true, decide_eq_true_iff] at hshown
      exact ⟨e, t, ⟨he, htext, hshown.2⟩, hshown.1.1, hshown.1.2⟩
    · cases hcell
  · rintro ⟨e, t, ⟨he, htext, hwidth⟩, hup, hinput⟩
    have hshown : ((e.props connected).connected && p.editorFocus.input &&
        decide (0 < (Editor.contentArea p.editorLayout (e.props connected)).width)) =
          true := by
      rw [Bool.and_eq_true, Bool.and_eq_true, decide_eq_true_iff]
      exact ⟨⟨hup, hinput⟩, hwidth⟩
    rw [cursor?, he, Option.bind_some, htext, Draft.text?, Option.bind_some, Editor.cursor?,
      if_pos hshown]
    rfl

/-- If the selected entry has a text, there is room for the cursor in its field. -/
def HasRoom (p : Panel) : Prop :=
  ∀ e t, p.entry? = some e → e.draft = .text t → p.HasField e t

/-! ## Where a typed character goes -/

theorem current_of_editorFocus_input (h : p.editorFocus.input = true) :
    ∃ i, p.selected = some i ∧ p.focus.current = some (.editor i .input) := by
  rw [editorFocus] at h
  cases hselected : p.selected with
  | none =>
      rw [hselected] at h
      cases h
  | some i =>
      rw [hselected] at h
      exact ⟨i, rfl, by simpa [Focus.ofEditor, Focus.isOn] using h⟩

/-- A key that would leave the line of the selected entry alone when the editor has the
focus leaves all lines alone. -/
theorem buffers_key {e : KeyEvent}
    (h : ∀ entry, p.entry? = some entry → p.editorFocus.any = true →
      (entry.draft.key (entry.props connected) p.editorFocus e).1.buffer? =
        entry.draft.buffer?) :
    (p.key connected e).1.buffers = p.buffers := by
  cases hediting : p.isEditing with
  | false => rw [buffers, (untouched_of_not_isEditing hediting e).1, buffers]
  | true =>
      by_cases hmove : e.IsMove
      · rw [buffers, (untouched_of_move hmove).1, buffers]
      · rw [key_of_isEditing hediting hmove]
        rcases p.edit_cases _ with hnone | ⟨i, entry, hselected, hfound, hedit⟩
        · rw [hnone]
        · have hentry : p.entry? = some entry := (entry?_of_selected hselected).trans hfound
          rw [hedit]
          exact map_set_of_eq _ hfound (h entry hentry (Bool.and_eq_true_iff.mp hediting).2)

/-- A typed character leaves all lines alone if the cursor is not shown although there
would be room for it. -/
theorem buffers_key_of_types (room : p.HasRoom) (h : p.cursor? connected = none)
    {e : KeyEvent} {c : Char} (types : e.Types c) :
    (p.key connected e).1.buffers = p.buffers := by
  apply buffers_key
  intro entry hentry hfocused
  apply Draft.buffer?_key_of_types types
  cases hdraft : entry.draft with
  | switch on => exact .inr (.inr rfl)
  | text t =>
      cases hlink : connected with
      | false => exact .inl rfl
      | true =>
          -- With the link up and room in the field only the field's focus is missing.
          have hinput : p.editorFocus.input = false := by
            rw [← Bool.not_eq_true]
            intro hinput
            have hshown : (p.cursor? connected).isSome = true :=
              isSome_cursor?_iff.mpr ⟨entry, t, room entry t hentry hdraft, hlink, hinput⟩
            rw [h] at hshown
            cases hshown
          rw [EditorFocus.any, hinput, Bool.false_or] at hfocused
          exact .inr (.inl hfocused)

/-- A character that is typed while the cursor is shown is inserted into the text of the
selected entry. -/
theorem key_of_types (h : (p.cursor? connected).isSome = true) :
    ∃ i entry t, p.selected = some i ∧ p.entries[i]? = some entry ∧ entry.draft = .text t ∧
      ∀ c e, Text.isControl c = false → e.Types c →
        p.key connected e =
          ({ p with
              entries := p.entries.set i { entry with draft := .text (t.edit (·.insert c)) } },
            none) := by
  obtain ⟨entry, t, ⟨hentry, htext, -⟩, hup, hinput⟩ := isSome_cursor?_iff.mp h
  obtain ⟨i, hselected, hcurrent⟩ := current_of_editorFocus_input hinput
  have hfound : p.entries[i]? = some entry := (entry?_of_selected hselected).symm.trans hentry
  refine ⟨i, entry, t, hselected, hfound, htext, ?_⟩
  intro c e hc types
  have hdraft : entry.draft.key (entry.props connected) ⟨true, false⟩ e =
      (.text (t.edit (·.insert c)), none) := by
    rw [htext, Draft.key, hup]
    exact Draft.textKey_of_types types hc t
  rw [key_of_input hselected hfound hcurrent types.not_isMove, edit_of_found hselected hfound,
    hdraft]
  rfl

/-! ## What is drawn -/

theorem cursor_drawDetails (p : Panel) (c : Canvas) (area : Rect) (t : Theme)
    (connected : Bool) :
    (drawDetails c area t connected p).1.cursor =
      cursor? { p with editorLayout := (drawDetails c area t connected p).2 } connected := by
  have hentry : ∀ l, entry? { p with editorLayout := l } = p.entry? := fun _ => rfl
  rw [cursor?, hentry]
  cases h : p.entry? with
  | none =>
      rw [drawDetails, h]
      rfl
  | some e =>
      rw [editorLayout_drawDetails h, drawDetails, h]
      exact Editor.cursor_draw _ _ t e.draft (e.props connected) p.editorFocus

end Panel

namespace App

/-- A frame shows the cursor where the panel that it leaves has it. -/
theorem cursor_frame (app : App) (width height : Nat) :
    (app.frame width height).2.cursor =
      (app.frame width height).1.panel.cursor? (app.frame width height).1.connected :=
  Panel.cursor_drawDetails _ _ _ _ _

theorem handle_of_types {e : KeyEvent} {c : Char} (types : e.Types c) (app : App) :
    app.handle (.key e) = app.ofPanel (app.panel.key app.connected e) := by
  have hcontrol : e.modifiers.control = false := (Bool.or_eq_false_iff.mp types.plain).1
  have hcommand : command? e = none := by
    rw [command?, hcontrol]
    rfl
  exact handle_of_not_command types.press hcommand app

/-- Effects change no line. -/
theorem buffers_apply (app : App) (now : TimeOfDay) (effects : List Effect) :
    (app.apply now effects).panel.buffers = app.panel.buffers := by
  rw [Panel.buffers, panel_apply_eq, List.map_map]
  rfl

/-- After every frame, typed characters follow the cursor.  If the frame shows it, a
character other than a control is inserted at the cursor of the selected entry's text, and
nothing is asked for.  If the frame does not show it, and the selected entry, where it has a
text, has room for it in its field, no character changes the line of any text. -/
theorem typing_follows_cursor (app : App) (width height : Nat) :
    let after := (app.frame width height).1
    let cursor := (app.frame width height).2.cursor
    (cursor.isSome = true →
        ∃ i entry t, after.panel.selected = some i ∧ after.panel.entries[i]? = some entry ∧
          entry.draft = .text t ∧
          ∀ c e, Text.isControl c = false → e.Types c →
            after.handle (.key e) =
              ({ after with
                  panel := { after.panel with
                    entries := after.panel.entries.set i
                      { entry with draft := .text (t.edit (·.insert c)) } } },
                [])) ∧
      (cursor = none → after.panel.HasRoom →
        ∀ c e now, e.Types c →
          (after.handle (.key e)).1.panel.buffers = after.panel.buffers ∧
            (after.step now (.key e)).panel.buffers = after.panel.buffers) := by
  intro after cursor
  have hcursor : cursor = after.panel.cursor? after.connected := app.cursor_frame width height
  constructor
  · intro hshown
    rw [hcursor] at hshown
    obtain ⟨i, entry, t, hselected, hfound, htext, hkey⟩ := Panel.key_of_types hshown
    refine ⟨i, entry, t, hselected, hfound, htext, ?_⟩
    intro c e hc types
    rw [handle_of_types types, hkey c e hc types]
    rfl
  · intro hhidden room c e now types
    rw [hcursor] at hhidden
    have hhandle : (after.handle (.key e)).1.panel.buffers = after.panel.buffers := by
      rw [handle_of_types types]
      exact Panel.buffers_key_of_types room hhidden types
    refine ⟨hhandle, ?_⟩
    rw [step_eq, buffers_apply]
    exact hhandle

/-- On the built-in sheet a character goes into the field of the first parameter when it has
the focus and the cursor is shown there, and into no text while the list has the focus. -/
theorem typing_follows_cursor_builtIn :
    let app := start .builtIn .dracula true
    let listed := (app.frame 60 12).1
    let entering := app.run [.frame 60 12, .event ⟨0, 0, 0⟩ (.key (.plain .up))]
    let entered := (entering.frame 60 12).1
    let typed : Event := .key (.plain (.char 'x'))
    (app.frame 60 12).2.cursor = none ∧ listed.panel.HasRoom ∧
      (listed.step ⟨0, 0, 1⟩ typed).panel.buffers = listed.panel.buffers ∧
      (entering.frame 60 12).2.cursor = some (37, 5) ∧
      (entered.handle typed).2 = [] ∧
      (entered.handle typed).1.panel.buffers.head? = some (some ⟨['x'], []⟩) := by
  intro app listed entering entered typed
  have types : (KeyEvent.plain (.char 'x')).Types 'x' := ⟨rfl, rfl, rfl⟩
  have hhidden : (app.frame 60 12).2.cursor = none := by decide +kernel
  have hshown : (entering.frame 60 12).2.cursor = some (37, 5) := by decide +kernel
  have hroom : listed.panel.HasRoom := by
    intro e t he ht
    refine ⟨he, ht, ?_⟩
    rw [entry?_frame] at he
    cases he
    decide +kernel
  obtain ⟨-, hkept⟩ := app.typing_follows_cursor 60 12
  obtain ⟨hinserted, -⟩ := entering.typing_follows_cursor 60 12
  obtain ⟨i, entry, t, hselected, hfound, htext, hkey⟩ :=
    hinserted (by rw [hshown]; rfl)
  have hfirst : i = 0 := by
    rw [selected_frame] at hselected
    cases hselected
    rfl
  subst hfirst
  rw [entries_frame] at hfound
  cases hfound
  cases htext
  refine ⟨hhidden, hroom, (hkept hhidden hroom 'x' _ ⟨0, 0, 1⟩ types).2, hshown, ?_⟩
  rw [hkey 'x' _ rfl types, entries_frame]
  exact ⟨rfl, rfl⟩

end App
end DevicePanel
