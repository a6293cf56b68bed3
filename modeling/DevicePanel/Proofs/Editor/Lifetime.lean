import DevicePanel.Editor.Draw
import DevicePanel.Proofs.Editor.Change
import DevicePanel.Proofs.Editor.Typing
import Mathlib.Data.List.Induction

/-!
# The lifetime of an editor

An editor on the screen lives through keys, pasted texts, the pointer and frames, in any
order.  What it is told about its parameter and which of its controls have the focus may
be different every time.  A frame places its controls anew and leaves its draft alone.

A draft stays a switch or a text for good.  A text never holds a line break, and as long as
it has not been edited it is empty.  An error is shown exactly if a confirmation has failed
and since then nothing has taken the error back: no edit, no throwing away of the text and
no successful confirmation.
-/

namespace DevicePanel

/-- An editor on the screen. -/
structure EditorView where
  draft : Draft
  /-- Where the editor was drawn last. -/
  layout : EditorLayout := {}

/-- What happens to an editor on the screen. -/
inductive ViewEvent where
  | input (e : EditorEvent)
  | render (area : Rect)

/-- An event, and what holds of the parameter and of the focus when it comes. -/
structure Occasion where
  props : EditorProps
  focus : EditorFocus
  event : ViewEvent

namespace EditorView

/-- The view after an occasion, and the value to commit. -/
def step (v : EditorView) (o : Occasion) : EditorView × Option Value :=
  match o.event with
  | .input e =>
      let (draft, value) := v.draft.receive o.props o.focus v.layout e
      ({ v with draft }, value)
  | .render area => ({ v with layout := Editor.layout v.draft o.props area }, none)

/-- The view after some occasions. -/
def run (v : EditorView) (occasions : List Occasion) : EditorView :=
  occasions.foldl (fun v o => (v.step o).1) v

/-! ## Accepted events -/

/-- The view has a text and the link is up, so that an event of the given kind is
accepted. -/
def Accepts (v : EditorView) (o : Occasion) (kind : EditorEvent → Prop) : Prop :=
  v.draft.isSwitch = false ∧ o.props.connected = true ∧ ∃ e, o.event = .input e ∧ kind e

/-- A confirmation is accepted and gives no value. -/
def FailsToConfirm (v : EditorView) (o : Occasion) : Prop :=
  v.Accepts o (EditorEvent.IsConfirm v.layout) ∧ (v.step o).2 = none

/-- What takes an error back: an accepted edit, the throwing away of the text, or a
confirmation that gives a value. -/
def Recovers (v : EditorView) (o : Occasion) : Prop :=
  v.Accepts o (EditorEvent.IsEdit o.focus) ∨ v.Accepts o EditorEvent.IsEscape ∨
    v.Accepts o (EditorEvent.IsConfirm v.layout) ∧ (v.step o).2.isSome = true

variable {v : EditorView} {o : Occasion}

theorem step_input {e : EditorEvent} (h : o.event = .input e) :
    v.step o = ({ v with draft := (v.draft.receive o.props o.focus v.layout e).1 },
      (v.draft.receive o.props o.focus v.layout e).2) := by
  rw [step, h]

theorem draft_step_render {area : Rect} (h : o.event = .render area) :
    (v.step o).1.draft = v.draft := by
  rw [step, h]

/-- What every event of an editor keeps of its draft is kept by every occasion. -/
theorem keeps_step {P : Draft → Prop}
    (hkept : ∀ d p focus layout event, P d → P (d.receive p focus layout event).1)
    (h : P v.draft) (o : Occasion) : P (v.step o).1.draft := by
  cases hevent : o.event with
  | input e =>
      rw [step_input hevent]
      exact hkept v.draft o.props o.focus v.layout e h
  | render area =>
      rw [draft_step_render hevent]
      exact h

theorem keeps_run {P : Draft → Prop}
    (hkept : ∀ d p focus layout event, P d → P (d.receive p focus layout event).1)
    (h : P v.draft) (occasions : List Occasion) : P (v.run occasions).draft := by
  induction occasions generalizing v with
  | nil => exact h
  | cons o occasions ih => exact ih (keeps_step hkept h o)

/-! ## One occasion and the error -/

theorem accepts_iff {t : TextDraft} (hdraft : v.draft = .text t) {e : EditorEvent}
    (hevent : o.event = .input e) (up : o.props.connected = true)
    (kind : EditorEvent → Prop) : v.Accepts o kind ↔ kind e := by
  have hswitch : v.draft.isSwitch = false := by
    rw [hdraft]
    rfl
  constructor
  · rintro ⟨-, -, e', he', hkind⟩
    cases hevent.symm.trans he'
    exact hkind
  · intro hkind
    exact ⟨hswitch, up, e, hevent, hkind⟩

/-- While the link is up, an event that reaches a text leaves an error exactly if it fails
to confirm the text, or if there was an error and the event does not take it back. -/
theorem error_step_of_text {t : TextDraft} (hdraft : v.draft = .text t) {e : EditorEvent}
    (hevent : o.event = .input e) (up : o.props.connected = true) :
    (v.step o).1.draft.error?.isSome = true ↔
      v.FailsToConfirm o ∨ v.draft.error?.isSome = true ∧ ¬ v.Recovers o := by
  have hstep : v.step o = ({ v with draft := ((Draft.text t).receive o.props o.focus v.layout e).1 },
      ((Draft.text t).receive o.props o.focus v.layout e).2) := by
    rw [step_input hevent, hdraft]
  simp only [FailsToConfirm, Recovers, accepts_iff hdraft hevent up, hstep]
  by_cases hedit : e.IsEdit o.focus
  · obtain ⟨f, hreceive⟩ : ∃ f, (Draft.text t).receive o.props o.focus v.layout e =
        (.text (t.edit f), none) := Draft.receive_of_isEdit up hedit
    have hconfirm : ¬ e.IsConfirm v.layout := fun h => h.not_isEdit hedit
    simp [hreceive, hedit, hconfirm, Draft.error?, Draft.text?, TextDraft.edit]
  by_cases hescape : e.IsEscape
  · have hreceive : (Draft.text t).receive o.props o.focus v.layout e = (.text {}, none) :=
      Draft.receive_of_isEscape up hescape
    have hconfirm : ¬ e.IsConfirm v.layout := hescape.not_isConfirm
    simp [hreceive, hescape, hconfirm, Draft.error?, Draft.text?]
  by_cases hconfirm : e.IsConfirm v.layout
  · have hreceive : (Draft.text t).receive o.props o.focus v.layout e =
        (Draft.text t).confirm o.props.format o.props.committed :=
      Draft.receive_of_isConfirm up hconfirm
    rw [hreceive, Draft.confirm, TextDraft.confirm]
    cases t.read o.props.format o.props.committed with
    | ok value => simp [hconfirm, Draft.error?, Draft.text?]
    | error reason => simp [hconfirm, Draft.error?, Draft.text?]
  · obtain ⟨b, hreceive⟩ := Draft.receive_of_other (t := t) up hedit hescape hconfirm
    simp [hreceive, hdraft, hedit, hescape, hconfirm, Draft.error?, Draft.text?]

/-- After an occasion there is an error exactly if a confirmation has failed on it, or if
there was one before and it has not been taken back. -/
theorem error_step (v : EditorView) (o : Occasion) :
    (v.step o).1.draft.error?.isSome = true ↔
      v.FailsToConfirm o ∨ v.draft.error?.isSome = true ∧ ¬ v.Recovers o := by
  have hidle : (v.step o).1.draft.error? = v.draft.error? → (∀ kind, ¬ v.Accepts o kind) →
      ((v.step o).1.draft.error?.isSome = true ↔
        v.FailsToConfirm o ∨ v.draft.error?.isSome = true ∧ ¬ v.Recovers o) := by
    intro hsame hnone
    rw [hsame]
    simp [FailsToConfirm, Recovers, hnone]
  cases hevent : o.event with
  | render area =>
      apply hidle
      · rw [draft_step_render hevent]
      · rintro kind ⟨-, -, e, he, -⟩
        cases hevent.symm.trans he
  | input e =>
      cases hlink : o.props.connected with
      | false =>
          apply hidle
          · rw [step_input hevent, Draft.receive_of_down _ hlink]
          · rintro kind ⟨-, hup, -⟩
            cases hlink.symm.trans hup
      | true =>
          cases hdraft : v.draft with
          | text t =>
              rw [← hdraft]
              exact error_step_of_text hdraft hevent hlink
          | switch on =>
              rw [← hdraft]
              apply hidle
              · rw [step_input hevent, hdraft]
                rcases Draft.receive_switch o.props o.focus v.layout on e with heq | heq
                · rw [heq]
                · rw [heq]
                  rfl
              · rintro kind ⟨hswitch, -⟩
                rw [hdraft] at hswitch
                cases hswitch

/-! ## Runs -/

theorem run_concat (v : EditorView) (occasions : List Occasion) (o : Occasion) :
    v.run (occasions ++ [o]) = ((v.run occasions).step o).1 := by
  rw [run, List.foldl_append]
  rfl

/-- On the occasion with index `i` a confirmation has failed, and no later occasion has
taken the error back. -/
def FailedSince (v : EditorView) (occasions : List Occasion) (i : Nat) : Prop :=
  ∃ o, occasions[i]? = some o ∧ (v.run (occasions.take i)).FailsToConfirm o ∧
    ∀ j o', i < j → occasions[j]? = some o' → ¬ (v.run (occasions.take j)).Recovers o'

/-- Before the last occasion of a run, the run is that of the occasions before it. -/
theorem failedSince_concat_of_lt {occasions : List Occasion} {i : Nat}
    (hi : i < occasions.length) :
    v.FailedSince (occasions ++ [o]) i ↔
      v.FailedSince occasions i ∧ ¬ (v.run occasions).Recovers o := by
  have htake : ∀ j, j ≤ occasions.length →
      (occasions ++ [o]).take j = occasions.take j := fun j hj =>
    List.take_append_of_le_length hj
  have hlast : (occasions ++ [o])[occasions.length]? = some o := List.getElem?_concat_length
  constructor
  · rintro ⟨o', hfound, hfails, hlater⟩
    rw [List.getElem?_append_left hi] at hfound
    rw [htake i (Nat.le_of_lt hi)] at hfails
    refine ⟨⟨o', hfound, hfails, ?_⟩, ?_⟩
    · intro j o'' hij hj
      obtain ⟨hlt, -⟩ := List.getElem?_eq_some_iff.mp hj
      rw [← htake j (Nat.le_of_lt hlt)]
      exact hlater j o'' hij ((List.getElem?_append_left hlt).trans hj)
    · have hrecovers := hlater occasions.length o hi hlast
      rw [htake _ (Nat.le_refl _), List.take_length] at hrecovers
      exact hrecovers
  · rintro ⟨⟨o', hfound, hfails, hlater⟩, hrecovers⟩
    refine ⟨o', (List.getElem?_append_left hi).trans hfound, ?_, ?_⟩
    · rw [htake i (Nat.le_of_lt hi)]
      exact hfails
    · intro j o'' hij hj
      rcases Nat.lt_or_ge j occasions.length with hlt | hge
      · rw [htake j (Nat.le_of_lt hlt)]
        exact hlater j o'' hij ((List.getElem?_append_left hlt).symm.trans hj)
      · obtain ⟨hle, -⟩ := List.getElem?_eq_some_iff.mp hj
        rw [List.length_append, List.length_singleton] at hle
        have heq : j = occasions.length := by omega
        subst heq
        cases hlast.symm.trans hj
        rw [htake _ (Nat.le_refl _), List.take_length]
        exact hrecovers

theorem failedSince_concat_length {occasions : List Occasion} :
    v.FailedSince (occasions ++ [o]) occasions.length ↔
      (v.run occasions).FailsToConfirm o := by
  have htake : (occasions ++ [o]).take occasions.length = occasions := List.take_left
  have hlast : (occasions ++ [o])[occasions.length]? = some o := List.getElem?_concat_length
  constructor
  · rintro ⟨o', hfound, hfails, -⟩
    cases hlast.symm.trans hfound
    rw [htake] at hfails
    exact hfails
  · intro hfails
    refine ⟨o, hlast, ?_, ?_⟩
    · rw [htake]
      exact hfails
    · intro j o' hj hfound
      obtain ⟨hlt, -⟩ := List.getElem?_eq_some_iff.mp hfound
      rw [List.length_append, List.length_singleton] at hlt
      omega

/-- A run that starts without an error ends with one exactly if a confirmation has failed
and nothing has taken the error back since. -/
theorem error_run (h : v.draft.error? = none) (occasions : List Occasion) :
    (v.run occasions).draft.error?.isSome = true ↔ ∃ i, v.FailedSince occasions i := by
  -- The last occasion fails itself, or it leaves the failure of an earlier one.
  induction occasions using List.reverseRecOn with
  | nil =>
      have hnone : (v.run []).draft.error?.isSome = false := by
        rw [run, List.foldl_nil, h]
        rfl
      rw [hnone]
      refine iff_of_false Bool.false_ne_true ?_
      rintro ⟨i, o, hfound, -⟩
      cases hfound
  | append_singleton occasions o ih =>
      rw [run_concat, error_step, ih]
      constructor
      · rintro (hfails | ⟨⟨i, hi⟩, hrecovers⟩)
        · exact ⟨occasions.length, failedSince_concat_length.mpr hfails⟩
        · obtain ⟨o', hfound, -⟩ := id hi
          obtain ⟨hlt, -⟩ := List.getElem?_eq_some_iff.mp hfound
          exact ⟨i, (failedSince_concat_of_lt hlt).mpr ⟨hi, hrecovers⟩⟩
      · rintro ⟨i, hi⟩
        rcases Nat.lt_or_ge i occasions.length with hlt | hge
        · obtain ⟨hearlier, hrecovers⟩ := (failedSince_concat_of_lt hlt).mp hi
          exact .inr ⟨⟨i, hearlier⟩, hrecovers⟩
        · obtain ⟨o', hfound, -⟩ := id hi
          obtain ⟨hle, -⟩ := List.getElem?_eq_some_iff.mp hfound
          rw [List.length_append, List.length_singleton] at hle
          have heq : i = occasions.length := by omega
          subst heq
          exact .inl (failedSince_concat_length.mp hi)

/-! ## From mounting on -/

/-- The draft of a view is a switch exactly for the boolean format. -/
theorem isSwitch_run_mount (format : Format) (committed : Option Value)
    (layout : EditorLayout) (occasions : List Occasion) :
    (run ⟨.mount format committed, layout⟩ occasions).draft.isSwitch = format.isBoolean := by
  refine keeps_run (P := fun d => d.isSwitch = format.isBoolean) ?_
    (Draft.isSwitch_mount format committed) occasions
  intro d p focus layout event hd
  rw [Draft.isSwitch_receive]
  exact hd

/-- An accepted key that throws the text away leaves a text as it is mounted. -/
theorem draft_step_of_escape (h : v.Accepts o EditorEvent.IsEscape) :
    (v.step o).1.draft = .text {} := by
  obtain ⟨hswitch, hup, e, hevent, hescape⟩ := h
  rw [step_input hevent]
  cases hdraft : v.draft with
  | switch on =>
      rw [hdraft] at hswitch
      cases hswitch
  | text t => rw [Draft.receive_of_isEscape hup hescape]

/-- Whatever happens to an editor from its mounting on, wherever it was drawn before and
whatever it is told of the parameter and the focus each time: it has a switch exactly for
the boolean format, and a switch is neither edited nor shows an error.  A text that is not
edited is empty with the cursor at its beginning, and no text has a line break.  An error
is shown exactly if a confirmation has failed and nothing has taken it back since.  Where a
text is thrown away, the editor is as if it had just been mounted. -/
theorem editor_lifetime (format : Format) (committed : Option Value)
    (layout : EditorLayout) (occasions : List Occasion) :
    let start : EditorView := ⟨.mount format committed, layout⟩
    let v := start.run occasions
    (v.draft.isSwitch = true ↔ format = .bool) ∧
      (v.draft.isSwitch = true → v.draft.edited = false ∧ v.draft.error? = none) ∧
      (∀ t, v.draft = .text t →
        (t.edited = false → t.buffer.text = "" ∧ t.buffer.cursor = 0) ∧
          ∀ c ∈ t.buffer.text.toList, ¬ Draft.IsLineBreak c) ∧
      (v.draft.error?.isSome = true ↔ ∃ i, start.FailedSince occasions i) ∧
      ∀ o committed', v.Accepts o EditorEvent.IsEscape →
        (v.step o).1.draft = .mount format committed' := by
  intro start v
  have hswitch : v.draft.isSwitch = format.isBoolean :=
    isSwitch_run_mount format committed layout occasions
  have hempty : v.draft.IdleEmpty :=
    keeps_run (P := Draft.IdleEmpty) (fun _ _ _ _ event h => Draft.idleEmpty_receive h event)
      (Draft.idleEmpty_mount format committed) occasions
  have hline : v.draft.OneLine :=
    keeps_run (P := Draft.OneLine) (fun _ _ _ _ event h => Draft.oneLine_receive h event)
      (Draft.oneLine_mount format committed) occasions
  refine ⟨?_, ?_, ?_, error_run (Draft.error?_mount format committed) occasions, ?_⟩
  · rw [hswitch]
    exact beq_iff_eq
  · intro hon
    cases hdraft : v.draft with
    | switch on => exact ⟨rfl, rfl⟩
    | text t =>
        rw [hdraft] at hon
        cases hon
  · intro t hdraft
    rw [hdraft] at hempty hline
    constructor
    · intro hidle
      rw [show t.buffer = .empty from hempty hidle]
      exact ⟨rfl, rfl⟩
    · intro c hc
      rw [LineBuffer.text, String.toList_ofList] at hc
      exact hline c hc
  · intro o committed' hescape
    have htext : format.isBoolean = false := hswitch.symm.trans hescape.1
    rw [draft_step_of_escape hescape, Draft.mount, htext]
    rfl

/-- After a frame a number without a committed value is confirmed, which fails, and then
the text is thrown away. -/
theorem editor_lifetime_number :
    let props : EditorProps := { committed := none, format := .number }
    let key (k : Key) : Occasion := ⟨props, ⟨true, false⟩, .input (.key (.plain k))⟩
    let start : EditorView := ⟨.mount .number none, {}⟩
    let occasions : List Occasion := [⟨props, {}, .render ⟨0, 0, 40, 4⟩⟩, key .enter]
    let v := start.run occasions
    (∃ i, start.FailedSince occasions i) ∧
      v.Accepts (key .escape) EditorEvent.IsEscape ∧
      (v.step (key .escape)).1.draft = .mount .number none := by
  intro props key start occasions v
  have hescape : v.Accepts (key .escape) EditorEvent.IsEscape :=
    ⟨rfl, rfl, _, rfl, rfl⟩
  obtain ⟨-, -, -, herror, hmounted⟩ := editor_lifetime .number none {} occasions
  exact ⟨herror.mp rfl, hescape, hmounted _ none hescape⟩

end EditorView
end DevicePanel
