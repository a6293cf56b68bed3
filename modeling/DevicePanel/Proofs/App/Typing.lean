import DevicePanel.Proofs.App.Frame
import DevicePanel.Proofs.App.Reachable
import DevicePanel.Proofs.CommandLine.Parse
import DevicePanel.Proofs.Editor.Typing

/-!
# Typed texts and their values

While a field has the focus, the keys of characters go into it and ask for nothing, and
frames in between change neither.  Enter then confirms the text: what comes of it is what
the format makes of the text, a value that is committed or a reason that is shown with the
text.  The program makes the same of the text without a panel.
-/

namespace DevicePanel

namespace App

/-- The field of the entry at a place has the focus, and the link is up.  The entry has
the given declaration and committed value and the given draft. -/
structure Entering (app : App) (i : Nat) (entry : Entry) (t : TextDraft) : Prop where
  up : app.connected = true
  selected : app.panel.selected = some i
  found : app.panel.entries[i]? = some { entry with draft := .text t }
  focused : app.panel.focus.current = some (.editor i .input)

variable {app : App} {i : Nat} {entry : Entry} {t : TextDraft}

namespace Entering

theorem entry?_eq (h : Entering app i entry t) :
    app.panel.entry? = some { entry with draft := .text t } :=
  (Panel.entry?_of_selected h.selected).trans h.found

/-- A key without modifiers that is no move goes to the text, and its value is to be
committed. -/
theorem key (h : Entering app i entry t) {k : Key} (hmove : ¬ (KeyEvent.plain k).IsMove)
    {t' : TextDraft} {value : Option Value}
    (hkey : Draft.textKey t (entry.props true) false (.plain k) = (.text t', value)) :
    (app.handle (.key (.plain k))).2 =
        ((value.map (⟨entry.key, ·⟩)).map Effect.commit).toList ∧
      Entering (app.handle (.key (.plain k))).1 i entry t' := by
  have hhandle : app.handle (.key (.plain k)) =
      app.ofPanel
        ({ app.panel with
            entries := app.panel.entries.set i { entry with draft := .text t' } },
          value.map (⟨entry.key, ·⟩)) := by
    have hpanel : app.handle (.key (.plain k)) =
        app.ofPanel (app.panel.key app.connected (.plain k)) := rfl
    have hdraft : (Draft.text t).key (entry.props true) ⟨true, false⟩ (.plain k) =
        (.text t', value) := hkey
    rw [hpanel, Panel.key_of_input h.selected h.found h.focused hmove,
      Panel.edit_of_found h.selected h.found, h.up]
    dsimp only [Entry.props] at hdraft ⊢
    rw [hdraft]
    rfl
  rw [hhandle]
  exact ⟨rfl, h.up, h.selected, Panel.found_set h.found _, h.focused⟩

theorem char (h : Entering app i entry t) {c : Char} (hc : Text.isControl c = false)
    (now : TimeOfDay) :
    app.requests (.event now (.key (.plain (.char c)))) = [] ∧
      Entering (app.move (.event now (.key (.plain (.char c))))) i entry
        (t.edit (·.insert c)) := by
  have hmove : ¬ (KeyEvent.plain (.char c)).IsMove := by
    rintro (h | h | h | h) <;> cases h
  obtain ⟨hnone, hentering⟩ :=
    h.key hmove (congrArg (fun t => (Draft.text t, none)) (Draft.fieldKey_char hc t))
  refine ⟨hnone, ?_⟩
  rw [move, step_eq, hnone]
  exact hentering

theorem enter (h : Entering app i entry t) :
    let result := t.confirm entry.parameter.format entry.parameter.value
    (app.handle (.key (.plain .enter))).2 =
        ((result.2.map (⟨entry.key, ·⟩)).map Effect.commit).toList ∧
      Entering (app.handle (.key (.plain .enter))).1 i entry result.1 := by
  have hmove : ¬ (KeyEvent.plain .enter).IsMove := by
    rintro (h | h | h | h) <;> cases h
  exact h.key hmove rfl

/-- A commit under the key of the entry is taken over by it, and it keeps its draft. -/
theorem commit (h : Entering app i entry t) (hkeys : (app.panel.entries.map Entry.key).Nodup)
    (now : TimeOfDay) (v : Value) :
    (app.commit now ⟨entry.key, v⟩).panel.entry? =
      some (Entry.commit { entry with draft := .text t } v) := by
  have hentries := entries_commit hkeys h.found now v
  have hselected : (app.commit now ⟨entry.key, v⟩).panel.selected = some i := by
    rw [App.commit]
    split
    next panel hpanel =>
      rw [Panel.commit?] at hpanel
      split at hpanel
      · cases hpanel
        exact h.selected
      · cases hpanel
    · exact h.selected
  rw [Panel.entry?_of_selected hselected]
  exact hentries ▸ Panel.found_set h.found _

theorem frame (h : Entering app i entry t) (width height : Nat) :
    Entering (app.frame width height).1 i entry t := by
  have hmem : Control.editor i .input ∈ app.panel.controls := by
    apply Panel.input_mem_controls h.selected
    rw [h.entry?_eq]
    rfl
  constructor
  · rw [connected_frame]
    exact h.up
  · rw [selected_frame]
    exact h.selected
  · rw [entries_frame]
    exact h.found
  · rw [focus_frame]
    exact current_settle_of_mem h.focused hmem

/-- Typing characters asks for nothing and leaves the typed text, whether frames are drawn
meanwhile or not. -/
theorem run (h : Entering app i entry t) {cs : List Char}
    (hcs : ∀ c ∈ cs, Text.isControl c = false) {moves : List Move}
    (hmoves : moves.filterMap Move.event? = cs.map fun c => .key (.plain (.char c))) :
    app.effects moves = [] ∧ Entering (app.run moves) i entry (t.typed cs) := by
  -- A frame keeps what the field has, and an event takes the next character.
  induction moves generalizing app t cs with
  | nil =>
      have hnone : cs = [] := List.map_eq_nil_iff.mp hmoves.symm
      subst hnone
      exact ⟨rfl, h⟩
  | cons m moves ih =>
      cases m with
      | frame width height => exact ih (h.frame width height) hcs hmoves
      | event now e =>
          cases cs with
          | nil => cases hmoves
          | cons c cs =>
              obtain ⟨rfl, hrest⟩ := List.cons.inj hmoves
              obtain ⟨hnone, hentering⟩ := h.char (hcs c List.mem_cons_self) now
              obtain ⟨heffects, hrun⟩ :=
                ih hentering (fun c' hc' => hcs c' (List.mem_cons_of_mem c hc')) hrest
              refine ⟨?_, hrun⟩
              rw [effects, hnone, heffects]
              rfl

end Entering

/-! ## What comes of a typed text -/

/-- The link is up, and the field of the selected entry has the focus and has not been
edited. -/
structure FieldReady (app : App) (i : Nat) (entry : Entry) : Prop where
  up : app.connected = true
  selected : app.panel.selected = some i
  found : app.panel.entries[i]? = some entry
  textual : entry.parameter.format ≠ .bool
  idle : entry.draft.edited = false
  focused : app.panel.focus.current = some (.editor i .input)

theorem Reachable.keeps_idleEmpty (h : app.Reachable) :
    Keeps (fun e => e.draft.IdleEmpty) app := by
  refine h.keeps ?_ fun p => Draft.idleEmpty_mount p.format p.value
  intro e connected focus layout event hempty
  rw [Entry.draft_after]
  exact Draft.idleEmpty_receive hempty event

theorem FieldReady.entering (ready : FieldReady app i entry) (h : app.Reachable) :
    ∃ t, t.buffer = .empty ∧ Entering app i entry t := by
  have hmem : entry ∈ app.panel.entries := List.mem_of_getElem? ready.found
  have htext : entry.draft.isSwitch = false := by
    rw [(h.keeps_typed.holds entry hmem).isSwitch]
    simpa [Format.isBoolean] using ready.textual
  have hempty := h.keeps_idleEmpty.holds entry hmem
  have hidle := ready.idle
  cases hdraft : entry.draft with
  | switch on =>
      rw [hdraft] at htext
      cases htext
  | text t =>
      rw [hdraft] at hempty hidle
      refine ⟨t, hempty hidle, ready.up, ready.selected, ?_, ready.focused⟩
      rw [← hdraft]
      exact ready.found

/-- In every reachable state in which the link is up and an idle field has the focus, the
keys of a text without controls ask for nothing.  Enter then commits the value that the
format makes of the text, or shows why there is none.  After the commit the value is the
committed one of the entry, whose draft is the typed text still.  Without a panel the program
gives the same value or the same reason. -/
theorem typed_text_is_parsed {app : App} (h : app.Reachable) {i : Nat} {entry : Entry}
    (ready : FieldReady app i entry) {text : String} (nonempty : text ≠ "")
    (printable : ∀ c ∈ text.toList, Text.isControl c = false) {typing : List Move}
    (htyping : typing.filterMap Move.event? =
      text.toList.map fun c => .key (.plain (.char c)))
    (now : TimeOfDay) :
    let typed := app.run typing
    let entered := typed.handle (.key (.plain .enter))
    let after := typed.step now (.key (.plain .enter))
    app.effects typing = [] ∧
      match entry.parameter.format.parse text with
      | .ok v =>
          let draft : Draft := .text { buffer := .ofText text, edited := true }
          entered.2 = [.commit ⟨entry.key, v⟩] ∧
            entered.1.panel.entry? = some { entry with draft } ∧
            after.panel.entry? =
              some { parameter := { entry.parameter with value := some v }, draft } ∧
            ∀ site, (Request.parse entry.parameter.format.tag text).run site =
              .success [v.toJson.compact]
      | .error e =>
          let draft : Draft :=
            .text { buffer := .ofText text, edited := true, error := some e }
          entered.2 = [] ∧
            entered.1.panel.entry? = some { entry with draft } ∧
            draft.error?.map ValueError.message = some e.message ∧
            ∀ site, (Request.parse entry.parameter.format.tag text).run site =
              .failure (.value e) := by
  intro typed entered after
  obtain ⟨t, hempty, hentering⟩ := ready.entering h
  obtain ⟨heffects, htyped⟩ := hentering.run printable htyping
  rw [TextDraft.typed_of_empty hempty nonempty] at htyped
  refine ⟨heffects, ?_⟩
  obtain ⟨hcommit, hentered⟩ := htyped.enter
  rw [TextDraft.confirm_ofText] at hcommit hentered
  cases hparse : entry.parameter.format.parse text with
  | ok v =>
      rw [hparse] at hcommit hentered
      -- The commit is applied to the state in which the field has the text already.
      have hkeys : (entered.1.panel.entries.map Entry.key).Nodup := by
        rw [keys_handle]
        exact (h.append typing).keys_nodup
      refine ⟨hcommit, hentered.entry?_eq, ?_, fun site => ?_⟩
      · have hafter : after = entered.1.apply now entered.2 := typed.step_eq now _
        rw [hafter, hcommit]
        exact hentered.commit hkeys now v
      · rw [Request.run_parse, hparse]
  | error e =>
      rw [hparse] at hcommit hentered
      refine ⟨hcommit, hentered.entry?_eq, rfl, fun site => ?_⟩
      rw [Request.run_parse, hparse]

/-- The field of the built-in sheet's first parameter has the focus, and a text is typed
there with a frame in between. -/
theorem typed_text_is_parsed_builtIn :
    let app := (start .builtIn .dracula true).run
      [.event ⟨0, 0, 0⟩ (.key (.plain .up))]
    let entry : Entry := ⟨⟨"device_name", "Device name", .text, none, false,
      some (.text "bench-01")⟩, .text {}⟩
    let typing : List Move := [.event ⟨0, 0, 1⟩ (.key (.plain (.char 'l'))), .frame 60 12,
      .event ⟨0, 0, 2⟩ (.key (.plain (.char 'a'))),
      .event ⟨0, 0, 3⟩ (.key (.plain (.char 'b')))]
    let typed := app.run typing
    let draft : Draft := .text { buffer := .ofText "lab", edited := true }
    app.Reachable ∧ app.FieldReady 0 entry ∧
      app.effects typing = [] ∧
      (typed.handle (.key (.plain .enter))).2 = [.commit ⟨"device_name", .text "lab"⟩] ∧
      (typed.step ⟨0, 0, 4⟩ (.key (.plain .enter))).panel.entry? =
        some { parameter := { entry.parameter with value := some (.text "lab") }, draft } := by
  intro app entry typing typed draft
  have hreachable : app.Reachable := .run .builtIn .dracula true _
  have hready : app.FieldReady 0 entry :=
    ⟨rfl, rfl, rfl, by decide, rfl, rfl⟩
  have hprintable : ∀ c ∈ "lab".toList, Text.isControl c = false := by
    intro c hc
    have hcases : c = 'l' ∨ c = 'a' ∨ c = 'b' := by simpa using hc
    rcases hcases with rfl | rfl | rfl <;> rfl
  obtain ⟨heffects, hcommit, -, hafter, -⟩ :=
    @typed_text_is_parsed app hreachable 0 entry hready "lab" (by decide) hprintable typing
      rfl ⟨0, 0, 4⟩
  exact ⟨hreachable, hready, heffects, hcommit, hafter⟩

end App
end DevicePanel
