import DevicePanel.Proofs.App.EffectLog
import DevicePanel.Proofs.App.Frame
import DevicePanel.Proofs.App.Locality
import DevicePanel.Proofs.Panel.Switch
import Mathlib.Data.List.Chain
import Mathlib.Data.List.Iterate

/-!
# Switches and their committed values

The position of a switch and its committed value are kept apart, but they change together:
an event flips a switch and asks for its new position, or leaves both alone.

An event flips the switch of the selected entry exactly when it is an activation: one of
its keys is pressed while it has the focus, or the pointer is pressed where the latest
frame has drawn it.  This needs a frame before every event.  Without one the pointer is
compared with the layout of an entry that may no longer be selected.
-/

namespace DevicePanel

/-! ## Position and value -/

namespace Entry

/-- A switch is in the committed position, or off if there is none. -/
def Agrees (e : Entry) : Prop :=
  ∀ on, e.draft = .switch on → on = (e.parameter.value.bind Value.toBool?).getD false

theorem agrees_ofParameter (p : Parameter) : (ofParameter p).Agrees := by
  intro on hon
  have hmount : Draft.mount p.format p.value = .switch on := hon
  rw [Draft.mount] at hmount
  split at hmount
  · cases hmount
    rfl
  · cases hmount

theorem kept_agrees : Kept Agrees := by
  intro e connected focus layout event h on hon
  rw [draft_after] at hon
  cases hdraft : e.draft with
  | text t =>
      have hsame := @Draft.isSwitch_receive (e.props connected) focus layout e.draft event
      rw [hon, hdraft] at hsame
      cases hsame
  | switch old =>
      rw [hdraft] at hon
      rw [value_after]
      rcases Draft.receive_switch (e.props connected) focus layout old event with heq | heq
      · rw [heq] at hon ⊢
        cases hon
        exact h on hdraft
      · rw [heq] at hon ⊢
        cases hon
        rfl

/-- The layout of an entry's editor in a frame of the given size.  Before the first frame
it has none. -/
def layout (e : Entry) (connected : Bool) : Option (Nat × Nat) → EditorLayout
  | none => {}
  | some (width, height) =>
      Editor.layout e.draft (e.props connected)
        (Panel.editorArea (App.panelArea width height) (e.props connected))

theorem width_confirm_layout {e : Entry} (h : e.draft.isSwitch = true)
    (connected : Bool) (size : Option (Nat × Nat)) :
    (e.layout connected size).confirm.width = 0 := by
  cases size with
  | none => rfl
  | some size =>
      rw [layout, Editor.layout, h]
      exact EditorLayout.width_confirm_of_switch _ _

end Entry

/-! ## Activations -/

namespace App

/-- The values that the events of a run commit under a key, in their order. -/
def committedValues (app : App) (key : String) (moves : List Move) : List Value :=
  (app.effects moves).filterMap (Effect.valueFor? key)

/-- Where the latest frame, which had the given size, has drawn the field or switch of the
selected entry. -/
def fieldArea (app : App) (size : Option (Nat × Nat)) : Rect :=
  match app.panel.entry? with
  | some e => (e.layout app.connected size).field
  | none => {}

/-- The event activates the switch of an entry: the link is up, the entry is selected, and
a key that activates switches is pressed while the switch has the focus, or the pointer is
pressed on it. -/
def Activates (app : App) (size : Option (Nat × Nat)) (i : Nat) (event : Event) : Prop :=
  app.connected = true ∧ app.panel.selected = some i ∧
    match event with
    | .key e =>
        e.action = .press ∧ e.Activates ∧ app.panel.focus.current = some (.editor i .input)
    | .pointer e => e.action = .press ∧ (app.fieldArea size).contains e.x e.y = true
    | .paste _ | .resize | .focusGained | .focusLost => False

instance (app : App) (size : Option (Nat × Nat)) (i : Nat) (event : Event) :
    Decidable (app.Activates size i event) :=
  match event with
  | .key _ => inferInstanceAs (Decidable (_ ∧ _ ∧ _ ∧ _ ∧ _))
  | .pointer _ => inferInstanceAs (Decidable (_ ∧ _ ∧ _ ∧ _))
  | .paste _ | .resize | .focusGained | .focusLost =>
      inferInstanceAs (Decidable (_ ∧ _ ∧ False))

/-- How often a run activates the switch of an entry, when the latest frame before it had
the given size. -/
def activations (app : App) (size : Option (Nat × Nat)) (i : Nat) : List Move → Nat
  | [] => 0
  | .event now e :: moves =>
      (if app.Activates size i e then 1 else 0) + (app.step now e).activations size i moves
  | .frame width height :: moves =>
      (app.frame width height).1.activations (some (width, height)) i moves

/-! ## What a switch asks for -/

variable {app : App} {size : Option (Nat × Nat)} {i : Nat} {entry : Entry} {on : Bool}

/-- The application when the latest frame had the given size: only a control of the panel
has the focus, the layout of the editor is that of the frame, and the field stands apart
from the list. -/
structure Shown (app : App) (size : Option (Nat × Nat)) : Prop where
  focused : ∀ c, app.panel.focus.current = some c → c ∈ app.panel.controls
  editorLayout : ∀ e, app.panel.entry? = some e →
    app.panel.editorLayout = e.layout app.connected size
  apart : ∀ e, app.panel.entry? = some e → ∀ x y,
    app.panel.editorLayout.field.contains x y = true →
      app.panel.listArea.contains x y = false

theorem shown_start (sheet : Sheet) (palette : Palette) (connected : Bool) :
    (start sheet palette connected).Shown none where
  focused := by
    intro c hc
    cases hc
  editorLayout := fun _ _ => rfl
  apart := by
    intro _ _ x y _
    have hlist : (start sheet palette connected).panel.listArea = {} := rfl
    rw [hlist]
    simp [Rect.contains, Rect.right]

theorem Drawn.shown {width height : Nat} (h : app.Drawn width height) :
    app.Shown (some (width, height)) where
  focused := by
    intro c hc
    obtain ⟨c', hmem, hcurrent⟩ := h.focused
    cases hcurrent.symm.trans hc
    exact hmem
  editorLayout := h.editorLayout
  apart := fun _ he _ _ hfield => h.apart he hfield

theorem control_of_command? {e : KeyEvent} {effect : Effect}
    (h : command? e = some effect) : e.modifiers.control = true := by
  rw [command?] at h
  split at h
  · cases h
  next hcontrol => simpa using hcontrol

/-- While a switch is selected, an event asks for a commit exactly when it activates the
switch. -/
theorem commit_mem_iff (shown : app.Shown size) (selected : app.panel.selected = some i)
    (found : app.panel.entries[i]? = some entry) (hdraft : entry.draft = .switch on)
    (event : Event) :
    (∃ c, .commit c ∈ (app.handle event).2) ↔ app.Activates size i event := by
  have hpanel : ∀ result, (∃ c, .commit c ∈ (app.ofPanel result).2) ↔
      result.2.isSome = true := by
    rintro ⟨panel, _ | c⟩ <;> simp [ofPanel]
  cases event with
  | key e =>
      by_cases hpress : e.action = .press
      · rw [handle_of_press hpress, key]
        cases hcommand : command? e with
        | some effect =>
            have hcontrol := control_of_command? hcommand
            rcases eq_of_command? hcommand with rfl | rfl <;>
              simp [Activates, KeyEvent.Activates, hcontrol]
        | none =>
            dsimp only
            rw [hpanel, Panel.isSome_key_iff selected found hdraft shown.focused]
            simp [Activates, selected, hpress]
      · simp [handle, Activates, hpress]
  | pointer e =>
      have hentry : app.panel.entry? = some entry :=
        (Panel.entry?_of_selected selected).trans found
      have hlayout := shown.editorLayout entry hentry
      have hfield : app.panel.editorLayout.field = app.fieldArea size := by
        rw [hlayout, fieldArea, hentry]
      have hnarrow : app.panel.editorLayout.confirm.width = 0 := by
        rw [hlayout]
        apply Entry.width_confirm_layout
        rw [hdraft]
        rfl
      have hpointer : app.handle (.pointer e) =
          app.ofPanel (app.panel.pointer app.connected e) := rfl
      rw [hpointer, hpanel, Panel.isSome_pointer_iff selected found hdraft hnarrow
        (shown.apart entry hentry), hfield]
      simp [Activates, selected]
  | paste _ | resize | focusGained | focusLost => simp [handle, Activates]

/-! ## Runs -/

variable {key : String}

/-- The entry at a place is a switch with a key and a position. -/
def HasSwitch (app : App) (i : Nat) (key : String) (on : Bool) : Prop :=
  ∃ entry, app.panel.entries[i]? = some entry ∧ entry.key = key ∧ entry.draft = .switch on

theorem valueFor?_of_command {effects : List Effect}
    (h : ∀ effect ∈ effects, effect = .toggleLink ∨ effect = .quit) :
    effects.filterMap (Effect.valueFor? key) = [] := by
  rw [List.filterMap_eq_nil_iff]
  intro effect hmem
  rcases h effect hmem with rfl | rfl <;> rfl

/-- While another entry is selected, an event neither flips a switch nor commits under its
key. -/
theorem HasSwitch.step_of_ne (h : app.HasSwitch i key on)
    (hkeys : (app.panel.entries.map Entry.key).Nodup) (hne : app.panel.selected ≠ some i)
    (now : TimeOfDay) (event : Event) :
    (app.handle event).2.filterMap (Effect.valueFor? key) = [] ∧
      (app.step now event).HasSwitch i key on := by
  obtain ⟨entry, hfound, hkey, hdraft⟩ := h
  constructor
  · rw [List.filterMap_eq_nil_iff]
    intro effect hmem
    cases effect with
    | toggleLink | quit => rfl
    | commit c =>
        -- A commit under the key would come from the selected entry, which has another one.
        obtain ⟨entry', _, _, _, hselected, hkey', -⟩ := entry_of_commit hmem
        rw [Effect.valueFor?, if_neg]
        intro hsame
        obtain ⟨j, hj, hfound'⟩ := Option.bind_eq_some_iff.mp hselected
        have hij : i = j := Panel.index_of_key hkeys hfound hfound'
          (hkey.trans (hsame.symm.trans hkey'))
        rw [hij] at hne
        exact hne hj
  · refine ⟨entry, ?_, hkey, hdraft⟩
    rw [getElem?_step_of_ne hkeys hne]
    exact hfound

/-- While a switch is selected, an event touches no entry and asks for no commit, or it
flips the switch and asks to commit the new position. -/
theorem handle_of_switch (selected : app.panel.selected = some i)
    (found : app.panel.entries[i]? = some entry) (hdraft : entry.draft = .switch on)
    (event : Event) :
    ((app.handle event).1.panel.entries = app.panel.entries ∧
        ∀ effect ∈ (app.handle event).2, effect = .toggleLink ∨ effect = .quit) ∨
      ((app.handle event).1.panel.entries =
          app.panel.entries.set i { entry with draft := .switch !on } ∧
        (app.handle event).2 = [.commit ⟨entry.key, .bool !on⟩]) := by
  rcases app.handle_cases event with ⟨effect, heffect, hhandle⟩ | ⟨result, houtcome, hhandle⟩
  · rw [hhandle]
    refine .inl ⟨rfl, fun effect' hmem => ?_⟩
    rw [List.mem_singleton.mp hmem]
    exact heffect
  · rw [hhandle]
    rcases houtcome.of_switch selected found hdraft with ⟨hentries, hnone⟩ | ⟨hentries, hcommit⟩
    · refine .inl ⟨hentries, fun effect hmem => ?_⟩
      rw [ofPanel, hnone] at hmem
      cases hmem
    · rw [ofPanel, hcommit]
      exact .inr ⟨hentries, rfl⟩

/-- While a switch is selected, an event that does not activate it neither flips it nor
commits under its key. -/
theorem HasSwitch.step_of_not_activates (h : app.HasSwitch i key on)
    (selected : app.panel.selected = some i) (shown : app.Shown size) {event : Event}
    (hnot : ¬ app.Activates size i event) (now : TimeOfDay) :
    (app.handle event).2.filterMap (Effect.valueFor? key) = [] ∧
      (app.step now event).HasSwitch i key on := by
  obtain ⟨entry, hfound, hkey, hdraft⟩ := h
  rw [← commit_mem_iff shown selected hfound hdraft] at hnot
  rcases handle_of_switch selected hfound hdraft event with
    ⟨hentries, hcommands⟩ | ⟨-, hcommit⟩
  · refine ⟨valueFor?_of_command hcommands, entry, ?_, hkey, hdraft⟩
    rw [entries_step_of_untouched hentries hcommands]
    exact hfound
  · exact absurd ⟨_, hcommit ▸ List.mem_singleton_self _⟩ hnot

theorem HasSwitch.step_of_activates (h : app.HasSwitch i key on)
    (hkeys : (app.panel.entries.map Entry.key).Nodup) (shown : app.Shown size)
    {event : Event} (hactivates : app.Activates size i event) (now : TimeOfDay) :
    (app.handle event).2.filterMap (Effect.valueFor? key) = [.bool !on] ∧
      (app.step now event).HasSwitch i key !on := by
  obtain ⟨entry, hfound, hkey, hdraft⟩ := h
  have hselected : app.panel.selected = some i := hactivates.2.1
  rw [← commit_mem_iff shown hselected hfound hdraft] at hactivates
  rcases handle_of_switch hselected hfound hdraft event with
    ⟨-, hcommands⟩ | ⟨hentries, hcommit⟩
  · obtain ⟨c, hc⟩ := hactivates
    rcases hcommands _ hc with hc | hc <;> cases hc
  · have hflipped : (app.handle event).1.panel.entries[i]? =
        some { entry with draft := .switch !on } := by
      rw [hentries]
      exact Panel.found_set hfound _
    refine ⟨?_, Entry.commit { entry with draft := .switch !on } (.bool !on), ?_, hkey, rfl⟩
    · rw [hcommit]
      simp [Effect.valueFor?, hkey]
    · -- The commit meets the entry with its switch flipped already.
      rw [entries_step_of_commit hkeys hflipped hcommit]
      exact Panel.found_set hflipped _

/-- One of two moves in a row is a frame. -/
def Separated (m m' : Move) : Prop := m.event? = none ∨ m'.event? = none

/-- Where a frame is drawn before every event, the values that a run commits for a switch
alternate, one for each activation. -/
theorem HasSwitch.committedValues_eq (h : app.HasSwitch i key on)
    (hkeys : (app.panel.entries.map Entry.key).Nodup) {moves : List Move}
    (separated : moves.IsChain Separated)
    (shown : ∀ m ∈ moves.head?, m.event? ≠ none → app.Shown size) :
    app.committedValues key moves =
      (List.iterate (! ·) (!on) (app.activations size i moves)).map .bool := by
  -- The state is known to be drawn only where an event comes next.  Behind an event comes
  -- a frame, and behind a frame the state is drawn.
  induction moves generalizing app size on with
  | nil => rfl
  | cons m moves ih =>
      obtain ⟨hnext, hrest⟩ := List.isChain_cons.mp separated
      have hkept : ((app.move m).panel.entries.map Entry.key).Nodup := by
        rw [keys_move hkeys]
        exact hkeys
      cases m with
      | frame width height =>
          apply ih
          · obtain ⟨entry, hfound, hentry⟩ := h
            exact ⟨entry, (app.entries_frame width height) ▸ hfound, hentry⟩
          · exact hkept
          · exact hrest
          · intro m _ _
            exact (app.drawn_frame width height).shown
      | event now e =>
          have hshown : app.Shown size := shown _ rfl (Option.some_ne_none e)
          have hnone : ∀ m ∈ moves.head?, m.event? ≠ none →
              (app.step now e).Shown size := by
            intro m hm hevent
            rcases hnext m hm with h | h
            · cases h
            · exact absurd h hevent
          have hcons : app.committedValues key (.event now e :: moves) =
              (app.handle e).2.filterMap (Effect.valueFor? key) ++
                (app.step now e).committedValues key moves := List.filterMap_append
          rw [hcons, activations]
          by_cases hactivates : app.Activates size i e
          · obtain ⟨hvalues, hstep⟩ := h.step_of_activates hkeys hshown hactivates now
            rw [hvalues, ih hstep hkept hrest hnone, if_pos hactivates, Nat.add_comm]
            rfl
          · have hkeep : (app.handle e).2.filterMap (Effect.valueFor? key) = [] ∧
                (app.step now e).HasSwitch i key on := by
              by_cases hselected : app.panel.selected = some i
              · exact h.step_of_not_activates hselected hshown hactivates now
              · exact h.step_of_ne hkeys hselected now e
            rw [hkeep.1, ih hkeep.2 hkept hrest hnone, if_neg hactivates, Nat.zero_add]
            rfl

/-- In every run of an accepted sheet each switch is in its committed position, or off if
there is none.  Where a frame is drawn before every event that follows another, the values
that are committed for a switch alternate, from the negation of the sheet's value on, and
there is one of them for each activation. -/
theorem switches_alternate {sheet : Sheet} (h : sheet.Accepted) (palette : Palette)
    (connected : Bool) {moves : List Move} (separated : moves.IsChain Separated) :
    let app := start sheet palette connected
    (∀ entry ∈ (app.run moves).panel.entries, entry.parameter.format = .bool →
        entry.draft.switch? =
          some ((entry.parameter.value.bind Value.toBool?).getD false)) ∧
      ∀ i p, sheet.parameters[i]? = some p → p.format = .bool →
        app.committedValues p.key moves =
          (List.iterate (! ·) (!(p.value.bind Value.toBool?).getD false)
            (app.activations none i moves)).map .bool := by
  intro app
  have hreachable : (app.run moves).Reachable := .run h palette connected moves
  constructor
  · intro entry hmem hformat
    have hswitch : entry.draft.isSwitch = true := by
      rw [(hreachable.keeps_typed.holds entry hmem).isSwitch, hformat]
      rfl
    have hagrees := (hreachable.keeps Entry.kept_agrees Entry.agrees_ofParameter).holds
      entry hmem
    cases hdraft : entry.draft with
    | text t =>
        rw [hdraft] at hswitch
        cases hswitch
    | switch on => rw [← hagrees on hdraft, Draft.switch?]
  · intro i p hp hformat
    have hfound : app.panel.entries[i]? = some (.ofParameter p) := by
      have hentries : app.panel.entries = sheet.parameters.map .ofParameter := rfl
      rw [hentries, List.getElem?_map, hp]
      rfl
    have hdraft : (Entry.ofParameter p).draft =
        .switch ((p.value.bind Value.toBool?).getD false) := by
      rw [Entry.ofParameter, hformat]
      rfl
    have hswitch : app.HasSwitch i p.key ((p.value.bind Value.toBool?).getD false) :=
      ⟨.ofParameter p, hfound, rfl, hdraft⟩
    exact hswitch.committedValues_eq
      (keeps_typed_start h.consistent palette connected).keys_nodup separated
      fun _ _ _ => shown_start sheet palette connected

/-- The switch of the built-in sheet is flipped by a key and then by the pointer. -/
theorem switches_alternate_builtIn :
    let app := start .builtIn .dracula true
    let moves : List Move :=
      [.frame 60 12, .event ⟨0, 0, 0⟩ (.key (.plain .down)),
        .frame 60 12, .event ⟨0, 0, 1⟩ (.key (.plain .down)),
        .frame 60 12, .event ⟨0, 0, 2⟩ (.key (.plain .down)),
        .frame 60 12, .event ⟨0, 0, 3⟩ (.key (.plain (.char ' '))),
        .frame 60 12, .event ⟨0, 0, 4⟩ (.pointer ⟨.press, 37, 5⟩)]
    Sheet.builtIn.Accepted ∧ moves.IsChain Separated ∧ app.activations none 3 moves = 2 ∧
      app.committedValues "muted" moves = [.bool true, .bool false] := by
  intro app moves
  have hseparated : moves.IsChain Separated := by
    simp [moves, Separated, Move.event?]
  have hactivations : app.activations none 3 moves = 2 := by decide
  have hvalues := (switches_alternate .builtIn .dracula true hseparated).2 3 _ rfl rfl
  rw [hactivations] at hvalues
  exact ⟨.builtIn, hseparated, hactivations, hvalues⟩

end App
end DevicePanel
