import DevicePanel.App.Draw
import DevicePanel.Proofs.Panel.Event

/-!
# Runs of the application

A run is a finite sequence of moves: events, each followed by its effects, and frames.
Frames leave the entries alone.  An event leaves them alone too, or the editor of the
selected entry reacts to it and that entry takes over the draft and the value that come
out.  For the latter the keys have to be distinct, as those of a sheet are: a commit goes
to every entry under its key.

So a property of entries that every reaction keeps is kept by whole runs.
-/

namespace DevicePanel

namespace Entry

/-- What is declared of an entry's parameter. -/
def declaration (e : Entry) : Parameter := { e.parameter with value := none }

/-- The entry after a reaction of its editor: it has the new draft, and the value that
came out is committed. -/
def after (e : Entry) (reaction : Draft × Option Value) : Entry :=
  match reaction.2 with
  | some value => { e with draft := reaction.1 }.commit value
  | none => { e with draft := reaction.1 }

@[simp] theorem key_after (e : Entry) (r : Draft × Option Value) :
    (e.after r).key = e.key := by
  rcases r with ⟨d, _ | v⟩ <;> rfl

@[simp] theorem format_after (e : Entry) (r : Draft × Option Value) :
    (e.after r).parameter.format = e.parameter.format := by
  rcases r with ⟨d, _ | v⟩ <;> rfl

@[simp] theorem declaration_after (e : Entry) (r : Draft × Option Value) :
    (e.after r).declaration = e.declaration := by
  rcases r with ⟨d, _ | v⟩ <;> rfl

@[simp] theorem draft_after (e : Entry) (r : Draft × Option Value) :
    (e.after r).draft = r.1 := by
  rcases r with ⟨d, _ | v⟩ <;> rfl

theorem value_after (e : Entry) (r : Draft × Option Value) :
    (e.after r).parameter.value = r.2.or e.parameter.value := by
  rcases r with ⟨d, _ | v⟩ <;> rfl

/-- A property of entries that the reactions of their editors keep. -/
def Kept (P : Entry → Prop) : Prop :=
  ∀ e connected focus layout event, P e →
    P (e.after (e.draft.receive (e.props connected) focus layout event))

end Entry

namespace App

/-- The moves of a run. -/
inductive Move where
  /-- An event arrives, and its effects are applied at a time. -/
  | event (now : TimeOfDay) (e : Event)
  /-- A frame is drawn. -/
  | frame (width height : Nat)

def move (app : App) : Move → App
  | .event now e => app.step now e
  | .frame width height => (app.frame width height).1

/-- The application after the moves of a run. -/
def run (app : App) (moves : List Move) : App := moves.foldl move app

/-- What every move keeps is kept by runs. -/
theorem run_induction {P : App → Prop} (hmove : ∀ app m, P app → P (app.move m))
    {app : App} (h : P app) (moves : List Move) : P (app.run moves) := by
  induction moves generalizing app with
  | nil => exact h
  | cons m moves ih => exact ih (hmove app m h)

theorem handle_of_press {e : KeyEvent} (h : e.action = .press) (app : App) :
    app.handle (.key e) = app.key e := by
  rw [handle, h]
  rfl

/-- A press that is no command of the application is a key for its panel. -/
theorem handle_of_not_command {e : KeyEvent} (press : e.action = .press)
    (h : command? e = none) (app : App) :
    app.handle (.key e) = app.ofPanel (app.panel.key app.connected e) := by
  rw [handle_of_press press, key, h]

theorem step_eq (app : App) (now : TimeOfDay) (event : Event) :
    app.step now event = (app.handle event).1.apply now (app.handle event).2 := rfl

/-! ## Moves and entries -/

theorem entries_frame (app : App) (width height : Nat) :
    (app.frame width height).1.panel.entries = app.panel.entries := by
  have hsettle : app.settle.panel.entries = app.panel.entries := by
    rw [settle]
    dsimp only
    split <;> rfl
  have hscrolled : ∀ (p : Panel) (inner : Rect), (p.scrolled inner).entries = p.entries := by
    intro p inner
    rw [Panel.scrolled]
    split <;> rfl
  rw [← hsettle]
  exact hscrolled app.settle.panel _

/-- The commands of the application are no commits. -/
theorem eq_of_command? {e : KeyEvent} {effect : Effect} (h : command? e = some effect) :
    effect = .toggleLink ∨ effect = .quit := by
  rw [command?] at h
  split at h
  · cases h
  · split at h <;> cases h
    · exact .inr rfl
    · exact .inr rfl
    · exact .inl rfl

/-- The effects of an event are a command of the application, or what its panel asks
for. -/
theorem handle_cases (app : App) (event : Event) :
    (∃ effect, (effect = .toggleLink ∨ effect = .quit) ∧
        app.handle event = (app, [effect])) ∨
      ∃ result, Panel.Outcome app.panel app.connected result ∧
        app.handle event = app.ofPanel result := by
  cases event with
  | key e =>
      rw [handle]
      split
      · rw [key]
        split
        next effect hcommand => exact .inl ⟨effect, eq_of_command? hcommand, rfl⟩
        · exact .inr ⟨_, app.panel.outcome_key app.connected e, rfl⟩
      · exact .inr ⟨(app.panel, none), .untouched rfl rfl, rfl⟩
  | pointer e => exact .inr ⟨_, app.panel.outcome_pointer app.connected e, rfl⟩
  | paste pasted => exact .inr ⟨_, app.panel.outcome_paste app.connected pasted, rfl⟩
  | resize | focusGained | focusLost =>
      exact .inr ⟨(app.panel, none), .untouched rfl rfl, rfl⟩

/-- Input keeps what an entry has apart from its draft, and whether that is a switch. -/
theorem map_handle {α : Type} {g : Entry → α}
    (hg : ∀ e d, d.isSwitch = e.draft.isSwitch → g { e with draft := d } = g e) (app : App)
    (event : Event) :
    (app.handle event).1.panel.entries.map g = app.panel.entries.map g := by
  rcases app.handle_cases event with ⟨effect, -, hhandle⟩ | ⟨result, houtcome, hhandle⟩
  · rw [hhandle]
  · rw [hhandle]
    exact houtcome.map_eq hg

theorem keys_handle (app : App) (event : Event) :
    (app.handle event).1.panel.entries.map Entry.key = app.panel.entries.map Entry.key :=
  map_handle (fun _ _ _ => rfl) app event

/-- A commit that an event asks for comes out of the editor of the selected entry, under
the key of that entry. -/
theorem entry_of_commit {app : App} {event : Event} {c : Commit}
    (h : .commit c ∈ (app.handle event).2) :
    ∃ entry focus layout e, app.panel.entry? = some entry ∧ c.key = entry.key ∧
      (entry.draft.receive (entry.props app.connected) focus layout e).2 = some c.value := by
  rcases app.handle_cases event with ⟨effect, heffect, hhandle⟩ | ⟨result, houtcome, hhandle⟩
  · rw [hhandle, List.mem_singleton] at h
    rcases heffect with rfl | rfl <;> cases h
  · rw [hhandle] at h
    have hmem : .commit c ∈ (result.2.map Effect.commit).toList := h
    rw [Option.mem_toList, Option.map_eq_some_iff] at hmem
    obtain ⟨c', hc, heq⟩ := hmem
    cases heq
    exact houtcome.entry_of_commit hc

/-- Commands leave the panel alone. -/
theorem panel_apply {effects : List Effect}
    (h : ∀ effect ∈ effects, effect = .toggleLink ∨ effect = .quit) (app : App)
    (now : TimeOfDay) : (app.apply now effects).panel = app.panel := by
  induction effects generalizing app with
  | nil => rfl
  | cons effect effects ih =>
      have hhead : (applyEffect now app effect).panel = app.panel := by
        rcases h effect List.mem_cons_self with rfl | rfl <;> rfl
      have htail := ih (fun e he => h e (List.mem_cons_of_mem effect he))
        (applyEffect now app effect)
      exact htail.trans hhead

/-- An event that touches no entry and asks for commands only changes no entry. -/
theorem entries_step_of_untouched {app : App} {event : Event}
    (entries : (app.handle event).1.panel.entries = app.panel.entries)
    (commands : ∀ effect ∈ (app.handle event).2, effect = .toggleLink ∨ effect = .quit)
    (now : TimeOfDay) : (app.step now event).panel.entries = app.panel.entries := by
  have hpanel := panel_apply commands (app.handle event).1 now
  rw [step, hpanel]
  exact entries

/-- A commit under the key of an entry is applied to that entry. -/
theorem entries_commit {app : App} (hkeys : (app.panel.entries.map Entry.key).Nodup)
    {i : Nat} {entry : Entry} (h : app.panel.entries[i]? = some entry) (now : TimeOfDay)
    (v : Value) :
    (app.commit now ⟨entry.key, v⟩).panel.entries =
      app.panel.entries.set i (entry.commit v) := by
  have hcommit := Panel.commit?_of_nodup hkeys h v
  rw [App.commit]
  split
  next panel hpanel =>
    cases hcommit.symm.trans hpanel
    rfl
  next hpanel => cases hcommit.symm.trans hpanel

/-- The one commit that an event asks for is applied to an entry under its key, which is
found as the event has left it. -/
theorem entries_step_of_commit {app : App} {event : Event}
    (hkeys : (app.panel.entries.map Entry.key).Nodup) {i : Nat} {entry : Entry} {v : Value}
    (found : (app.handle event).1.panel.entries[i]? = some entry)
    (commit : (app.handle event).2 = [.commit ⟨entry.key, v⟩]) (now : TimeOfDay) :
    (app.step now event).panel.entries =
      (app.handle event).1.panel.entries.set i (entry.commit v) := by
  have hkept : ((app.handle event).1.panel.entries.map Entry.key).Nodup := by
    rw [keys_handle]
    exact hkeys
  rw [step_eq, commit]
  exact entries_commit hkept found now v

/-- Where the keys are distinct, an event changes the entries at most by a reaction of
the selected one. -/
theorem entries_step {app : App} (hkeys : (app.panel.entries.map Entry.key).Nodup)
    (now : TimeOfDay) (event : Event) :
    (app.step now event).panel.entries = app.panel.entries ∨
      ∃ i entry focus layout e, app.panel.selected = some i ∧
        app.panel.entries[i]? = some entry ∧
        (app.step now event).panel.entries = app.panel.entries.set i
          (entry.after (entry.draft.receive (entry.props app.connected) focus layout e)) := by
  rcases app.handle_cases event with ⟨effect, heffect, hhandle⟩ | ⟨result, houtcome, hhandle⟩
  · rw [step, hhandle]
    rcases heffect with rfl | rfl <;> exact .inl rfl
  cases houtcome with
  | untouched entries commit =>
      rw [step, hhandle, ofPanel, commit]
      exact .inl entries
  | @received i entry d value focus layout e selected found reaction entries commit =>
      refine .inr ⟨i, entry, focus, layout, e, selected, found, ?_⟩
      rw [reaction]
      cases value with
      | none =>
          rw [step, hhandle, ofPanel, commit]
          exact entries
      | some v =>
          -- The commit meets the entry with its new draft, still under the same key.
          have hentries : (app.handle event).1.panel.entries =
              app.panel.entries.set i { entry with draft := d } := by
            rw [hhandle]
            exact entries
          have hfound : (app.handle event).1.panel.entries[i]? =
              some { entry with draft := d } := by
            rw [hentries]
            exact Panel.found_set found _
          have hcommit : (app.handle event).2 = [.commit ⟨entry.key, v⟩] := by
            rw [hhandle, ofPanel, commit]
            rfl
          rw [entries_step_of_commit hkeys hfound hcommit, hentries, List.set_set]
          rfl

/-- Where the keys are distinct, a move changes the entries at most by a reaction of one
of them. -/
theorem entries_move {app : App} (hkeys : (app.panel.entries.map Entry.key).Nodup)
    (m : Move) :
    (app.move m).panel.entries = app.panel.entries ∨
      ∃ i entry focus layout e, app.panel.entries[i]? = some entry ∧
        (app.move m).panel.entries = app.panel.entries.set i
          (entry.after (entry.draft.receive (entry.props app.connected) focus layout e)) := by
  cases m with
  | event now e =>
      rcases entries_step hkeys now e with hsame | ⟨i, entry, focus, layout, e', -, hreaction⟩
      · exact .inl hsame
      · exact .inr ⟨i, entry, focus, layout, e', hreaction⟩
  | frame width height => exact .inl (app.entries_frame width height)

/-- Where the keys are distinct, a move keeps them. -/
theorem keys_move {app : App} (hkeys : (app.panel.entries.map Entry.key).Nodup) (m : Move) :
    (app.move m).panel.entries.map Entry.key = app.panel.entries.map Entry.key := by
  rcases entries_move hkeys m with hsame | ⟨i, entry, _, _, _, hfound, hset⟩
  · rw [hsame]
  · rw [hset, Panel.map_set_of_eq Entry.key hfound (by simp)]

/-! ## Properties of entries -/

/-- The keys of the entries are distinct, and all entries have a property. -/
structure Keeps (P : Entry → Prop) (app : App) : Prop where
  keys_nodup : (app.panel.entries.map Entry.key).Nodup
  holds : ∀ entry ∈ app.panel.entries, P entry

theorem keeps_of_entries_eq {P : Entry → Prop} {app app' : App}
    (h : app'.panel.entries = app.panel.entries) (hP : Keeps P app) : Keeps P app' := by
  constructor
  · rw [h]
    exact hP.keys_nodup
  · rw [h]
    exact hP.holds

/-- What every reaction keeps is kept by every move. -/
theorem keeps_move {P : Entry → Prop} (hkept : Entry.Kept P) (app : App) (m : Move)
    (h : Keeps P app) : Keeps P (app.move m) := by
  rcases entries_move h.keys_nodup m with hsame | ⟨i, entry, focus, layout, e, hfound, hset⟩
  · exact keeps_of_entries_eq hsame h
  · constructor
    · rw [keys_move h.keys_nodup]
      exact h.keys_nodup
    · intro changed hmem
      rw [hset] at hmem
      rcases List.mem_or_eq_of_mem_set hmem with hmem | rfl
      · exact h.holds changed hmem
      · exact hkept entry _ _ _ _ (h.holds entry (List.mem_of_getElem? hfound))

/-- What every reaction keeps is kept by runs. -/
theorem keeps_run {P : Entry → Prop} (hkept : Entry.Kept P) {app : App} (h : Keeps P app)
    (moves : List Move) : Keeps P (app.run moves) :=
  run_induction (keeps_move hkept) h moves

/-- A run changes nothing that is declared of the parameters. -/
theorem declarations_run {app : App} (hkeys : (app.panel.entries.map Entry.key).Nodup)
    (moves : List Move) :
    (app.run moves).panel.entries.map Entry.declaration =
      app.panel.entries.map Entry.declaration := by
  refine (run_induction (P := fun app' =>
    (app'.panel.entries.map Entry.key).Nodup ∧
      app'.panel.entries.map Entry.declaration = app.panel.entries.map Entry.declaration)
    ?_ ⟨hkeys, rfl⟩ moves).2
  rintro app' m ⟨hkeys', hsame⟩
  rcases entries_move hkeys' m with hentries | ⟨i, entry, focus, layout, e, hfound, hset⟩
  · rw [hentries]
    exact ⟨hkeys', hsame⟩
  · rw [keys_move hkeys', hset, Panel.map_set_of_eq Entry.declaration hfound (by simp)]
    exact ⟨hkeys', hsame⟩

/-! ## What a run asks for -/

/-- The event that a move brings. -/
def Move.event? : Move → Option Event
  | .event _ e => some e
  | .frame _ _ => none

/-- The effects that a move asks for. -/
def requests (app : App) : Move → List Effect
  | .event _ e => (app.handle e).2
  | .frame _ _ => []

/-- The effects that the events of a run ask for, in their order. -/
def effects (app : App) : List Move → List Effect
  | [] => []
  | m :: moves => app.requests m ++ effects (app.move m) moves

end App

end DevicePanel
