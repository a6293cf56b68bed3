import DevicePanel.Proofs.App.EffectLog
import DevicePanel.Proofs.App.Frame

/-!
# The focus is on a live control

Every entry has controls, but only the list and the controls of the selected entry are
live, and of a switch only the switch itself.  Once a frame has been drawn, the flags of a
library that keeps the focus single out one live control: after every later event and every
later frame one flag is set, and it is that of a live control.

The library is any that does what is assumed of its calls.  The application asks it for what
its events and frames ask the focus of the panel for, and the two agree all along, so the
application could read the flags instead.
-/

namespace DevicePanel
namespace Panel

/-- The controls that may have the focus. -/
inductive IsLive (p : Panel) : Control → Prop
  | list : p.IsLive .list
  | input {i : Nat} {e : Entry} (selected : p.selected = some i)
      (found : p.entries[i]? = some e) : p.IsLive (.editor i .input)
  | confirm {i : Nat} {e : Entry} (selected : p.selected = some i)
      (found : p.entries[i]? = some e) (textual : e.parameter.format ≠ .bool) :
      p.IsLive (.editor i .confirm)

variable {p : Panel}

/-- Where exactly the boolean entries have switches, the controls of a panel are live. -/
theorem isLive_of_mem_controls
    (kinds : ∀ e ∈ p.entries, e.draft.isSwitch = e.parameter.format.isBoolean) {c : Control}
    (h : c ∈ p.controls) : p.IsLive c := by
  cases hentry : p.entry? with
  | none =>
      rw [controls_of_none hentry, List.mem_singleton] at h
      rw [h]
      exact .list
  | some e =>
      obtain ⟨i, hselected, hfound⟩ := Option.bind_eq_some_iff.mp hentry
      rw [controls, hselected, hentry] at h
      dsimp only at h
      split at h
      · simp only [List.mem_cons, List.not_mem_nil, or_false] at h
        rcases h with rfl | rfl
        · exact .list
        · exact .input hselected hfound
      next htext =>
        simp only [List.mem_cons, List.not_mem_nil, or_false] at h
        rcases h with rfl | rfl | rfl
        · exact .list
        · exact .input hselected hfound
        · refine .confirm hselected hfound ?_
          intro hbool
          rw [kinds e (List.mem_of_getElem? hfound), hbool] at htext
          exact htext rfl

end Panel

namespace App

variable {app : App}

/-! ## Entries stay of their kinds -/

theorem kinds_apply (app : App) (now : TimeOfDay) (effects : List Effect) :
    (app.apply now effects).panel.entries.map Entry.kind =
      app.panel.entries.map Entry.kind := by
  rw [panel_apply_eq, List.map_map]
  rfl

theorem kinds_handle (app : App) (event : Event) :
    (app.handle event).1.panel.entries.map Entry.kind = app.panel.entries.map Entry.kind :=
  map_handle (fun e _ hswitch => congrArg (Prod.mk e.parameter.format) hswitch) app event

theorem kinds_move (app : App) (m : Move) :
    (app.move m).panel.entries.map Entry.kind = app.panel.entries.map Entry.kind := by
  cases m with
  | event now e => rw [move, step_eq, kinds_apply, kinds_handle]
  | frame width height => rw [move, entries_frame]

/-- The untouched entries of a sheet have switches for the boolean formats. -/
theorem kinds_start (sheet : Sheet) (palette : Palette) (connected : Bool) :
    (start sheet palette connected).panel.entries.map Entry.kind =
      sheet.parameters.map fun p => (p.format, p.format.isBoolean) := by
  have hkind : ∀ p : Parameter,
      (Entry.ofParameter p).kind = (p.format, p.format.isBoolean) := fun p =>
    congrArg (Prod.mk p.format) (Draft.isSwitch_mount p.format p.value)
  have hentries : (start sheet palette connected).panel.entries =
      sheet.parameters.map .ofParameter := rfl
  rw [hentries, List.map_map]
  exact List.map_congr_left fun p _ => hkind p

/-- Whatever the sheet, exactly the boolean entries have switches, and this stays so. -/
theorem isSwitch_run (sheet : Sheet) (palette : Palette) (connected : Bool)
    (moves : List Move) :
    ∀ e ∈ ((start sheet palette connected).run moves).panel.entries,
      e.draft.isSwitch = e.parameter.format.isBoolean := by
  have hkinds : ((start sheet palette connected).run moves).panel.entries.map Entry.kind =
      sheet.parameters.map fun p => (p.format, p.format.isBoolean) := by
    refine run_induction (P := fun app => app.panel.entries.map Entry.kind =
      sheet.parameters.map fun p => (p.format, p.format.isBoolean)) ?_
      (kinds_start sheet palette connected) moves
    intro app m h
    rw [kinds_move, h]
  intro e he
  have hmem : e.kind ∈ sheet.parameters.map fun p => (p.format, p.format.isBoolean) :=
    hkinds ▸ List.mem_map_of_mem he
  obtain ⟨p, -, hp⟩ := List.mem_map.mp hmem
  have hformat : p.format = e.parameter.format := congrArg Prod.fst hp
  have hswitch : p.format.isBoolean = e.draft.isSwitch := congrArg Prod.snd hp
  rw [← hswitch, hformat]

/-! ## What the application asks its focus for -/

def handleCalls (app : App) : Event → List Focus.Call
  | .key e =>
      if e.action == .press && (command? e).isNone then app.panel.keyCalls e else []
  | .pointer e => app.panel.pointerCalls e
  | .paste _ | .resize | .focusGained | .focusLost => []

def settleCalls (app : App) : List Focus.Call :=
  .rebuild app.panel.controls ::
    if app.panel.rebuildFocus.focus.current.isNone then [.focus .list] else []

def moveCalls (app : App) : Move → List Focus.Call
  | .event _ e => app.handleCalls e
  | .frame _ _ => app.settleCalls

def runCalls (app : App) : List Move → List Focus.Call
  | [] => []
  | m :: moves => app.moveCalls m ++ runCalls (app.move m) moves

theorem follows_handle (app : App) (event : Event) :
    app.panel.Follows (app.handleCalls event) (app.handle event).1.panel := by
  cases event with
  | key e =>
      rw [handle, handleCalls]
      cases hpress : e.action == .press with
      | false => exact app.panel.follows_refl
      | true =>
          rw [if_pos rfl, key]
          cases hcommand : command? e with
          | some effect => exact app.panel.follows_refl
          | none => exact app.panel.follows_key app.connected e
  | pointer e => exact app.panel.follows_pointer app.connected e
  | paste pasted => exact app.panel.follows_paste app.connected pasted
  | resize | focusGained | focusLost => exact app.panel.follows_refl

theorem focus_apply (app : App) (now : TimeOfDay) (effects : List Effect) :
    (app.apply now effects).panel.focus = app.panel.focus := by
  rw [panel_apply_eq]

theorem selected_apply (app : App) (now : TimeOfDay) (effects : List Effect) :
    (app.apply now effects).panel.selected = app.panel.selected := by
  rw [panel_apply_eq]

theorem follows_step (app : App) (now : TimeOfDay) (event : Event) :
    app.panel.Follows (app.handleCalls event) (app.step now event).panel := by
  have hhandle := app.follows_handle event
  rw [step_eq]
  refine ⟨(focus_apply _ _ _).trans hhandle.focus, hhandle.allowed, fun h => ?_⟩
  exact (hhandle.anchored h).congr (focus_apply _ _ _) (selected_apply _ _ _)
    (kinds_apply _ _ _)

theorem focus_frame_eq (app : App) (width height : Nat) :
    (app.frame width height).1.panel.focus =
      app.settleCalls.foldl Focus.call app.panel.focus := by
  rw [focus_frame, settle, settleCalls]
  dsimp only
  split <;> rfl

theorem allowsAll_settleCalls (app : App) : app.panel.focus.AllowsAll app.settleCalls := by
  refine ⟨app.panel.nodup_controls, ?_⟩
  split
  · exact ⟨trivial, trivial⟩
  · trivial

theorem follows_move (app : App) (m : Move) :
    app.panel.Follows (app.moveCalls m) (app.move m).panel := by
  cases m with
  | event now e => exact app.follows_step now e
  | frame width height =>
      exact ⟨app.focus_frame_eq width height, fun _ => app.allowsAll_settleCalls,
        fun _ => app.anchored_frame width height⟩

/-! ## The flags of a library -/

variable {σ : Type} {lib : FlagTree σ} {s : σ}

/-- A library that is asked for the same as the focus of an anchored panel agrees with it,
and the panel stays anchored. -/
theorem agrees_run (lawful : lib.Lawful) (agrees : lib.Agrees s app.panel.focus)
    (anchored : app.panel.Anchored) (moves : List Move) :
    lib.Agrees (lib.after s (app.runCalls moves)) (app.run moves).panel.focus ∧
      (app.run moves).panel.Anchored := by
  induction moves generalizing app s with
  | nil => exact ⟨agrees, anchored⟩
  | cons m moves ih =>
      have hmove := app.follows_move m
      have hagrees : lib.Agrees (lib.after s (app.moveCalls m)) (app.move m).panel.focus := by
        rw [hmove.focus]
        exact agrees.after lawful (hmove.allowed anchored)
      rw [runCalls, lib.after_append]
      exact ih hagrees (hmove.anchored anchored)

/-- In every run of any sheet that begins with a frame, one flag is set after every event
and every frame, and it is that of a live control: the list, or the field or switch of the
selected entry, or its button, which boolean entries do not have.  The flags are those that
the application takes its decisions by.  The library is any that does what is assumed of its
calls. -/
theorem one_live_focus (lawful : lib.Lawful) (fresh : lib.Fresh s) (sheet : Sheet)
    (palette : Palette) (connected : Bool) (width height : Nat) (moves : List Move) :
    let first := start sheet palette connected
    let drawn := Move.frame width height :: moves
    let panel := (first.run drawn).panel
    let flags := lib.isSet
      (lib.after s (.rebuild first.panel.controls :: first.runCalls drawn))
    (∃ c, panel.IsLive c ∧ FlagTree.Only flags c) ∧ ∀ c, flags c = panel.focus.isOn c := by
  intro first drawn panel flags
  have hstart : lib.Agrees (lib.call s (.rebuild first.panel.controls)) first.panel.focus :=
    (FlagTree.Agrees.fresh fresh).rebuild lawful first.panel.nodup_controls
  have hframe : lib.Agrees
      (lib.after (lib.call s (.rebuild first.panel.controls)) first.settleCalls)
      (first.frame width height).1.panel.focus := by
    rw [focus_frame_eq]
    exact hstart.after lawful first.allowsAll_settleCalls
  obtain ⟨hagrees, hanchored⟩ :=
    agrees_run lawful hframe (first.anchored_frame width height) moves
  rw [← lib.after_append] at hagrees
  obtain ⟨c, hmem, hc⟩ := hanchored.focused
  have hkinds := isSwitch_run sheet palette connected drawn
  exact ⟨⟨c, Panel.isLive_of_mem_controls hkinds hmem, hagrees.only hc⟩, hagrees.isSet⟩

/-- On the built-in sheet the field of the first parameter gets the focus with Up and its
button with Tab; after Down, without a frame in between, the focus is in the field of the
second parameter. -/
theorem one_live_focus_builtIn :
    let first := start .builtIn .dracula true
    let key (k : Key) : Move := .event ⟨0, 0, 0⟩ (.key (.plain k))
    let drawn : List Move := [.frame 60 12, key .up, .frame 60 12, key .tab, key .down]
    let panel := (first.run drawn).panel
    let flags := FlagTree.ofFocus.isSet
      (FlagTree.ofFocus.after {} (.rebuild first.panel.controls :: first.runCalls drawn))
    FlagTree.ofFocus.Fresh {} ∧ panel.focus.current = some (.editor 1 .input) ∧
      panel.IsLive (.editor 1 .input) ∧ FlagTree.Only flags (.editor 1 .input) := by
  intro first key drawn panel flags
  have hfresh : FlagTree.ofFocus.Fresh {} := ⟨rfl, fun _ => rfl⟩
  have hcurrent : panel.focus.current = some (.editor 1 .input) := by decide +kernel
  have hall := one_live_focus FlagTree.lawful_ofFocus hfresh .builtIn .dracula true 60 12
    [key .up, .frame 60 12, key .tab, key .down]
  dsimp only [flags, panel, drawn, first] at hcurrent ⊢
  obtain ⟨⟨c, hlive, honly⟩, hflags⟩ := hall
  have hc : .editor 1 .input = c := by
    rw [← honly, hflags, Focus.isOn_eq_true_iff, hcurrent]
  subst hc
  exact ⟨hfresh, hcurrent, hlive, honly⟩
end App
end DevicePanel
