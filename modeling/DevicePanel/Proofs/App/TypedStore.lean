import DevicePanel.Proofs.App.Run
import DevicePanel.Proofs.Sheet.Accepted

/-!
# The committed values of a run

An entry is typed when it has a switch exactly for a boolean format, and its committed
value, if there is one, has the shape that the format asks for.  The parameters of an
accepted sheet start as typed entries.  The reactions of editors keep entries typed: a
switch gives booleans, and a text gives what the format reads from it or the value that
has been committed before.
-/

namespace DevicePanel

namespace Entry

/-- The draft and the committed value of an entry are those of its format. -/
structure Typed (e : Entry) : Prop where
  isSwitch : e.draft.isSwitch = e.parameter.format.isBoolean
  hasShape : ∀ v, e.parameter.value = some v → v.HasShape e.parameter.format

theorem typed_ofParameter {p : Parameter}
    (h : ∀ v, p.value = some v → v.HasShape p.format) : (ofParameter p).Typed where
  isSwitch := Draft.isSwitch_mount p.format p.value
  hasShape := h

/-- The value that comes out of a typed entry's editor has the shape of its format. -/
theorem Typed.hasShape_of_receive {e : Entry} (h : e.Typed) {connected : Bool}
    {focus : EditorFocus} {layout : EditorLayout} {event : EditorEvent} {v : Value}
    (hv : (e.draft.receive (e.props connected) focus layout event).2 = some v) :
    v.HasShape e.parameter.format := by
  rcases Draft.value_of_receive hv with ⟨on, hdraft, rfl⟩ | ⟨t, -, hread⟩
  · have hbool : e.parameter.format.isBoolean = true := by
      rw [← h.isSwitch, hdraft]
      rfl
    rw [eq_of_beq hbool]
    trivial
  · exact TextDraft.hasShape_of_read h.hasShape hread

/-- Reactions keep entries typed. -/
theorem kept_typed : Kept Typed := by
  intro e connected focus layout event h
  constructor
  · rw [draft_after, format_after, Draft.isSwitch_receive]
    exact h.isSwitch
  · intro v hv
    rw [value_after] at hv
    rw [format_after]
    rcases Option.or_eq_some_iff.mp hv with hnew | ⟨-, hold⟩
    · exact h.hasShape_of_receive hnew
    · exact h.hasShape v hold

end Entry

namespace App

/-- A property that the untouched entries of consistent parameters have holds at the
start. -/
theorem keeps_start {P : Entry → Prop} {sheet : Sheet}
    (h : Parameter.Consistent sheet.parameters)
    (hP : ∀ p ∈ sheet.parameters, P (.ofParameter p)) (palette : Palette)
    (connected : Bool) : Keeps P (start sheet palette connected) := by
  have hentries : (start sheet palette connected).panel.entries =
      sheet.parameters.map .ofParameter := rfl
  constructor
  · have hkeys : (sheet.parameters.map Entry.ofParameter).map Entry.key =
        sheet.parameters.map Parameter.key := List.map_map
    rw [hentries, hkeys]
    exact h.keys_nodup
  · intro entry hmem
    rw [hentries] at hmem
    obtain ⟨p, hp, rfl⟩ := List.mem_map.mp hmem
    exact hP p hp

theorem keeps_typed_start {sheet : Sheet} (h : Parameter.Consistent sheet.parameters)
    (palette : Palette) (connected : Bool) :
    Keeps Entry.Typed (start sheet palette connected) :=
  keeps_start h (fun p hp => Entry.typed_ofParameter (h.hasShape p hp)) palette connected

/-- The entries of an accepted sheet are typed after every run. -/
theorem keeps_typed_run {sheet : Sheet} (h : sheet.Accepted) (palette : Palette)
    (connected : Bool) (moves : List Move) :
    Keeps Entry.Typed ((start sheet palette connected).run moves) :=
  keeps_run Entry.kept_typed (keeps_typed_start h.consistent palette connected) moves

/-- After every run of an accepted sheet, a commit that an event asks for is under the
key of the entry that is selected, has a value of the entry's format, and is not dropped;
and every committed value has the shape of its declared format, so its own JSON is checked
to be that value. -/
theorem typed_store_of_run {sheet : Sheet} (h : sheet.Accepted) (palette : Palette)
    (connected : Bool) (moves : List Move) :
    let app := (start sheet palette connected).run moves
    app.panel.entries.map Entry.declaration =
        sheet.parameters.map (fun p => { p with value := none }) ∧
      (∀ event c, .commit c ∈ (app.handle event).2 →
        ∃ entry, app.panel.entry? = some entry ∧ c.key = entry.key ∧
          app.panel.find? c.key = some entry ∧ c.value.HasShape entry.parameter.format ∧
          ∃ panel, (app.handle event).1.panel.commit? c = some panel) ∧
      ∀ entry ∈ app.panel.entries, ∀ v, entry.parameter.value = some v →
        v.HasShape entry.parameter.format ∧ entry.parameter.format.check v.toJson = .ok v := by
  intro app
  have hstart := keeps_typed_start h.consistent palette connected
  have htyped : Keeps Entry.Typed app := keeps_typed_run h palette connected moves
  refine ⟨?_, ?_, ?_⟩
  · refine (declarations_run hstart.keys_nodup moves).trans ?_
    exact List.map_map
  · intro event c hc
    obtain ⟨entry, focus, layout, e, hselected, hkey, hvalue⟩ := entry_of_commit hc
    have hmem : entry ∈ app.panel.entries := Panel.mem_of_selected hselected
    refine ⟨entry, hselected, hkey, ?_, ?_, ?_⟩
    · rw [hkey]
      exact Panel.find?_of_nodup htyped.keys_nodup hmem
    · exact (htyped.holds entry hmem).hasShape_of_receive hvalue
    · apply Panel.exists_commit?
      rw [keys_handle, hkey]
      exact List.mem_map_of_mem hmem
  · intro entry hmem v hv
    have hshape := (htyped.holds entry hmem).hasShape v hv
    exact ⟨hshape, (Format.check_toJson_iff _ v).mpr hshape⟩

/-- The switch of the built-in sheet is flipped after a frame. -/
theorem typed_store_of_run_builtIn :
    Sheet.builtIn.Accepted ∧
      let app := (start .builtIn .dracula true).run
        [.event ⟨0, 0, 0⟩ (.key (.plain .down)), .event ⟨0, 0, 1⟩ (.key (.plain .down)),
          .event ⟨0, 0, 2⟩ (.key (.plain .down)), .frame 60 12]
      ∃ entry, app.panel.entry? = some entry ∧ "muted" = entry.key ∧
        app.panel.find? "muted" = some entry ∧
        (Value.bool true).HasShape entry.parameter.format ∧
        ∃ panel, (app.handle (.key (.plain .enter))).1.panel.commit? ⟨"muted", .bool true⟩ =
          some panel := by
  refine ⟨.builtIn, ?_⟩
  have hrun := typed_store_of_run .builtIn .dracula true
    [.event ⟨0, 0, 0⟩ (.key (.plain .down)), .event ⟨0, 0, 1⟩ (.key (.plain .down)),
      .event ⟨0, 0, 2⟩ (.key (.plain .down)), .frame 60 12]
  exact hrun.2.1 (.key (.plain .enter)) ⟨"muted", .bool true⟩ (List.mem_singleton.mpr rfl)

end App

end DevicePanel
