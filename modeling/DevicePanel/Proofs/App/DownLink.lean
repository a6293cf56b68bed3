import DevicePanel.Proofs.App.Run

/-!
# The link is down

While the link is down events still move the selection and the focus, and the link can be
brought up again.  But no event asks for a commit, and
neither a committed value nor a draft changes.
-/

namespace DevicePanel
namespace App

/-- Without the link an event touches no entry, and its only effects are commands. -/
theorem handle_of_down {app : App} (down : app.connected = false) (event : Event) :
    (app.handle event).1.panel.entries = app.panel.entries ∧
      ∀ effect ∈ (app.handle event).2, effect = .toggleLink ∨ effect = .quit := by
  rcases app.handle_cases event with ⟨effect, heffect, hhandle⟩ | ⟨result, houtcome, hhandle⟩
  · rw [hhandle]
    refine ⟨rfl, fun effect' hmem => ?_⟩
    rw [List.mem_singleton.mp hmem]
    exact heffect
  · rw [down] at houtcome
    obtain ⟨hentries, hnone⟩ := houtcome.of_down
    rw [hhandle, ofPanel, hnone]
    refine ⟨hentries, fun effect hmem => ?_⟩
    cases hmem

theorem entries_step_of_down {app : App} (down : app.connected = false) (now : TimeOfDay)
    (event : Event) : (app.step now event).panel.entries = app.panel.entries := by
  obtain ⟨hentries, hcommands⟩ := handle_of_down down event
  exact entries_step_of_untouched hentries hcommands now

/-- As long as the link is down a run changes no entry. -/
theorem entries_run_of_down {app : App} {moves : List Move}
    (down : ∀ before, before <+: moves → (app.run before).connected = false) :
    (app.run moves).panel.entries = app.panel.entries := by
  induction moves generalizing app with
  | nil => rfl
  | cons m moves ih =>
      have hmove : (app.move m).panel.entries = app.panel.entries := by
        cases m with
        | event now e => exact entries_step_of_down (down [] List.nil_prefix) now e
        | frame width height => exact app.entries_frame width height
      have htail : ((app.move m).run moves).panel.entries = (app.move m).panel.entries :=
        ih fun before hbefore =>
          down (m :: before) (List.cons_prefix_cons.mpr ⟨rfl, hbefore⟩)
      exact htail.trans hmove

/-- In every state in which the link is down, reachable or not, no event asks for a
commit, and the event with its effects leaves every committed value and every draft
exactly as they were.  So does a run for as long as the link stays down. -/
theorem down_link_blocks_edits {app : App} (down : app.connected = false) (now : TimeOfDay)
    (event : Event) :
    (∀ c, .commit c ∉ (app.handle event).2) ∧
      (app.handle event).1.panel.entries = app.panel.entries ∧
      (app.step now event).panel.entries = app.panel.entries ∧
      ∀ moves, (∀ before, before <+: moves → (app.run before).connected = false) →
        (app.run moves).panel.entries = app.panel.entries := by
  obtain ⟨hentries, hcommands⟩ := handle_of_down down event
  refine ⟨fun c hc => ?_, hentries, entries_step_of_down down now event,
    fun moves => entries_run_of_down⟩
  rcases hcommands _ hc with h | h <;> cases h

/-- The link of the built-in sheet is taken down while its first text is edited.  Neither
confirming nor pasting changes an entry then. -/
theorem down_link_blocks_edits_builtIn :
    let app := (start .builtIn .dracula true).run
      [.event ⟨0, 0, 0⟩ (.key (.plain .up)), .event ⟨0, 0, 1⟩ (.paste "lab"),
        .event ⟨0, 0, 2⟩ (.key ⟨.char 'l', { control := true }, .press⟩)]
    let moves : List Move := [.event ⟨0, 0, 3⟩ (.key (.plain .enter)), .frame 60 12,
      .event ⟨0, 0, 4⟩ (.paste "oratory")]
    app.connected = false ∧
      (∀ c, .commit c ∉ (app.handle (.key (.plain .enter))).2) ∧
      (app.handle (.key (.plain .enter))).1.panel.entries = app.panel.entries ∧
      (app.step ⟨0, 0, 3⟩ (.key (.plain .enter))).panel.entries = app.panel.entries ∧
      (∀ before, before <+: moves → (app.run before).connected = false) ∧
      (app.run moves).panel.entries = app.panel.entries := by
  intro app moves
  have hmoves : ∀ before, before <+: moves → (app.run before).connected = false := by
    intro before hbefore
    obtain ⟨n, hn, rfl⟩ : ∃ n ≤ 3, before = moves.take n :=
      ⟨before.length, hbefore.length_le, List.prefix_iff_eq_take.mp hbefore⟩
    have hcases : n = 0 ∨ n = 1 ∨ n = 2 ∨ n = 3 := by omega
    rcases hcases with rfl | rfl | rfl | rfl <;> rfl
  have down : app.connected = false := rfl
  obtain ⟨hnone, hhandle, hstep, hrun⟩ :=
    down_link_blocks_edits down ⟨0, 0, 3⟩ (.key (.plain .enter))
  exact ⟨down, hnone, hhandle, hstep, hmoves, hrun moves hmoves⟩

end App
end DevicePanel
