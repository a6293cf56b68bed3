import DevicePanel.Proofs.App.TypedStore
import DevicePanel.Proofs.Value.Numeric

/-!
# Commits of numeric parameters

A numeric parameter commits what has been typed, or again what is committed already.  The
numeric pattern is asked only about typed text, and a typed number of more than 64 bits
becomes a float.  So the text of a committed number is accepted by the pattern under one
condition for each way, and each condition is necessary.
-/

namespace DevicePanel
namespace App

/-- The number that a numeric entry would commit is written as its pattern asks: digits
that have been typed stand for a number of 64 bits, and a number that is committed again
is a natural number. -/
def CommitsDigits (entry : Entry) (t : TextDraft) : Prop :=
  if t.edited then
    Json.digitsValue (Text.trim t.buffer.text).toList < 18446744073709551616
  else ∃ n, entry.parameter.value = some (.number n) ∧ n.toNat?.isSome = true

theorem accepts_display_of_read {entry : Entry} (htyped : entry.Typed)
    (hnumeric : entry.parameter.format.IsNumeric) {t : TextDraft} {v : Value}
    (h : t.read entry.parameter.format entry.parameter.value = .ok v) :
    entry.parameter.format.accepts v.display = true ↔ CommitsDigits entry t := by
  rw [CommitsDigits]
  cases hedited : t.edited with
  | true =>
      rw [TextDraft.read_of_edited hedited] at h
      rw [if_pos rfl]
      exact Format.accepts_display_of_parse hnumeric h
  | false =>
      have hvalue : entry.parameter.value = some v := by
        have hread := TextDraft.read_of_idle hedited entry.parameter.format entry.parameter.value
        rw [h] at hread
        exact hread.symm
      obtain ⟨n, rfl⟩ := (htyped.hasShape v hvalue).exists_number hnumeric
      rw [Format.accepts_display_iff hnumeric, if_neg Bool.false_ne_true]
      constructor
      · intro hn
        exact ⟨n, hvalue, hn⟩
      · rintro ⟨m, hm, hn⟩
        rw [hvalue] at hm
        cases hm
        exact hn

/-- After every run of an accepted sheet, the number that an event commits for a numeric
parameter is accepted by the pattern of its format exactly if its digits were typed and
stand for a number of 64 bits, or if it is committed again and is a natural number. -/
theorem numeric_commit_accepted_iff {sheet : Sheet} (h : sheet.Accepted) (palette : Palette)
    (connected : Bool) (moves : List Move) :
    let app := (start sheet palette connected).run moves
    ∀ event c, .commit c ∈ (app.handle event).2 →
      ∀ entry, app.panel.find? c.key = some entry → entry.parameter.format.IsNumeric →
        ∃ t, entry.draft = .text t ∧
          (entry.parameter.format.accepts c.value.display = true ↔ CommitsDigits entry t) := by
  intro app event c hc entry hfound hnumeric
  have hkeeps : Keeps Entry.Typed app := keeps_typed_run h palette connected moves
  obtain ⟨selected, focus, layout, e, hselected, hkey, hvalue⟩ := entry_of_commit hc
  have hmem : selected ∈ app.panel.entries := Panel.mem_of_selected hselected
  have hsame : selected = entry := by
    rw [hkey, Panel.find?_of_nodup hkeeps.keys_nodup hmem] at hfound
    exact Option.some.inj hfound
  subst hsame
  have htyped : selected.Typed := hkeeps.holds selected hmem
  rcases Draft.value_of_receive hvalue with ⟨on, hdraft, -⟩ | ⟨t, hdraft, hread⟩
  · have hswitch : selected.draft.isSwitch = false :=
      htyped.isSwitch.trans hnumeric.isBoolean_eq_false
    rw [hdraft] at hswitch
    cases hswitch
  · exact ⟨t, hdraft, accepts_display_of_read htyped hnumeric hread⟩

/-- A number is typed over the configured one of the built-in sheet. -/
theorem numeric_commit_accepted_iff_typed :
    Sheet.builtIn.Accepted ∧
      let app := (start .builtIn .dracula true).run
        [.event ⟨0, 0, 0⟩ (.key (.plain .down)), .event ⟨0, 0, 1⟩ (.key (.plain .down)),
          .event ⟨0, 0, 2⟩ (.paste "512")]
      ∃ c entry t, .commit c ∈ (app.handle (.key (.plain .enter))).2 ∧
        app.panel.find? c.key = some entry ∧ entry.parameter.format.IsNumeric ∧
        entry.draft = .text t ∧
        (entry.parameter.format.accepts c.value.display = true ↔ CommitsDigits entry t) := by
  refine ⟨.builtIn, ?_⟩
  intro app
  obtain ⟨c, hc, hkey⟩ :
      ∃ c, .commit c ∈ (app.handle (.key (.plain .enter))).2 ∧ c.key = "buffer_frames" := by
    have hany : (app.handle (.key (.plain .enter))).2.any (fun effect => match effect with
        | .commit c => c.key == "buffer_frames"
        | _ => false) = true := by decide +kernel
    obtain ⟨effect, hmem, hkey⟩ := List.any_eq_true.mp hany
    cases effect with
    | commit c => exact ⟨c, hmem, eq_of_beq hkey⟩
    | toggleLink | quit => cases hkey
  obtain ⟨entry, hfound, hformat⟩ : ∃ entry, app.panel.find? "buffer_frames" = some entry ∧
      entry.parameter.format = .number := ⟨_, rfl, rfl⟩
  rw [← hkey] at hfound
  obtain ⟨t, hdraft, haccepted⟩ := numeric_commit_accepted_iff .builtIn .dracula true _
    (.key (.plain .enter)) c hc entry hfound (.inl hformat)
  exact ⟨c, entry, t, hc, hfound, .inl hformat, hdraft, haccepted⟩

/-- A negative number that a sheet configures is accepted there and committed again by
Enter, although the pattern of its format rejects its text. -/
theorem negative_number_is_committed_again :
    ∃ sheet, Sheet.ofYamlText
        "parameters:\n  - key: gain\n    format: number\n    value: -5\n" = .ok sheet ∧
      let app := (start sheet .dracula true).run [.event ⟨0, 0, 0⟩ (.key (.plain .up))]
      ∃ c entry, .commit c ∈ (app.handle (.key (.plain .enter))).2 ∧
        app.panel.find? c.key = some entry ∧ entry.parameter.format.IsNumeric ∧
        entry.parameter.format.accepts c.value.display = false := by
  have hread : (Sheet.ofYamlText
      "parameters:\n  - key: gain\n    format: number\n    value: -5\n").toOption.map
        (fun sheet => sheet.parameters.map fun p =>
          (p.key, p.format, p.value.map Value.display)) =
      some [("gain", .number, some "-5")] := by decide +kernel
  obtain ⟨⟨source, theme, connected, parameters⟩, hsheet, hparameters⟩ :=
    Option.map_eq_some_iff.mp hread
  obtain ⟨⟨key, label, format, units, compact, value⟩, rfl, hparameter⟩ :=
    List.map_eq_singleton_iff.mp hparameters
  simp only [Prod.mk.injEq] at hparameter
  obtain ⟨rfl, rfl, hvalue⟩ := hparameter
  obtain ⟨v, rfl, hv⟩ := Option.map_eq_some_iff.mp hvalue
  refine ⟨_, eq_ok_of_toOption_eq_some hsheet, ⟨"gain", v⟩, _, List.mem_singleton.mpr rfl, rfl,
    .inl rfl, ?_⟩
  rw [hv]
  rfl

end App
end DevicePanel
