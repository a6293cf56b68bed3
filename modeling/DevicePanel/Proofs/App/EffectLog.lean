import DevicePanel.App.Basic
import Mathlib.Algebra.Ring.Parity

/-!
# Effects and their log

Effects are applied one after the other.  A commit gives its value to the entry under its
key and is added to the history; if no entry has the key, it does neither.  So an entry
ends up with the last value that was committed for it, and the history with the latest of
the commits that found an entry, in front of what it held before.

A full history makes room by losing its oldest commit.  It never holds more than it keeps,
so this is the same as keeping the first records of a log that never loses any.
-/

namespace DevicePanel

namespace Effect

def commit? : Effect → Option Commit
  | .commit c => some c
  | .toggleLink | .quit => none

/-- The value that the effect commits under a key. -/
def valueFor? (key : String) : Effect → Option Value
  | .commit c => if c.key = key then some c.value else none
  | .toggleLink | .quit => none

def isToggle : Effect → Bool
  | .toggleLink => true
  | .commit _ | .quit => false

/-- The last value that effects commit under a key. -/
def lastValue? (key : String) (effects : List Effect) : Option Value :=
  (effects.filterMap (valueFor? key)).getLast?

/-- Of several values the last one counts, and the first one if there are no others. -/
theorem lastValue?_cons (key : String) (effect : Effect) (effects : List Effect) :
    lastValue? key (effect :: effects) = (lastValue? key effects).or (effect.valueFor? key) := by
  rw [lastValue?, lastValue?, List.filterMap_cons]
  cases effect.valueFor? key with
  | none => rw [Option.or_none]
  | some v =>
      dsimp only
      rw [List.getLast?_cons]
      cases (effects.filterMap (valueFor? key)).getLast? with
      | none => rfl
      | some w => rfl

end Effect

namespace Entry

/-- The entry with another committed value. -/
def withValue (e : Entry) (value : Option Value) : Entry :=
  { e with parameter := { e.parameter with value } }

/-- An entry takes over the value of a commit under its key. -/
theorem commit_of_key (e : Entry) (c : Commit) :
    (if e.key == c.key then e.commit c.value else e) =
      e.withValue (((Effect.commit c).valueFor? e.key).or e.parameter.value) := by
  by_cases hkey : c.key = e.key
  · rw [Effect.valueFor?, if_pos hkey, if_pos (by simp [hkey])]
    rfl
  · rw [Effect.valueFor?, if_neg hkey, if_neg (by simpa using Ne.symm hkey)]
    rfl

end Entry

/-- Adding to a history is adding to a log and keeping its first records. -/
theorem History.records_add (h : History) (r : CommitRecord) :
    (h.add r).records = (r :: h.records).take App.historyLimit := by
  have hle : h.records.length ≤ App.historyLimit := h.length_le
  have htake : (r :: h.records).take App.historyLimit =
      r :: h.records.take (App.historyLimit - 1) := rfl
  rw [add, htake]
  dsimp only
  split
  next hfull => rw [List.dropLast_eq_take, hfull]
  next hroom => rw [List.take_of_length_le (by omega)]

namespace App

/-- Some entry has the key of the commit. -/
def knows (app : App) (c : Commit) : Bool := app.panel.entries.any (·.key == c.key)

/-- The commits among effects that find an entry, in their order. -/
def knownCommits (app : App) (effects : List Effect) : List Commit :=
  (effects.filterMap Effect.commit?).filter app.knows

/-- The effect is no commit, or it is one that finds an entry. -/
def hasEffect (app : App) : Effect → Bool
  | .commit c => app.knows c
  | .toggleLink | .quit => true

variable {app : App} {now : TimeOfDay}

/-! ## One effect -/

theorem commit_of_known {c : Commit} (h : app.knows c = true) (now : TimeOfDay) :
    app.commit now c =
      { app with
        panel := { app.panel with
          entries := app.panel.entries.map fun e =>
            e.withValue (((Effect.commit c).valueFor? e.key).or e.parameter.value) }
        log := app.log.add ⟨c, now⟩ } := by
  have hany : app.panel.entries.any (·.key == c.key) = true := h
  have hfound : app.panel.commit? c = some { app.panel with
      entries := app.panel.entries.map fun e =>
        e.withValue (((Effect.commit c).valueFor? e.key).or e.parameter.value) } := by
    rw [Panel.commit?, if_pos hany]
    simp only [Entry.commit_of_key]
  rw [commit, hfound]

theorem commit_of_not_known {c : Commit} (h : app.knows c = false) (now : TimeOfDay) :
    app.commit now c = app := by
  have hdropped : app.panel.commit? c = none := by
    rw [Panel.commit?]
    exact if_neg (Bool.eq_false_iff.mp h)
  rw [commit, hdropped]

/-- An effect that commits nothing for any entry would leave all of them as they are. -/
theorem map_withValue_of_none {entries : List Entry} {effect : Effect}
    (h : ∀ e ∈ entries, effect.valueFor? e.key = none) :
    entries.map (fun e => e.withValue ((effect.valueFor? e.key).or e.parameter.value)) =
      entries := by
  have hsame : ∀ e ∈ entries,
      e.withValue ((effect.valueFor? e.key).or e.parameter.value) = id e := by
    intro e he
    rw [h e he]
    rfl
  rw [List.map_congr_left hsame, List.map_id]

/-- An effect leaves everything in the panel as it is, but each entry takes over a value
that is committed under its key. -/
theorem panel_applyEffect (now : TimeOfDay) (app : App) (effect : Effect) :
    (applyEffect now app effect).panel =
      { app.panel with
        entries := app.panel.entries.map fun e =>
          e.withValue ((effect.valueFor? e.key).or e.parameter.value) } := by
  cases effect with
  | toggleLink | quit =>
      rw [map_withValue_of_none fun _ _ => rfl]
      rfl
  | commit c =>
      cases hknown : app.knows c with
      | true => rw [applyEffect, commit_of_known hknown]
      | false =>
          have hother : ∀ e ∈ app.panel.entries,
              (Effect.commit c).valueFor? e.key = none := by
            intro e he
            rw [knows, List.any_eq_false] at hknown
            have hkey : c.key ≠ e.key := by
              intro hkey
              exact hknown e he (by simp [hkey])
            rw [Effect.valueFor?, if_neg hkey]
          rw [applyEffect, commit_of_not_known hknown, map_withValue_of_none hother]

theorem knows_applyEffect (now : TimeOfDay) (app : App) (effect : Effect) (c : Commit) :
    (applyEffect now app effect).knows c = app.knows c := by
  rw [knows, panel_applyEffect, List.any_map]
  rfl

/-- An effect that finds no entry is dropped. -/
theorem applyEffect_of_not_hasEffect {effect : Effect} (h : app.hasEffect effect = false)
    (now : TimeOfDay) : applyEffect now app effect = app := by
  cases effect with
  | toggleLink | quit => cases h
  | commit c => exact commit_of_not_known h now

theorem knownCommits_applyEffect (now : TimeOfDay) (app : App) (effect : Effect)
    (effects : List Effect) :
    (applyEffect now app effect).knownCommits effects = app.knownCommits effects :=
  List.filter_congr fun c _ => knows_applyEffect now app effect c

theorem history_applyEffect (now : TimeOfDay) (app : App) (effect : Effect) :
    (applyEffect now app effect).history =
      (((app.knownCommits [effect]).map (CommitRecord.mk · now)).reverse ++ app.history).take
        historyLimit := by
  have hkept : app.history.take historyLimit = app.history :=
    List.take_of_length_le app.log.length_le
  cases effect with
  | toggleLink | quit => exact hkept.symm
  | commit c =>
      cases hknown : app.knows c with
      | true =>
          have hcommits : app.knownCommits [.commit c] = [c] := List.filter_cons_of_pos hknown
          rw [applyEffect, commit_of_known hknown, hcommits]
          exact app.log.records_add ⟨c, now⟩
      | false =>
          have hcommits : app.knownCommits [.commit c] = [] :=
            List.filter_cons_of_neg (Bool.eq_false_iff.mp hknown)
          rw [applyEffect, commit_of_not_known hknown, hcommits]
          exact hkept.symm

theorem connected_applyEffect (now : TimeOfDay) (app : App) (effect : Effect) :
    (applyEffect now app effect).connected = (app.connected ^^ effect.isToggle) := by
  cases effect with
  | toggleLink => exact (Bool.xor_true app.connected).symm
  | quit => exact (Bool.xor_false app.connected).symm
  | commit c =>
      cases hknown : app.knows c with
      | true =>
          rw [applyEffect, commit_of_known hknown]
          exact (Bool.xor_false app.connected).symm
      | false =>
          rw [applyEffect, commit_of_not_known hknown]
          exact (Bool.xor_false app.connected).symm

theorem quitting_applyEffect (now : TimeOfDay) (app : App) (effect : Effect) :
    (applyEffect now app effect).quitting = true ↔
      app.quitting = true ∨ .quit = effect := by
  cases effect with
  | toggleLink => simp [applyEffect]
  | quit => simp [applyEffect]
  | commit c =>
      cases hknown : app.knows c with
      | true => simp [applyEffect, commit_of_known hknown]
      | false => simp [applyEffect, commit_of_not_known hknown]

theorem hasEffect_applyEffect (now : TimeOfDay) (app : App) (effect : Effect) :
    (applyEffect now app effect).hasEffect = app.hasEffect := by
  funext other
  cases other with
  | toggleLink | quit => rfl
  | commit c => exact knows_applyEffect now app effect c

/-! ## Lists of effects -/

theorem apply_cons (app : App) (now : TimeOfDay) (effect : Effect) (effects : List Effect) :
    app.apply now (effect :: effects) = (applyEffect now app effect).apply now effects := rfl

theorem panel_apply_eq (app : App) (now : TimeOfDay) (effects : List Effect) :
    (app.apply now effects).panel =
      { app.panel with
        entries := app.panel.entries.map fun e =>
          e.withValue ((Effect.lastValue? e.key effects).or e.parameter.value) } := by
  induction effects generalizing app with
  | nil =>
      have hsame : app.panel.entries.map (fun e =>
          e.withValue ((Effect.lastValue? e.key []).or e.parameter.value)) =
          app.panel.entries := List.map_id _
      rw [hsame]
      rfl
  | cons effect effects ih =>
      have htwice : ∀ e : Entry,
          ((e.withValue ((effect.valueFor? e.key).or e.parameter.value)).withValue
            ((Effect.lastValue? e.key effects).or
              ((effect.valueFor? e.key).or e.parameter.value))) =
            e.withValue ((Effect.lastValue? e.key (effect :: effects)).or
              e.parameter.value) := by
        intro e
        rw [Effect.lastValue?_cons, Option.or_assoc]
        rfl
      rw [apply_cons, ih, panel_applyEffect, List.map_map]
      simp only [← htwice]
      rfl

theorem knownCommits_cons (app : App) (effect : Effect) (effects : List Effect) :
    app.knownCommits (effect :: effects) =
      app.knownCommits [effect] ++ app.knownCommits effects := by
  rw [knownCommits, knownCommits, knownCommits, ← List.filter_append, ← List.filterMap_append]
  rfl

/-- What has been cut off from a log that is kept up to a length is not missed later. -/
theorem take_append_take {α : Type} (n : Nat) (l l' : List α) :
    (l ++ l'.take n).take n = (l ++ l').take n := by
  rw [List.take_append, List.take_append, List.take_take, Nat.min_eq_left (Nat.sub_le n _)]

theorem history_apply (app : App) (now : TimeOfDay) (effects : List Effect) :
    (app.apply now effects).history =
      (((app.knownCommits effects).map (CommitRecord.mk · now)).reverse ++ app.history).take
        historyLimit := by
  induction effects generalizing app with
  | nil => exact (List.take_of_length_le app.log.length_le).symm
  | cons effect effects ih =>
      rw [apply_cons, ih, knownCommits_applyEffect, history_applyEffect, take_append_take,
        knownCommits_cons app effect effects, List.map_append, List.reverse_append, List.append_assoc]

theorem lastCommit?_apply (app : App) (now : TimeOfDay) (effects : List Effect) :
    (app.apply now effects).lastCommit? =
      ((app.knownCommits effects).getLast?.map (CommitRecord.mk · now)).or
        app.lastCommit? := by
  rw [lastCommit?, history_apply, List.head?_take, if_neg (by decide), List.head?_append,
    List.head?_reverse, List.getLast?_map]
  rfl

theorem connected_apply (app : App) (now : TimeOfDay) (effects : List Effect) :
    (app.apply now effects).connected =
      (app.connected ^^ decide (Odd (effects.countP Effect.isToggle))) := by
  induction effects generalizing app with
  | nil => exact (Bool.xor_false app.connected).symm
  | cons effect effects ih =>
      rw [apply_cons, ih, connected_applyEffect, List.countP_cons, Bool.xor_assoc]
      congr 1
      cases effect.isToggle with
      | false => exact Bool.false_xor _
      | true =>
          rw [if_pos rfl, Bool.true_xor, ← decide_not]
          exact decide_eq_decide.mpr Nat.odd_add_one.symm

theorem quitting_apply (app : App) (now : TimeOfDay) (effects : List Effect) :
    (app.apply now effects).quitting = true ↔
      app.quitting = true ∨ .quit ∈ effects := by
  induction effects generalizing app with
  | nil => simp [apply]
  | cons effect effects ih =>
      rw [apply_cons, ih, quitting_applyEffect, List.mem_cons, or_assoc]

/-- Only the effects that find an entry, and those that look for none, have an effect. -/
theorem apply_filter_hasEffect (app : App) (now : TimeOfDay) (effects : List Effect) :
    app.apply now (effects.filter app.hasEffect) = app.apply now effects := by
  induction effects generalizing app with
  | nil => rfl
  | cons effect effects ih =>
      cases heffect : app.hasEffect effect with
      | true =>
          have hsame : (applyEffect now app effect).hasEffect = app.hasEffect :=
            hasEffect_applyEffect now app effect
          rw [List.filter_cons_of_pos heffect, apply_cons, apply_cons, ← ih, hsame]
      | false =>
          have hnot : ¬ app.hasEffect effect = true := Bool.eq_false_iff.mp heffect
          rw [List.filter_cons_of_neg hnot, apply_cons, applyEffect_of_not_hasEffect heffect, ih]

/-- Applying effects to any state gives every entry the last value that is committed under
its key, if there is one, and changes nothing else in the panel.  The history is the log
of the commits that find an entry, the latest first, in front of the earlier history, as
far as it is kept.  The link changes with an odd number of toggles, and the application
quits if it is to or was quitting before.  Commits that find no entry might as well not
have been there. -/
theorem effects_are_logged (app : App) (now : TimeOfDay) (effects : List Effect) :
    let after := app.apply now effects
    let known := app.knownCommits effects
    after.panel =
        { app.panel with
          entries := app.panel.entries.map fun e =>
            e.withValue ((Effect.lastValue? e.key effects).or e.parameter.value) } ∧
      after.history =
        ((known.map (CommitRecord.mk · now)).reverse ++ app.history).take historyLimit ∧
      after.history.length = min historyLimit (known.length + app.history.length) ∧
      after.lastCommit? =
        (known.getLast?.map (CommitRecord.mk · now)).or app.lastCommit? ∧
      (after.connected = !app.connected ↔ Odd (effects.countP Effect.isToggle)) ∧
      (after.quitting = true ↔ app.quitting = true ∨ .quit ∈ effects) ∧
      app.apply now (effects.filter app.hasEffect) = after := by
  intro after known
  have hhistory : after.history =
      ((known.map (CommitRecord.mk · now)).reverse ++ app.history).take historyLimit :=
    app.history_apply now effects
  refine ⟨app.panel_apply_eq now effects, hhistory, ?_, app.lastCommit?_apply now effects,
    ?_, app.quitting_apply now effects, app.apply_filter_hasEffect now effects⟩
  · rw [hhistory, List.length_take, List.length_append, List.length_reverse, List.length_map]
  · have hconnected : after.connected =
        (app.connected ^^ decide (Odd (effects.countP Effect.isToggle))) :=
      app.connected_apply now effects
    by_cases hodd : Odd (effects.countP Effect.isToggle)
    · rw [hconnected, decide_eq_true hodd, Bool.xor_true]
      exact iff_of_true rfl hodd
    · rw [hconnected, decide_eq_false hodd, Bool.xor_false]
      exact iff_of_false (Bool.eq_not_self app.connected).mp hodd

end App
end DevicePanel
