import DevicePanel.Proofs.App.Run

/-!
# Confirming again

A confirmation leaves the text, the cursor and the phase of a draft alone.  It gives a value,
or it leaves the reason why there is none.  The application commits the value, so that an
unedited text stands for it the next time; an edited text stands for itself.  Hence whatever
a confirmation gives, confirming again gives it again, and changes nothing more.
-/

namespace DevicePanel

namespace TextDraft

variable (t : TextDraft) (f : Format) (committed : Option Value)

theorem rejection?_eq_some_iff (e : ValueError) :
    t.rejection? f committed = some e ↔ t.read f committed = .error e := by
  rw [rejection?]
  cases t.read f committed <;> simp

/-- A text stands for a value or is rejected, and never both. -/
theorem isSome_value_iff :
    (t.read f committed).toOption.isSome = true ↔ t.rejection? f committed = none := by
  rw [rejection?]
  cases t.read f committed <;> simp [Except.toOption]

/-- A text stands for the same again when its value has been committed. -/
theorem read_again :
    t.read f ((t.read f committed).toOption.or committed) = t.read f committed := by
  cases hedited : t.edited with
  | true => rw [read_of_edited hedited, read_of_edited hedited]
  | false => rw [read_of_idle hedited, Option.or_self]

/-- The rejection that a text already has is not part of what it stands for. -/
theorem confirm_withError (e : Option ValueError) :
    { t with error := e }.confirm f committed = t.confirm f committed := by
  rw [confirm_eq, confirm_eq]
  rfl

theorem confirm_again :
    t.confirm f ((t.read f committed).toOption.or committed) = t.confirm f committed := by
  rw [confirm, read_again, ← confirm]

end TextDraft

namespace Entry

/-- Confirm the draft of an entry: the draft afterwards and the value to commit. -/
def confirm (e : Entry) : Draft × Option Value :=
  e.draft.confirm e.parameter.format e.parameter.value

/-- The entry after some confirmations in a row, of which each value is committed, and what
the confirmations gave. -/
def confirmTimes : Nat → Entry → Entry × List (Option Value)
  | 0, e => (e, [])
  | n + 1, e =>
      let (last, values) := confirmTimes n (e.after e.confirm)
      (last, e.confirm.2 :: values)

/-- A confirmed text keeps its reason to be rejected, and its value is committed. -/
theorem after_confirm_text (p : Parameter) (t : TextDraft) :
    after ⟨p, .text t⟩ (confirm ⟨p, .text t⟩) =
      ⟨{ p with value := (t.read p.format p.value).toOption.or p.value },
        .text { t with error := t.rejection? p.format p.value }⟩ := by
  rw [confirm, Draft.confirm, TextDraft.confirm_eq]
  cases t.read p.format p.value <;> rfl

/-- The second confirmation does what the first one did. -/
theorem confirm_after_confirm (e : Entry) : (e.after e.confirm).confirm = e.confirm := by
  obtain ⟨p, d⟩ := e
  cases d with
  | switch on => rfl
  | text t =>
      rw [after_confirm_text, confirm, Draft.confirm, TextDraft.confirm_withError,
        TextDraft.confirm_again]
      rfl

/-- A reaction that comes again changes nothing more. -/
theorem after_after (e : Entry) (r : Draft × Option Value) : (e.after r).after r = e.after r := by
  rcases r with ⟨d, _ | v⟩ <;> rfl

/-- Confirming some more times gives the same each time and leaves the entry as the first
confirmation has left it. -/
theorem confirmTimes_succ (n : Nat) (e : Entry) :
    confirmTimes (n + 1) e = (e.after e.confirm, List.replicate (n + 1) e.confirm.2) := by
  induction n generalizing e with
  | zero => rfl
  | succ n ih =>
      rw [confirmTimes, ih, confirm_after_confirm, after_after]
      rfl

/-- A confirmation leaves a switch as it is and gives nothing.  It leaves the text, the cursor
and the phase of a text alone; it gives the value that the text stands for and no reason, or
the reason why there is none and no value.  Confirmed again, as often as one likes, while each
value is committed, the text gives the same each time, and the entry stays as it is. -/
theorem confirm_is_repeatable (p : Parameter) :
    (∀ on, (Draft.switch on).confirm p.format p.value = (.switch on, none)) ∧
    ∀ t, ∃ t' value, (Draft.text t).confirm p.format p.value = (.text t', value) ∧
      t'.buffer = t.buffer ∧ t'.edited = t.edited ∧
      value = (if t.edited then (p.format.parse t.buffer.text).toOption else p.value) ∧
      (∀ e, t'.error = some e ↔ t.read p.format p.value = .error e) ∧
      (value.isSome = true ↔ t'.error = none) ∧ (value = none ↔ t'.error.isSome = true) ∧
      ∀ n, confirmTimes (n + 1) ⟨p, .text t⟩ =
        (⟨{ p with value := value.or p.value }, .text t'⟩, List.replicate (n + 1) value) := by
  refine ⟨fun on => rfl, ?_⟩
  intro t
  have hconfirm : (Draft.text t).confirm p.format p.value =
      (.text { t with error := t.rejection? p.format p.value },
        (t.read p.format p.value).toOption) := by
    rw [Draft.confirm, TextDraft.confirm_eq]
  have hvalue : (t.read p.format p.value).toOption =
      if t.edited then (p.format.parse t.buffer.text).toOption else p.value := by
    cases hedited : t.edited with
    | true => rw [TextDraft.read_of_edited hedited, if_pos rfl]
    | false => rw [TextDraft.read_of_idle hedited, if_neg Bool.false_ne_true]
  have hone := t.isSome_value_iff p.format p.value
  refine ⟨_, _, hconfirm, rfl, rfl, hvalue, t.rejection?_eq_some_iff p.format p.value, hone, ?_, ?_⟩
  · rw [← Option.not_isSome_iff_eq_none, hone, Option.isSome_iff_ne_none]
  · intro n
    rw [confirmTimes_succ, after_confirm_text, confirm, hconfirm]

end Entry

end DevicePanel
