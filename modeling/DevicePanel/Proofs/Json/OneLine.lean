import DevicePanel.Json.Printer
import DevicePanel.Proofs.Json.WholeNumber

/-!
# JSON on one line

The compact text of a value has no character below the space.  Inside strings these are
escaped, and between the parts of a value nothing but marks is written.  So the text is always
on one line.
-/

namespace DevicePanel.Json

/-- No character is below the space. -/
def OneLine (cs : List Char) : Prop := ∀ c ∈ cs, 0x20 ≤ c.toNat

instance (cs : List Char) : Decidable (OneLine cs) := List.decidableBAll _ cs

theorem OneLine.lineFeed_not_mem {cs : List Char} (h : OneLine cs) : '\n' ∉ cs :=
  fun hmem => absurd (h '\n' hmem) (by decide)

theorem oneLine_append {cs ds : List Char} (hcs : OneLine cs) (hds : OneLine ds) :
    OneLine (cs ++ ds) := List.forall_mem_append.mpr ⟨hcs, hds⟩

theorem oneLine_cons {c : Char} {cs : List Char} (hc : 0x20 ≤ c.toNat) (hcs : OneLine cs) :
    OneLine (c :: cs) := List.forall_mem_cons.mpr ⟨hc, hcs⟩

/-! ## Strings -/

theorem le_toNat_hexDigit {n : Nat} (h : n < 16) : 0x20 ≤ (hexDigit n).toNat := by
  have hdigits : ∀ i < 16, 0x20 ≤ (hexDigit i).toNat := by decide
  exact hdigits n h

theorem oneLine_escape (c : Char) : OneLine (escape c) := by
  unfold escape
  -- The characters with an escape of their own.
  iterate 7
    split
    · decide
  split
  next hcontrol =>
    have hhigh := le_toNat_hexDigit (by omega : c.toNat / 16 < 16)
    have hlow := le_toNat_hexDigit (by omega : c.toNat % 16 < 16)
    simp only [OneLine, List.forall_mem_cons]
    exact ⟨by decide, by decide, by decide, by decide, hhigh, hlow, List.forall_mem_nil _⟩
  next hcontrol => exact List.forall_mem_singleton.mpr (Nat.not_lt.mp hcontrol)

theorem oneLine_quoted (s : String) : OneLine (quoted s) := by
  have hinside : OneLine (s.toList.flatMap escape) := by
    intro c hc
    obtain ⟨d, -, hd⟩ := List.mem_flatMap.mp hc
    exact oneLine_escape d c hd
  exact oneLine_append (oneLine_cons (by decide) hinside) (by decide)

/-! ## Numbers -/

namespace Number

theorem oneLine_natDigits (n : Nat) : OneLine (natDigits n) := fun c hc =>
  Nat.le_trans (by decide) (Char.isDigit_iff_toNat.mp (isDigit_of_mem_natDigits hc)).1

theorem oneLine_replicate_zero (n : Nat) : OneLine (List.replicate n '0') := by
  intro c hc
  rw [List.eq_of_mem_replicate hc]
  decide

theorem oneLine_positional {digits : List Char} (h : OneLine digits) (exponent : Int) :
    OneLine (positional digits exponent) := by
  cases exponent with
  | ofNat n =>
      exact oneLine_append (oneLine_append h (oneLine_replicate_zero n)) (by decide)
  | negSucc n =>
      rw [positional]
      dsimp only
      split
      · exact oneLine_append (fun c hc => h c (List.mem_of_mem_take hc))
          (oneLine_cons (by decide) fun c hc => h c (List.mem_of_mem_drop hc))
      · exact oneLine_append (oneLine_cons (by decide) (oneLine_cons (by decide)
          (oneLine_replicate_zero _))) h

theorem oneLine_scientific {digits : List Char} (h : OneLine digits) (order : Int) :
    OneLine (scientific digits order) := by
  have hsign : 0x20 ≤ (if order < 0 then '-' else '+').toNat := by
    split <;> decide
  refine oneLine_append ?_
    (oneLine_cons (by decide) (oneLine_cons hsign (oneLine_natDigits order.natAbs)))
  split
  next d e ds =>
    obtain ⟨hd, hrest⟩ := List.forall_mem_cons.mp h
    exact oneLine_cons hd (oneLine_cons (by decide) hrest)
  next => exact h

theorem oneLine_chars (n : Number) : OneLine n.chars := by
  cases n with
  | integer i inRange =>
      cases i with
      | ofNat k => exact oneLine_natDigits k
      | negSucc k => exact oneLine_cons (by decide) (oneLine_natDigits (k + 1))
  | float x =>
      have hdigits := oneLine_natDigits (Decimal.shortest x).digits
      have hbody (order : Int) : OneLine
          (if decimalLayout.least ≤ order ∧ order ≤ decimalLayout.greatest then
            positional (natDigits (Decimal.shortest x).digits) (Decimal.shortest x).exponent
          else scientific (natDigits (Decimal.shortest x).digits) order) := by
        split
        · exact oneLine_positional hdigits _
        · exact oneLine_scientific hdigits _
      rw [chars, floatText]
      split
      · exact oneLine_cons (by decide) (hbody _)
      · exact hbody _

end Number

/-! ## Values -/

mutual

/-- The compact text of a value is on one line. -/
theorem oneLine_chars (v : Json) : OneLine v.chars := by
  cases v with
  | null => decide
  | bool b => cases b <;> decide
  | number n =>
      rw [chars]
      exact n.oneLine_chars
  | text s => exact oneLine_quoted s
  | array items =>
      exact oneLine_append (oneLine_cons (by decide) (oneLine_itemChars items)) (by decide)
  | object fields =>
      exact oneLine_append (oneLine_cons (by decide) (oneLine_fieldChars fields)) (by decide)

theorem oneLine_itemChars (items : List Json) : OneLine (itemChars items) := by
  match items with
  | [] => decide
  | [v] => exact oneLine_chars v
  | v :: w :: rest =>
      have hrest := oneLine_itemChars (w :: rest)
      exact oneLine_append (oneLine_chars v) (oneLine_cons (by decide) hrest)

theorem oneLine_fieldChars (fields : List (String × Json)) : OneLine (fieldChars fields) := by
  match fields with
  | [] => decide
  | [(k, v)] =>
      exact oneLine_append (oneLine_quoted k) (oneLine_cons (by decide) (oneLine_chars v))
  | (k, v) :: f :: rest =>
      have hfirst : OneLine (quoted k ++ ':' :: v.chars) :=
        oneLine_append (oneLine_quoted k) (oneLine_cons (by decide) (oneLine_chars v))
      have hrest := oneLine_fieldChars (f :: rest)
      exact oneLine_append hfirst (oneLine_cons (by decide) hrest)

end

end DevicePanel.Json
