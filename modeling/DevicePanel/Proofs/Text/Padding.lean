import DevicePanel.Proofs.Text.SharedColumns

/-!
# Columns of padded texts

Plain characters behind a text, such as spaces, add one column each, since nothing in front of
them shares its columns with them.

The columns of a text are counted from its end, and some characters take a column away from
what follows them.  They take only what the count has put aside for them, which is what
`Following.reserve` is, so that no text has less than no columns.
-/

namespace DevicePanel.Text

/-! ## Columns put aside -/

/-- The columns that are put aside for the character before. -/
def Following.reserve : Following → Int
  | .joinedIndicator | .joinedOdd => 1
  | .ligature .subscript _ | .ligature .joinerAndConsonant _ => 1
  | _ => 0

theorem Following.reserve_nonneg (next : Following) : 0 ≤ next.reserve := by
  unfold reserve
  split <;> decide

theorem columns_of_hasSubscript {c : Char} (h : hasSubscript c = true) : columns c = 1 := by
  simp only [hasSubscript, Bool.or_eq_true, Bool.and_eq_true, beq_iff_eq,
    decide_eq_true_eq] at h
  have hconsonants : ∀ i < 35, columns (Char.ofNat (0x1780 + i)) = 1 := by decide +kernel
  have hvowels : ∀ i < 11, columns (Char.ofNat (0x17A5 + i)) = 1 := by decide +kernel
  rcases Nat.lt_or_ge c.toNat 0x17A3 with hlt | hge
  · exact columns_of_range hconsonants (by omega) (by omega)
  · exact columns_of_range hvowels (by omega) (by omega)

theorem hasSubscript_of_ligatureEnd? {c : Char} (h : ligatureEnd? c = some .subscript) :
    hasSubscript c = true := by
  grind [ligatureEnd?]

/-- A character on its own has the columns that it puts aside. -/
theorem reserve_alone_le (c : Char) : (alone c).2.reserve ≤ (alone c).1 := by
  have hcolumns : (0 : Int) ≤ columns c := Int.natCast_nonneg _
  simp only [alone]
  split
  next => exact hcolumns
  next =>
    split
    next => exact hcolumns
    next =>
      split
      next => exact hcolumns
      next =>
        split
        next last hlast =>
          cases last with
          | subscript =>
              rw [columns_of_hasSubscript (hasSubscript_of_ligatureEnd? hlast)]
              exact Int.le_refl 1
          | joinerAndConsonant => exact absurd hlast (ligatureEnd?_ne c).2
          | _ => exact hcolumns
        next =>
          split_ifs
          all_goals exact hcolumns

section

variable {c : Char} {added : Int} {kind : Following}

theorem reserve_joinLigature?_le {last : LigatureEnd} {joined : Bool}
    (h : joinLigature? c last joined = some (added, kind)) :
    kind.reserve ≤ (Following.ligature last joined).reserve + added := by
  cases last
  all_goals
    unfold joinLigature? at h
    grind [Following.reserve]

theorem reserve_joinVowel?_le {ai : Bool} (h : joinVowel? c ai = some (added, kind)) :
    kind.reserve ≤ added := by
  unfold joinVowel? at h
  grind [Following.reserve]

theorem reserve_joinEmoji?_le {next : Following} (h : joinEmoji? c next = some (added, kind)) :
    kind.reserve ≤ next.reserve + added := by
  unfold joinEmoji? at h
  grind [Following.reserve, Option.map_eq_some_iff]

end

/-- A character that joins what follows it, or stands alone, takes no more than was put aside
and puts aside no more than there is. -/
theorem reserve_getD_alone_le {c : Char} {next : Following} {joined? : Option (Int × Following)}
    (h : ∀ added kind, joined? = some (added, kind) → kind.reserve ≤ next.reserve + added) :
    (joined?.getD (alone c)).2.reserve ≤ next.reserve + (joined?.getD (alone c)).1 := by
  cases joined? with
  | none =>
      have halone := reserve_alone_le c
      have hnext := next.reserve_nonneg
      rw [Option.getD_none]
      omega
  | some joined => exact h joined.1 joined.2 rfl

theorem reserve_beforeFollowing_le (c : Char) (next : Following) :
    (beforeFollowing c next).2.reserve ≤ next.reserve + (beforeFollowing c next).1 := by
  have hemoji (next : Following) : ((joinEmoji? c next).getD (alone c)).2.reserve ≤
      next.reserve + ((joinEmoji? c next).getD (alone c)).1 :=
    reserve_getD_alone_le fun _ _ h => reserve_joinEmoji?_le h
  cases next with
  | ligature last joined => exact reserve_getD_alone_le fun _ _ h => reserve_joinLigature?_le h
  | vowelE | vowelAi =>
      refine reserve_getD_alone_le fun added _ h => ?_
      exact (reserve_joinVowel?_le h).trans_eq (Int.zero_add added).symm
  | indicators =>
      simp only [beforeFollowing]
      split
      · exact hemoji .indicator
      · exact hemoji .indicators
  | _ => exact hemoji _

theorem reserve_beforeAscii_le (c : Char) (next : Context) :
    (beforeAscii c next).2.reserve ≤ (beforeAscii c next).1 := by
  rw [beforeAscii]
  split_ifs <;> decide

theorem reserve_select_le (next : Context) (selector : Char) :
    (next.select selector).following.reserve ≤ next.following.reserve := by
  rw [Context.select]
  dsimp only
  split
  · exact Int.le_refl _
  · exact next.following.reserve_nonneg

/-- Every character leaves the columns that are put aside covered. -/
theorem reserve_before_le (c : Char) (next : Context) :
    (before c next).2.following.reserve ≤ next.following.reserve + (before c next).1 := by
  have hnext := next.following.reserve_nonneg
  rw [before]
  split
  next =>
    dsimp only
    split
    · exact Int.add_nonneg hnext (Int.le_refl 0)
    · exact Int.add_nonneg hnext (by decide)
  next =>
    -- A selector may cut off what follows, which puts nothing aside then.
    obtain ⟨following, hfollowing, hreserve⟩ : ∃ following,
        (if next.selector.isSome && !next.following.isLigature then Following.other
          else next.following) = following ∧
        following.reserve ≤ next.following.reserve := by
      refine ⟨_, rfl, ?_⟩
      split
      · exact hnext
      · exact Int.le_refl _
    rw [hfollowing]
    dsimp only
    split
    next =>
      have hascii := reserve_beforeAscii_le c next
      dsimp only
      omega
    next =>
      split
      next =>
        have hselect := reserve_select_le ⟨following, none⟩ c
        dsimp only at hselect ⊢
        omega
      next =>
        split
        next => exact Int.add_nonneg hnext (by decide)
        next =>
          have hbefore := reserve_beforeFollowing_le c following
          dsimp only
          omega

/-! ## Counting on -/

/-- The columns that a text adds to a count, and what is behind its first character then. -/
def count (cs : List Char) (counted : Int × Context) : Int × Context :=
  cs.foldr (fun c counted => (counted.1 + (before c counted.2).1, (before c counted.2).2)) counted

theorem width_eq_count (cs : List Char) : width cs = (count cs (0, {})).1.toNat := rfl

theorem count_cons (c : Char) (cs : List Char) (counted : Int × Context) :
    count (c :: cs) counted =
      ((count cs counted).1 + (before c (count cs counted).2).1,
        (before c (count cs counted).2).2) := rfl

theorem count_append (cs ds : List Char) (counted : Int × Context) :
    count (cs ++ ds) counted = count cs (count ds counted) := List.foldr_append

/-- What has been counted before only adds to the count. -/
theorem count_add (cs : List Char) (n : Int) (next : Context) :
    count cs (n, next) = (n + (count cs (0, next)).1, (count cs (0, next)).2) := by
  induction cs with
  | nil => exact congrArg (·, next) (Int.add_zero n).symm
  | cons c cs ih => rw [count_cons, count_cons, ih, Int.add_assoc]

/-- What has been counted covers what is put aside. -/
theorem reserve_count_le (cs : List Char) :
    (count cs (0, {})).2.following.reserve ≤ (count cs (0, {})).1 := by
  induction cs with
  | nil => exact Int.le_refl 0
  | cons c cs ih =>
      have hbefore := reserve_before_le c (count cs (0, {})).2
      rw [count_cons]
      dsimp only
      omega

theorem natCast_width (cs : List Char) : (width cs : Int) = (count cs (0, {})).1 := by
  rw [width_eq_count, Int.toNat_of_nonneg]
  exact (Following.reserve_nonneg _).trans (reserve_count_le cs)

/-! ## Plain characters -/

/-- A character of the first codes that is no control takes one column, whatever it is among. -/
def IsPlain (c : Char) : Prop := c.toNat ≤ 0xA0 ∧ isControl c = false

instance (c : Char) : Decidable (IsPlain c) := inferInstanceAs (Decidable (_ ∧ _))

theorem before_of_isPlain {c : Char} (h : IsPlain c) : before c {} = (1, {}) := by
  have hnone : ¬ (((none : Option Char) == some emojiSelector) && emojiBase.contains c) = true :=
    Bool.false_ne_true
  rw [before, if_neg hnone, if_pos h.1, beforeAscii_of_not_control h.2]

theorem count_of_isPlain {cs : List Char} (h : ∀ c ∈ cs, IsPlain c) :
    count cs (0, {}) = ((cs.length : Int), {}) := by
  induction cs with
  | nil => rfl
  | cons c cs ih =>
      obtain ⟨hc, hcs⟩ := List.forall_mem_cons.mp h
      rw [count_cons, ih hcs, before_of_isPlain hc]
      rfl

/-- Plain characters behind a text add a column each. -/
theorem width_append_of_isPlain (cs : List Char) {ds : List Char} (h : ∀ c ∈ ds, IsPlain c) :
    width (cs ++ ds) = width cs + ds.length := by
  have hwidth : (width (cs ++ ds) : Int) = ds.length + width cs := by
    rw [natCast_width, natCast_width, count_append, count_of_isPlain h, count_add]
  omega

theorem width_of_isPlain {cs : List Char} (h : ∀ c ∈ cs, IsPlain c) : width cs = cs.length := by
  have hwidth := width_append_of_isPlain [] h
  rwa [List.nil_append, show width [] = 0 from rfl, Nat.zero_add] at hwidth

end DevicePanel.Text
