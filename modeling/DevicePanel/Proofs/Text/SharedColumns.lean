import DevicePanel.Text.Cluster
import DevicePanel.Text.Width
import Mathlib.Algebra.Order.Ring.Int
import Mathlib.Tactic.SplitIfs

/-!
# Columns of characters and of what they make up

The columns of a text can be counted character by character, or for each of its clusters as a
whole.  A cluster takes other columns than its characters only if one of them is a joining
character: a selector, a joiner, a skin tone, a letter or sign that takes up the one behind it,
or a mark of a voiced syllable.  Without these nothing that follows a character changes its
columns, which is what `Following.IsLoose` says of what follows.

A cluster holds either controls only, which have no columns, or no control at all.
-/

namespace DevicePanel.Text

/-! ## Clusters -/

theorem flatten_clustersFrom (e : ClusterEnd) (done cs : List Char) :
    (clustersFrom e done cs).flatten = done.reverse ++ cs := by
  induction cs generalizing e done with
  | nil => simp [clustersFrom]
  | cons c cs ih =>
      rw [clustersFrom]
      split
      · rw [ih]
        simp
      · rw [List.flatten_cons, ih]
        simp

/-- The clusters of a text make up the text. -/
theorem flatten_clusters (cs : List Char) : (clusters cs).flatten = cs := by
  cases cs with
  | nil => rfl
  | cons c cs => exact flatten_clustersFrom _ [c] cs

/-- All characters are controls, or none of them is. -/
def ControlsApart (cs : List Char) : Prop :=
  (∀ c ∈ cs, isControl c = true) ∨ ∀ c ∈ cs, isControl c = false

theorem controlsApart_singleton (c : Char) : ControlsApart [c] := by
  cases h : isControl c with
  | true => exact .inl (by simpa using h)
  | false => exact .inr (by simpa using h)

theorem controlsApart_reverse {cs : List Char} (h : ControlsApart cs) :
    ControlsApart cs.reverse := by
  simpa [ControlsApart] using h

/-- The class is that of a line break. -/
def ClusterClass.isLineBreak : ClusterClass → Bool
  | .carriageReturn | .lineFeed => true
  | _ => false

/-- Controls stand apart from what is not one. -/
theorem isBreaking_of_isControl {c : Char} (h : isControl c = true) :
    ClusterEnd.isBreaking (clusterClass c) = true := by
  by_cases hreturn : (c == '\r') = true
  · rw [clusterClass, if_pos hreturn]
    rfl
  · by_cases hfeed : (c == '\n') = true
    · rw [clusterClass, if_neg hreturn, if_pos hfeed]
      rfl
    · rw [clusterClass, if_neg hreturn, if_neg hfeed, if_pos h]
      rfl

theorem isLineBreak_hangulClass (n : Nat) :
    ((hangulClass? n).getD .other).isLineBreak = false := by
  rw [hangulClass?]
  split_ifs
  all_goals rfl

theorem not_lineBreak_of_not_control {c : Char} (h : isControl c = false) :
    (c == '\n') = false ∧ (c == '\r') = false := by
  simp only [beq_eq_false_iff_ne]
  refine ⟨?_, ?_⟩
  · rintro rfl
    cases h
  · rintro rfl
    cases h

/-- Only controls have the classes of line breaks. -/
theorem isControl_of_isLineBreak {c : Char} (h : (clusterClass c).isLineBreak = true) :
    isControl c = true := by
  by_cases hcontrol : isControl c = true
  · exact hcontrol
  · rw [Bool.not_eq_true] at hcontrol
    obtain ⟨hfeed, hreturn⟩ := not_lineBreak_of_not_control hcontrol
    simp only [clusterClass, hfeed, hreturn, hcontrol, Bool.false_eq_true, if_false,
      apply_ite ClusterClass.isLineBreak, isLineBreak_hangulClass] at h
    simp only [ClusterClass.isLineBreak, ite_self, Bool.false_eq_true] at h

/-- A control joins controls only, and another character none of them. -/
theorem controlsApart_cons {e : ClusterEnd} {last c : Char} {done : List Char}
    (hlast : e.last = clusterClass last) (h : ControlsApart (last :: done))
    (hjoins : e.joins c = true) : ControlsApart (c :: last :: done) := by
  rw [ClusterEnd.joins, hlast] at hjoins
  split at hjoins
  next hpair =>
    rw [Bool.and_eq_true, beq_iff_eq, beq_iff_eq] at hpair
    have hcontrol : isControl last = true := by
      apply isControl_of_isLineBreak
      rw [hpair.1]
      rfl
    have hfeed : isControl c = true := by
      apply isControl_of_isLineBreak
      rw [hpair.2]
      rfl
    rcases h with hall | hnone
    · exact .inl (List.forall_mem_cons.mpr ⟨hfeed, hall⟩)
    · rw [hnone last List.mem_cons_self] at hcontrol
      cases hcontrol
  · split at hjoins
    · cases hjoins
    next hbreaking =>
      rw [Bool.or_eq_true, not_or] at hbreaking
      have hcontrol : isControl last = false := by
        rw [← Bool.not_eq_true]
        exact fun hyes => hbreaking.1 (isBreaking_of_isControl hyes)
      have hother : isControl c = false := by
        rw [← Bool.not_eq_true]
        exact fun hyes => hbreaking.2 (isBreaking_of_isControl hyes)
      rcases h with hall | hnone
      · rw [hall last List.mem_cons_self] at hcontrol
        cases hcontrol
      · exact .inr (List.forall_mem_cons.mpr ⟨hother, hnone⟩)

theorem controlsApart_of_mem_clustersFrom {e : ClusterEnd} {last : Char} {done cs : List Char}
    (hlast : e.last = clusterClass last) (h : ControlsApart (last :: done)) :
    ∀ k ∈ clustersFrom e (last :: done) cs, ControlsApart k := by
  induction cs generalizing e last done with
  | nil =>
      intro k hk
      rw [List.mem_singleton.mp hk]
      exact controlsApart_reverse h
  | cons c cs ih =>
      rw [clustersFrom]
      split
      next hjoins => exact ih rfl (controlsApart_cons hlast h hjoins)
      next =>
        rw [List.forall_mem_cons]
        exact ⟨controlsApart_reverse h, ih rfl (controlsApart_singleton c)⟩

theorem controlsApart_of_mem_clusters {cs k : List Char} (h : k ∈ clusters cs) :
    ControlsApart k := by
  cases cs with
  | nil => cases h
  | cons c cs => exact controlsApart_of_mem_clustersFrom rfl (controlsApart_singleton c) k h

/-! ## Joining characters -/

/-- Letters and signs that take up the letter or sign behind them: the sign that puts a Khmer
letter below another one, the Tifinagh joiner, the first letters of Lisu
tones and the Kirat Rai vowel signs. -/
def takesUpNext (c : Char) : Bool :=
  let n := c.toNat
  isLam c || c == '\u17D2' || c == '\u2D7F' || (0xA4F8 ≤ n && n ≤ 0xA4FB) ||
    n == 0x16D63 || (0x16D67 ≤ n && n ≤ 0x16D69)

/-- Characters with which a text may take other columns than its characters do. -/
def isJoining (c : Char) : Bool :=
  c == emojiSelector || c == textSelector || c == joiner || isSkinTone c || takesUpNext c ||
    isVoicingMark c

/-- A character is none of the joining ones. -/
structure NotJoining (c : Char) : Prop where
  selector : (c == emojiSelector || c == textSelector) = false
  joiner : (c == Text.joiner) = false
  skinTone : isSkinTone c = false
  takesUpNext : takesUpNext c = false
  voicingMark : isVoicingMark c = false

theorem notJoining_of_eq_false {c : Char} (h : isJoining c = false) : NotJoining c := by
  simp only [isJoining, Bool.or_eq_false_iff] at h
  obtain ⟨⟨⟨⟨hselector, hjoiner⟩, hskinTone⟩, htakes⟩, hmark⟩ := h
  exact ⟨Bool.or_eq_false_iff.mpr hselector, hjoiner, hskinTone, htakes, hmark⟩

/-- What follows changes the columns of a joining character only. -/
def Following.IsLoose : Following → Prop
  | .other | .emoji | .indicator | .indicators => True
  | .ligature last joined => joined = false ∧ last ≠ .vowelAndYa ∧ last ≠ .joinerAndConsonant
  | _ => False

/-- There is no selector, and what follows changes the columns of a joining character only. -/
def Context.IsLoose (next : Context) : Prop := next.selector = none ∧ next.following.IsLoose

/-! ### Tables -/

theorem columns_of_range {first count n : Nat}
    (h : ∀ i < count, columns (Char.ofNat (first + i)) = n) {c : Char} (hfirst : first ≤ c.toNat)
    (hlast : c.toNat < first + count) : columns c = n := by
  have hcolumns := h (c.toNat - first) (by omega)
  rwa [Nat.add_sub_cancel' hfirst, Char.ofNat_toNat] at hcolumns

theorem columns_of_isWithinLigature {c : Char} (h : isWithinLigature c = true) :
    columns c = 0 := by
  simp only [isWithinLigature, Bool.or_eq_true, Bool.and_eq_true, beq_iff_eq,
    decide_eq_true_eq] at h
  have hgrapheme : ∀ i < 1, columns (Char.ofNat (0x34F + i)) = 0 := by decide +kernel
  have hkhmer : ∀ i < 2, columns (Char.ofNat (0x17B4 + i)) = 0 := by decide +kernel
  have hmongolian : ∀ i < 3, columns (Char.ofNat (0x180B + i)) = 0 := by decide +kernel
  have hfourth : ∀ i < 1, columns (Char.ofNat (0x180F + i)) = 0 := by decide +kernel
  have hvariation : ∀ i < 16, columns (Char.ofNat (0xFE00 + i)) = 0 := by decide +kernel
  have hsupplement : ∀ i < 240, columns (Char.ofNat (0xE0100 + i)) = 0 := by decide +kernel
  rcases h with (((((h | h) | h) | h) | h) | h) | h
  · exact columns_of_range hgrapheme (by omega) (by omega)
  · exact columns_of_range hkhmer (by omega) (by omega)
  · exact columns_of_range hkhmer (by omega) (by omega)
  · exact columns_of_range hmongolian (by omega) (by omega)
  · exact columns_of_range hfourth (by omega) (by omega)
  · exact columns_of_range hvariation (by omega) (by omega)
  · exact columns_of_range hsupplement (by omega) (by omega)

theorem columns_of_isRegionalIndicator {c : Char} (h : isRegionalIndicator c = true) :
    columns c = 1 := by
  simp only [isRegionalIndicator, Bool.and_eq_true, decide_eq_true_eq] at h
  have hletters : ∀ i < 26, columns (Char.ofNat (0x1F1E6 + i)) = 1 := by decide +kernel
  exact columns_of_range hletters (by omega) (by omega)

theorem columns_of_le {c : Char} (h : c.toNat ≤ 0xA0) (hc : isControl c = false) :
    columns c = 1 := by
  rcases Nat.lt_or_ge c.toNat 0xA0 with hlt | hge
  · rw [columns, hc]
    simp [hlt]
  · have hspace : ∀ i < 1, columns (Char.ofNat (0xA0 + i)) = 1 := by decide +kernel
    exact columns_of_range hspace hge (by omega)

/-! ### One character -/

theorem ligatureEnd?_ne (c : Char) :
    ligatureEnd? c ≠ some .vowelAndYa ∧ ligatureEnd? c ≠ some .joinerAndConsonant := by
  rw [ligatureEnd?]
  split_ifs
  all_goals decide

theorem beforeAscii_of_not_control {c : Char} (hc : isControl c = false) (next : Context) :
    beforeAscii c next = (1, .other) := by
  obtain ⟨hfeed, hreturn⟩ := not_lineBreak_of_not_control hc
  rw [beforeAscii, hfeed, hreturn]
  rfl

section

variable {c : Char} (hc : NotJoining c)
include hc

/-- The Kirat Rai vowel signs take up the one behind them. -/
theorem not_vowelSign : (c.toNat == 0x16D67) = false ∧ (c.toNat == 0x16D68) = false := by
  have htakes := hc.takesUpNext
  simp only [takesUpNext, Bool.or_eq_false_iff, Bool.and_eq_false_iff,
    decide_eq_false_iff_not] at htakes
  simp only [beq_eq_false_iff_ne]
  omega

theorem isLoose_alone : (alone c).2.IsLoose := by
  obtain ⟨he, hai⟩ := not_vowelSign hc
  simp only [alone, hc.skinTone, he, hai, Bool.false_eq_true, if_false]
  split
  · trivial
  · split
    · trivial
    · have hends := ligatureEnd?_ne c
      split
      next last hlast =>
        rw [hlast] at hends
        exact ⟨rfl, fun h => hends.1 (congrArg some h), fun h => hends.2 (congrArg some h)⟩
      next => trivial

/-- Another character is no part of a ligature, or a mark within it. -/
theorem joinLigature?_cases {last : LigatureEnd} (hya : last ≠ .vowelAndYa)
    (hconsonant : last ≠ .joinerAndConsonant) :
    joinLigature? c last false = none ∨
      joinLigature? c last false = some ((columns c : Int), .ligature last false) := by
  have htakes := hc.takesUpNext
  simp only [takesUpNext, Bool.or_eq_false_iff] at htakes
  obtain ⟨⟨⟨⟨⟨hlam, hsign⟩, htifinagh⟩, htone⟩, -⟩, -⟩ := htakes
  cases last with
  | alef =>
      unfold joinLigature?
      simp only [hlam, Bool.false_eq_true, if_false]
      split
      next hbetween =>
        rw [isBetweenLamAndAlef, Bool.and_eq_true, beq_iff_eq] at hbetween
        rw [hbetween.1]
        exact .inr rfl
      next => exact .inl rfl
  | vowelAndYa => exact absurd rfl hya
  | joinerAndConsonant => exact absurd rfl hconsonant
  | _ =>
      unfold joinLigature?
      simp only [hc.joiner, Bool.false_eq_true, if_false, Bool.false_and,
        hsign, htifinagh, htone]
      split
      next hwithin =>
        rw [columns_of_isWithinLigature hwithin]
        exact .inr rfl
      next => exact .inl rfl

theorem joinEmoji?_cases {next : Following} (hnext : next.IsLoose) :
    joinEmoji? c next = none ∨
      joinEmoji? c next = some ((columns c : Int), .indicators) := by
  cases next with
  | indicator =>
      simp only [joinEmoji?]
      split
      next hletter =>
        rw [columns_of_isRegionalIndicator hletter]
        exact .inr rfl
      next => exact .inl rfl
  | other => exact .inl rfl
  | emoji | indicators =>
      rw [joinEmoji?, hc.joiner]
      exact .inl rfl
  | ligature last joined => exact .inl rfl
  | _ => exact hnext.elim

theorem joinEmoji_getD_of_isLoose (next : Following) (hnext : next.IsLoose) :
    ((joinEmoji? c next).getD (alone c)).1 = columns c ∧
      ((joinEmoji? c next).getD (alone c)).2.IsLoose := by
  rcases joinEmoji?_cases hc hnext with h | h
  · rw [h]
    exact ⟨rfl, isLoose_alone hc⟩
  · rw [h]
    exact ⟨rfl, trivial⟩

theorem beforeFollowing_of_isLoose {next : Following} (hnext : next.IsLoose) :
    (beforeFollowing c next).1 = columns c ∧ (beforeFollowing c next).2.IsLoose := by
  cases next with
  | ligature last joined =>
      obtain ⟨rfl, hya, hconsonant⟩ := hnext
      rw [beforeFollowing]
      rcases joinLigature?_cases hc hya hconsonant with h | h
      · rw [h]
        exact ⟨rfl, isLoose_alone hc⟩
      · rw [h]
        exact ⟨rfl, rfl, hya, hconsonant⟩
  | other => exact joinEmoji_getD_of_isLoose hc .other trivial
  | emoji => exact joinEmoji_getD_of_isLoose hc .emoji trivial
  | indicator => exact joinEmoji_getD_of_isLoose hc .indicator trivial
  | indicators =>
      -- A third letter begins a flag of its own.
      simp only [beforeFollowing]
      split
      · exact joinEmoji_getD_of_isLoose hc .indicator trivial
      · exact joinEmoji_getD_of_isLoose hc .indicators trivial
  | _ => exact hnext.elim

theorem before_of_isLoose {next : Context} (hcontrol : isControl c = false) (hnext : next.IsLoose) :
    (before c next).1 = columns c ∧ (before c next).2.IsLoose := by
  obtain ⟨following, selector⟩ := next
  obtain ⟨rfl, hloose⟩ := hnext
  have hnone (s : Char) : ((none : Option Char) == some s) = false := rfl
  unfold before
  simp only [hc.selector, hnone, Bool.false_eq_true, if_false, Option.isSome_none,
    Bool.false_and]
  split
  next hle =>
    rw [beforeAscii_of_not_control hcontrol, columns_of_le hle hcontrol]
    exact ⟨rfl, rfl, trivial⟩
  next =>
    obtain ⟨hcolumns, hbefore⟩ := beforeFollowing_of_isLoose hc hloose
    exact ⟨hcolumns, rfl, hbefore⟩

end

/-! ## Columns of texts -/

/-- Counted from the end, the columns are those of the characters. -/
theorem fst_foldr_eq {cs : List Char} {step : Char → Int × Context → Int × Context}
    (hcontrol : ∀ c ∈ cs, isControl c = false) (hjoining : ∀ c ∈ cs, isJoining c = false)
    (hstep : ∀ c r, step c r = (r.1 + (before c r.2).1, (before c r.2).2)) :
    (cs.foldr step (0, {})).1 = totalColumns cs ∧ (cs.foldr step (0, {})).2.IsLoose := by
  induction cs with
  | nil => exact ⟨rfl, rfl, trivial⟩
  | cons c cs ih =>
      obtain ⟨hc, hcontrol⟩ := List.forall_mem_cons.mp hcontrol
      obtain ⟨hj, hjoining⟩ := List.forall_mem_cons.mp hjoining
      obtain ⟨htotal, hloose⟩ := ih hcontrol hjoining
      obtain ⟨hcolumns, hbefore⟩ := before_of_isLoose (notJoining_of_eq_false hj) hc hloose
      rw [List.foldr_cons, hstep]
      refine ⟨?_, hbefore⟩
      rw [htotal, hcolumns, totalColumns_cons, Nat.add_comm]
      rfl

theorem width_eq_totalColumns {cs : List Char} (hcontrol : ∀ c ∈ cs, isControl c = false)
    (hjoining : ∀ c ∈ cs, isJoining c = false) : width cs = totalColumns cs := by
  rw [width, (fst_foldr_eq hcontrol hjoining ?_).1]
  · rfl
  · exact fun c r => rfl

theorem symbolWidth_eq_totalColumns {cs : List Char} (hcontrol : ∀ c ∈ cs, isControl c = false)
    (hjoining : ∀ c ∈ cs, isJoining c = false) : symbolWidth cs = totalColumns cs := by
  have hmarks : cs.countP isVoicingMark = 0 := by
    rw [List.countP_eq_zero]
    intro c hc
    rw [(notJoining_of_eq_false (hjoining c hc)).voicingMark]
    exact Bool.false_ne_true
  rw [symbolWidth, hmarks, width_eq_totalColumns hcontrol hjoining, Nat.add_zero]

/-- The columns that a cluster takes where a text is drawn.  Controls are left out. -/
def shownColumns (k : List Char) : Nat := if k.any isControl then 0 else symbolWidth k

/-- A cluster without joining characters takes the columns of its characters. -/
theorem shownColumns_eq_totalColumns {k cs : List Char} (h : k ∈ clusters cs)
    (hjoining : ∀ c ∈ k, isJoining c = false) : shownColumns k = totalColumns k := by
  rw [shownColumns]
  split
  next hany =>
    -- One of the characters is a control, so all of them are.
    obtain ⟨d, hd, hcontrol⟩ := List.any_eq_true.mp hany
    rcases controlsApart_of_mem_clusters h with hall | hcontrols
    · refine ((totalColumns_eq_zero_iff k).mpr fun c hc => ?_).symm
      rw [columns, hall c hc]
      rfl
    · rw [hcontrols d hd] at hcontrol
      cases hcontrol
  next hany =>
    rw [List.any_eq_true] at hany
    apply symbolWidth_eq_totalColumns ?_ hjoining
    intro c hc
    rw [← Bool.not_eq_true]
    exact fun hcontrol => hany ⟨c, hc, hcontrol⟩

/-- The columns that a text takes where it is drawn. -/
def drawnColumns (cs : List Char) : Nat := ((clusters cs).map shownColumns).sum

/-- How many columns the characters of a cluster have more than the cluster. -/
def surplus (k : List Char) : Int := totalColumns k - shownColumns k

/-- Only a cluster with a joining character takes other columns than its characters. -/
theorem exists_isJoining_of_surplus_ne {k cs : List Char} (h : k ∈ clusters cs)
    (hsurplus : surplus k ≠ 0) : ∃ c ∈ k, isJoining c = true := by
  by_cases hjoins : ∃ c ∈ k, isJoining c = true
  · exact hjoins
  · have hjoining : ∀ c ∈ k, isJoining c = false := by
      intro c hc
      rw [← Bool.not_eq_true]
      exact fun hc' => hjoins ⟨c, hc, hc'⟩
    rw [surplus, shownColumns_eq_totalColumns h hjoining, Int.sub_self] at hsurplus
    exact absurd rfl hsurplus

theorem totalColumns_flatten (ks : List (List Char)) :
    totalColumns ks.flatten = (ks.map totalColumns).sum := by
  induction ks with
  | nil => rfl
  | cons k ks ih => rw [List.flatten_cons, totalColumns_append, ih, List.map_cons, List.sum_cons]

/-- A text without joining characters is drawn in the columns of its characters. -/
theorem drawnColumns_eq_totalColumns {cs : List Char} (hjoining : ∀ c ∈ cs, isJoining c = false) :
    drawnColumns cs = totalColumns cs := by
  have hclusters : (clusters cs).map shownColumns = (clusters cs).map totalColumns := by
    refine List.map_congr_left fun k hk => shownColumns_eq_totalColumns hk fun c hc => ?_
    apply hjoining
    rw [← flatten_clusters cs]
    exact List.mem_flatten_of_mem hk hc
  rw [drawnColumns, hclusters, ← totalColumns_flatten, flatten_clusters]

/-- The characters of a text have as many columns more than its clusters as the surpluses of
these come to. -/
theorem totalColumns_sub_drawnColumns (cs : List Char) :
    (totalColumns cs : Int) - drawnColumns cs = ((clusters cs).map surplus).sum := by
  have htotal : totalColumns cs = ((clusters cs).map totalColumns).sum := by
    rw [← totalColumns_flatten, flatten_clusters]
  rw [htotal, drawnColumns]
  generalize clusters cs = ks
  induction ks with
  | nil => rfl
  | cons k ks ih =>
      simp only [List.map_cons, List.sum_cons]
      rw [← ih, surplus]
      omega

end DevicePanel.Text
