import DevicePanel.Proofs.Text.LetterCase
import DevicePanel.Theme.Choice

/-!
# The palette that is chosen

What the terminal can show is decided first: by its color mode, if the environment names one,
and else by force or by how the terminal is described.  A terminal without 24-bit color has
the indexed palette.  For any other the environment's theme counts, then the preferred one,
and a name that leads to no palette is as good as none.  Blanks around a name and the case of
its letters never count.

The main statement says of every environment which color mode and which palette it has.  No
name leads to two palettes, so the order of the palettes is not part of it.
-/

namespace DevicePanel.Palette

open Text (IsWord SameUpToCase)

/-! ## What an environment says -/

/-- The words for a color mode. -/
def ColorMode.words : ColorMode → List String
  | .truecolor => ["truecolor", "24bit"]
  | .indexed => ["ansi256", "256", "8bit"]

/-- Somewhere in the text stands `part`, up to the case of letters. -/
def Mentions (text part : String) : Prop :=
  ∃ before middle after, text = before ++ middle ++ after ∧ SameUpToCase middle part

/-- The environment says by its name which color mode there is. -/
def NamesMode (env : Environment) (mode : ColorMode) : Prop :=
  ∃ name ∈ env "TUI_COLOR_MODE", IsWord mode.words name

/-- The terminal is forced to 24-bit color, or its description mentions it. -/
def SuggestsTruecolor (env : Environment) : Prop :=
  (∃ word ∈ env "TUI_FORCE_TRUECOLOR", IsWord ["1", "true", "yes", "on"] word) ∨
  (∃ text ∈ env "COLORTERM", Mentions text "truecolor" ∨ Mentions text "24bit") ∨
  (∃ text ∈ env "TERM", Mentions text "truecolor")

/-- The color mode of an environment: the one it names, and else 24-bit color where that is
suggested. -/
inductive HasMode (env : Environment) : ColorMode → Prop
  | named {mode : ColorMode} (h : NamesMode env mode) : HasMode env mode
  | suggested (hunnamed : ∀ mode, ¬NamesMode env mode) (h : SuggestsTruecolor env) :
      HasMode env .truecolor
  | notSuggested (hunnamed : ∀ mode, ¬NamesMode env mode) (h : ¬SuggestsTruecolor env) :
      HasMode env .indexed

/-- All names that lead to a palette. -/
def names (p : Palette) : List String := p.id :: p.aliases

/-- There is a text, and it is a name of the palette. -/
def LeadsTo (text : Option String) (p : Palette) : Prop :=
  p ∈ all ∧ ∃ name ∈ text, IsWord p.names name

/-- The palette for an environment and a preferred name. -/
inductive Chosen (env : Environment) (preferred : Option String) : Palette → Prop
  | byMode (hmode : HasMode env .indexed) : Chosen env preferred ansi256
  | byEnvironment {p : Palette} (hmode : HasMode env .truecolor)
      (h : LeadsTo (env "TUI_THEME") p) : Chosen env preferred p
  | byPreference {p : Palette} (hmode : HasMode env .truecolor)
      (hunknown : ∀ q, ¬LeadsTo (env "TUI_THEME") q) (h : LeadsTo preferred p) :
      Chosen env preferred p
  | byDefault (hmode : HasMode env .truecolor) (hunknown : ∀ q, ¬LeadsTo (env "TUI_THEME") q)
      (hpreferred : ∀ q, ¬LeadsTo preferred q) : Chosen env preferred dracula

variable {env : Environment} {preferred : Option String}

/-! ## Parts of texts -/

theorem occursIn_iff {part cs : List Char} : occursIn part cs = true ↔ part <:+: cs := by
  induction cs with
  | nil => rw [occursIn, List.isEmpty_iff, List.infix_nil]
  | cons c cs ih =>
      rw [occursIn, Bool.or_eq_true, List.isPrefixOf_iff_prefix, ih, List.infix_cons_iff]

/-- A part in small letters is looked for by the small letters of the text. -/
theorem mentions_toLower_iff {part : String} (hpart : part.toLower = part) {text : String} :
    mentions text.toLower part = true ↔ Mentions text part := by
  rw [mentions, occursIn_iff, Text.toList_toLower, List.infix_map_iff]
  constructor
  · rintro ⟨middle, ⟨before, after, htext⟩, hmiddle⟩
    refine ⟨String.ofList before, String.ofList middle, String.ofList after, ?_, ?_⟩
    · rw [← String.ofList_append, ← String.ofList_append, htext, String.ofList_toList]
    · rw [Text.sameUpToCase_iff, hpart, ← String.toList_inj, Text.toList_toLower,
        String.toList_ofList, hmiddle]
  · rintro ⟨before, middle, after, rfl, hsame⟩
    refine ⟨middle.toList, ⟨before.toList, after.toList, ?_⟩, ?_⟩
    · rw [String.toList_append, String.toList_append]
    · rw [← Text.toList_toLower, Text.sameUpToCase_iff.mp hsame, hpart]

/-- A text that is not there mentions nothing. -/
theorem mentions_getD_iff {part : String} (hpart : part.toLower = part) (hne : part ≠ "")
    {text? : Option String} :
    mentions (text?.getD "").toLower part = true ↔ ∃ text ∈ text?, Mentions text part := by
  cases text? with
  | none =>
      have hchars : part.toList ≠ [] := fun h => hne (String.toList_eq_nil_iff.mp h)
      simp [mentions, Text.toList_toLower, occursIn_iff, hchars]
  | some text => simp [mentions_toLower_iff hpart]

/-! ## Color modes -/

theorem ColorMode.toLower_words (mode : ColorMode) :
    ∀ word ∈ mode.words, word.toLower = word := by
  cases mode <;> decide +kernel

theorem ColorMode.words_apart :
    ∀ w ∈ truecolor.words, ∀ v ∈ indexed.words, ¬SameUpToCase w v := by
  decide +kernel

theorem ColorMode.ofName?_eq_some_iff {name : String} {mode : ColorMode} :
    ofName? (Text.trim name) = some mode ↔ IsWord mode.words name := by
  have hname : ofName? (Text.trim name) =
      if truecolor.words.contains (Text.trim name).toLower then some truecolor
      else if indexed.words.contains (Text.trim name).toLower then some indexed else none := rfl
  have hword (mode : ColorMode) : mode.words.contains (Text.trim name).toLower = true ↔
      IsWord mode.words name := Text.contains_toLower_iff mode.toLower_words
  by_cases htruecolor : IsWord truecolor.words name
  · have hother : ¬IsWord indexed.words name := htruecolor.not_isWord words_apart
    rw [hname, if_pos ((hword truecolor).mpr htruecolor)]
    cases mode <;> simp [htruecolor, hother]
  · rw [hname, if_neg (mt (hword truecolor).mp htruecolor)]
    cases mode with
    | truecolor => simp [htruecolor]
    | indexed => simp [← hword]

theorem namesMode_iff {mode : ColorMode} : NamesMode env mode ↔
    (env "TUI_COLOR_MODE").bind (fun name => ColorMode.ofName? (Text.trim name)) = some mode := by
  rw [Option.bind_eq_some_iff]
  simp only [NamesMode, ColorMode.ofName?_eq_some_iff, Option.mem_def]

theorem colorMode_of_namesMode {mode : ColorMode} (h : NamesMode env mode) :
    colorMode env = mode := by
  rw [colorMode, namesMode_iff.mp h]

theorem isYes_trim_iff {word : String} :
    isYes (Text.trim word) = true ↔ IsWord ["1", "true", "yes", "on"] word :=
  Text.contains_toLower_iff (by decide +kernel)

/-- Without a mode by name, what is suggested counts. -/
theorem colorMode_eq_truecolor_iff (hunnamed : ∀ mode, ¬NamesMode env mode) :
    colorMode env = .truecolor ↔ SuggestsTruecolor env := by
  have hnone : (env "TUI_COLOR_MODE").bind
      (fun name => ColorMode.ofName? (Text.trim name)) = none :=
    Option.eq_none_iff_forall_ne_some.mpr fun mode hmode =>
      hunnamed mode (namesMode_iff.mpr hmode)
  have htruecolor : ("truecolor" : String).toLower = "truecolor" := by decide +kernel
  have hbits : ("24bit" : String).toLower = "24bit" := by decide +kernel
  rw [colorMode, hnone]
  dsimp only
  rw [ite_eq_left_iff]
  simp only [Bool.or_eq_true, Option.any_eq_true, isYes_trim_iff,
    mentions_getD_iff htruecolor (by decide), mentions_getD_iff hbits (by decide)]
  simp only [SuggestsTruecolor, Option.mem_def, and_or_left, exists_or, or_assoc, reduceCtorEq,
    imp_false, not_not]

theorem hasMode_colorMode (env : Environment) : HasMode env (colorMode env) := by
  by_cases hnamed : ∃ mode, NamesMode env mode
  · obtain ⟨mode, hmode⟩ := hnamed
    rw [colorMode_of_namesMode hmode]
    exact .named hmode
  · have hunnamed : ∀ mode, ¬NamesMode env mode := not_exists.mp hnamed
    have htruecolor := colorMode_eq_truecolor_iff hunnamed
    cases hmode : colorMode env with
    | truecolor => exact .suggested hunnamed (htruecolor.mp hmode)
    | indexed =>
        refine .notSuggested hunnamed fun h => ?_
        exact ColorMode.noConfusion (hmode.symm.trans (htruecolor.mpr h))

theorem HasMode.colorMode_eq {mode : ColorMode} (h : HasMode env mode) :
    colorMode env = mode := by
  cases h with
  | named h => exact colorMode_of_namesMode h
  | suggested hunnamed h => exact (colorMode_eq_truecolor_iff hunnamed).mpr h
  | notSuggested hunnamed h =>
      cases hmode : colorMode env with
      | truecolor => exact absurd ((colorMode_eq_truecolor_iff hunnamed).mp hmode) h
      | indexed => rfl

/-! ## Palettes by name -/

/-- No two palettes share a name. -/
theorem pairwise_names :
    all.Pairwise fun p q => ∀ m ∈ p.names, ∀ n ∈ q.names, ¬SameUpToCase m n := by
  decide +kernel

theorem any_names_iff {p : Palette} {name : String} :
    (p.names.any fun n => n.toLower == (Text.trim name).toLower) = true ↔ IsWord p.names name := by
  rw [List.any_eq_true]
  refine exists_congr fun n => and_congr_right fun _ => ?_
  rw [beq_iff_eq, Text.sameUpToCase_iff, eq_comm]

theorem ofName?_eq_some_iff {name : String} {p : Palette} :
    ofName? (Text.trim name) = some p ↔ p ∈ all ∧ IsWord p.names name := by
  have hfind : ofName? (Text.trim name) = all.find? fun p =>
      p.names.any fun n => n.toLower == (Text.trim name).toLower := rfl
  rw [hfind]
  constructor
  · intro h
    have hname := List.find?_some h
    exact ⟨List.mem_of_find?_eq_some h, any_names_iff.mp hname⟩
  · rintro ⟨hmem, hname⟩
    obtain ⟨before, after, hall⟩ := List.append_of_mem hmem
    refine List.find?_eq_some_iff_append.mpr
      ⟨any_names_iff.mpr hname, before, after, hall, fun q hq => ?_⟩
    -- A palette before `p` shares no name with it.
    have happart := (List.pairwise_append.mp (hall ▸ pairwise_names)).2.2 q hq p List.mem_cons_self
    rw [Bool.not_eq_true', Bool.eq_false_iff, Ne, any_names_iff]
    exact fun h => h.not_isWord happart hname

/-- The palette that a text leads to, if there is one. -/
def named? (text? : Option String) : Option Palette :=
  text?.bind fun name => ofName? (Text.trim name)

theorem named?_eq_some_iff {text? : Option String} {p : Palette} :
    named? text? = some p ↔ LeadsTo text? p := by
  rw [named?, Option.bind_eq_some_iff]
  simp only [ofName?_eq_some_iff]
  constructor
  · rintro ⟨name, htext, hmem, hname⟩
    exact ⟨hmem, name, htext, hname⟩
  · rintro ⟨hmem, name, htext, hname⟩
    exact ⟨name, htext, hmem, hname⟩

theorem named?_eq_none_iff {text? : Option String} :
    named? text? = none ↔ ∀ p, ¬LeadsTo text? p := by
  simp only [Option.eq_none_iff_forall_ne_some, Ne, named?_eq_some_iff]

/-! ## The choice -/

theorem choose_of_indexed (h : colorMode env = .indexed) : choose env preferred = ansi256 := by
  rw [choose, h]

theorem choose_of_truecolor (h : colorMode env = .truecolor) :
    choose env preferred = (named? (env "TUI_THEME") <|> named? preferred).getD dracula := by
  rw [choose, h]
  rfl

theorem chosen_choose (env : Environment) (preferred : Option String) :
    Chosen env preferred (choose env preferred) := by
  have hmode := hasMode_colorMode env
  cases hcolor : colorMode env with
  | indexed =>
      rw [hcolor] at hmode
      rw [choose_of_indexed hcolor]
      exact .byMode hmode
  | truecolor =>
      rw [hcolor] at hmode
      rw [choose_of_truecolor hcolor]
      cases htheme : named? (env "TUI_THEME") with
      | some p => exact .byEnvironment hmode (named?_eq_some_iff.mp htheme)
      | none =>
          have hunknown := named?_eq_none_iff.mp htheme
          cases hpreferred : named? preferred with
          | some p => exact .byPreference hmode hunknown (named?_eq_some_iff.mp hpreferred)
          | none => exact .byDefault hmode hunknown (named?_eq_none_iff.mp hpreferred)

theorem Chosen.choose_eq {p : Palette} (h : Chosen env preferred p) :
    choose env preferred = p := by
  cases h with
  | byMode hmode => exact choose_of_indexed hmode.colorMode_eq
  | byEnvironment hmode h =>
      rw [choose_of_truecolor hmode.colorMode_eq, named?_eq_some_iff.mpr h]
      rfl
  | byPreference hmode hunknown h =>
      rw [choose_of_truecolor hmode.colorMode_eq, named?_eq_none_iff.mpr hunknown,
        named?_eq_some_iff.mpr h]
      rfl
  | byDefault hmode hunknown hpreferred =>
      rw [choose_of_truecolor hmode.colorMode_eq, named?_eq_none_iff.mpr hunknown,
        named?_eq_none_iff.mpr hpreferred]
      rfl

/-- Every environment has one color mode, and for every preferred name one palette: the
indexed one without 24-bit color, whatever is named; and else the one that the environment's
theme leads to, or the preferred name, or the first palette. -/
theorem palette_follows_mode_and_names (env : Environment) (preferred : Option String) :
    (∀ mode, colorMode env = mode ↔ HasMode env mode) ∧
      ∀ p, choose env preferred = p ↔ Chosen env preferred p := by
  refine ⟨fun mode => ⟨?_, HasMode.colorMode_eq⟩, fun p => ⟨?_, Chosen.choose_eq⟩⟩
  · rintro rfl
    exact hasMode_colorMode env
  · rintro rfl
    exact chosen_choose env preferred

/-- What is not recognized is passed over: the mode, then the theme of the environment. -/
example :
    let env : Environment := fun name =>
      if name = "TUI_COLOR_MODE" then some "mono"
      else if name = "COLORTERM" then some "a TrueColor terminal"
      else if name = "TUI_THEME" then some "solarized" else none
    (choose env (some " polar ")).id = "nord" := by
  decide +kernel

end DevicePanel.Palette
