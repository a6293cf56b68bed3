import DevicePanel.Proofs.Json.Structure
import DevicePanel.Proofs.Json.WholeNumber
import DevicePanel.Proofs.Text.Trim

/-!
# Reading back what is written

The reader undoes the printer on values whose objects are ordered and whose numbers are
integers, as long as they are not nested too deep.  Written text stands between other
characters, so each part of the reader is followed up to the characters that it leaves.
-/

namespace DevicePanel.Json

/-- A reader of values. -/
abbrev Reader := List Char → Except Fault (Json × List Char)

/-! ## Strings -/

theorem hexValue?_hexDigit {n : Nat} (h : n < 16) : hexValue? (hexDigit n) = some n := by
  decide +revert

theorem utf8Size_hexDigit {n : Nat} (h : n < 16) : (hexDigit n).utf8Size = 1 := by
  decide +revert

theorem readHex_hexDigits {a b : Nat} (ha : a < 16) (hb : b < 16) (r : List Char) :
    readHex ('0' :: '0' :: hexDigit a :: hexDigit b :: r) = .ok (a * 16 + b) := by
  have hzero : hexValue? '0' = some 0 := rfl
  have hlength : Text.byteLength ['0', '0', hexDigit a, hexDigit b] = 4 := by
    simp only [Text.byteLength, List.foldl_cons, List.foldl_nil, utf8Size_hexDigit ha,
      utf8Size_hexDigit hb]
    rfl
  have hvalues : ['0', '0', hexDigit a, hexDigit b].mapM hexValue? = some [0, 0, a, b] := by
    simp [hzero, hexValue?_hexDigit ha, hexValue?_hexDigit hb]
  have htake : ('0' :: '0' :: hexDigit a :: hexDigit b :: r).take 4 =
      ['0', '0', hexDigit a, hexDigit b] := rfl
  rw [readHex, htake, hlength, hvalues]
  simp

theorem readEscape_hexDigits {c : Char} (h : c.toNat < 32) (r : List Char) :
    readEscape ('u' :: '0' :: '0' :: hexDigit (c.toNat / 16) :: hexDigit (c.toNat % 16) :: r) =
      .ok (c, 5) := by
  have hhex := readHex_hexDigits (by omega : c.toNat / 16 < 16) (by omega : c.toNat % 16 < 16) r
  rw [Nat.div_add_mod' c.toNat 16] at hhex
  have hlow : ¬(0xDC00 ≤ c.toNat ∧ c.toNat ≤ 0xDFFF) := by omega
  have hhigh : ¬(0xD800 ≤ c.toNat ∧ c.toNat ≤ 0xDBFF) := by omega
  rw [readEscape, hhex]
  simp only [bind, Except.bind]
  rw [if_neg hlow, if_neg hhigh, Char.ofNat_toNat]

theorem readString_backslash {done r : List Char} {c : Char} {taken : Nat}
    (h : readEscape r = .ok (c, taken)) :
    readString done 0 ('\\' :: r) = readString (c :: done) taken r := by
  rw [readString, if_neg (by decide), if_pos (by decide), h]

/-- A character is read back from the way it is written inside a string. -/
theorem readString_escape (done : List Char) (c : Char) (r : List Char) :
    readString done 0 (escape c ++ r) = readString (c :: done) 0 r := by
  unfold escape
  -- The quote, the backslash and the three line and column characters.
  iterate 5
    split
    · next h =>
        obtain rfl := beq_iff_eq.mp h
        rfl
  -- The backspace and the form feed.
  iterate 2
    split
    · next h =>
        obtain rfl : c = Char.ofNat _ :=
          (Char.ofNat_toNat c).symm.trans (congrArg Char.ofNat (beq_iff_eq.mp h))
        rfl
  split
  · next h => exact readString_backslash (readEscape_hexDigits h r)
  · next hquote hbackslash _ _ _ _ _ hcontrol =>
      rw [List.singleton_append, readString, if_neg hquote, if_neg hbackslash, if_neg hcontrol]

theorem readString_flatMap (cs done rest : List Char) :
    readString done 0 (cs.flatMap escape ++ '"' :: rest) =
      .ok (String.ofList (done.reverse ++ cs), rest) := by
  induction cs generalizing done with
  | nil => rw [List.append_nil]; rfl
  | cons c cs ih =>
      rw [List.flatMap_cons, List.append_assoc, readString_escape, ih, List.reverse_cons,
        List.append_assoc, List.singleton_append]

/-- A text is read back behind its opening quote. -/
theorem readString_quoted (s : String) (rest : List Char) :
    readString [] 0 (s.toList.flatMap escape ++ ['"'] ++ rest) = .ok (s, rest) := by
  rw [List.append_assoc, List.singleton_append, readString_flatMap, List.reverse_nil,
    List.nil_append, String.ofList_toList]

/-! ## Numbers -/

/-- What follows a number does not go on with it. -/
def EndsNumber (rest : List Char) : Prop :=
  ∀ c, rest.head? = some c → c.isDigit = false ∧ c ≠ '.' ∧ c ≠ 'e' ∧ c ≠ 'E'

theorem endsNumber_nil : EndsNumber [] := fun _ h => nomatch h

theorem endsNumber_cons {c : Char} (h : c = ',' ∨ c = ']' ∨ c = '\x7d') (rest : List Char) :
    EndsNumber (c :: rest) := by
  intro d hd
  obtain rfl := Option.some.inj hd
  rcases h with rfl | rfl | rfl <;> decide

theorem EndsNumber.startsWithDigit_eq {rest : List Char} (h : EndsNumber rest) :
    startsWithDigit rest = false := by
  cases rest with
  | nil => rfl
  | cons c rest => exact (h c rfl).1

/-- Digits are read up to a character that is none, if their number is not too great. -/
theorem readDigits_append {limit n : Nat} (count : Nat) {cs rest : List Char}
    (hcs : ∀ c ∈ cs, c.isDigit = true) (hfits : Nat.ofDigitChars 10 cs n ≤ limit)
    (hrest : startsWithDigit rest = false) :
    readDigits limit n count (cs ++ rest) =
      (Nat.ofDigitChars 10 cs n, count + cs.length, rest) := by
  induction cs generalizing n count with
  | nil =>
      cases rest with
      | nil => rfl
      | cons c rest =>
          have hstop : ¬(c.isDigit && decide (n * 10 + digitValue c ≤ limit)) = true := by
            rw [show c.isDigit = false from hrest, Bool.false_and]
            decide
          rw [List.nil_append, readDigits, if_neg hstop]
          rfl
  | cons c cs ih =>
      rw [ofDigitChars_cons_digitValue] at hfits ⊢
      have hstep : (c.isDigit && decide (n * 10 + digitValue c ≤ limit)) = true := by
        rw [hcs c List.mem_cons_self, Bool.true_and, decide_eq_true_eq]
        exact (le_ofDigitChars cs _).trans hfits
      rw [List.cons_append, readDigits, if_pos hstep,
        ih (count + 1) (fun d hd => hcs d (List.mem_cons_of_mem c hd)) hfits,
        List.length_cons, Nat.add_assoc, Nat.add_comm 1]

/-- A positive number is not written with a zero in front. -/
theorem head?_natDigits_ne {n : Nat} (h : 0 < n) : (Number.natDigits n).head? ≠ some '0' := by
  induction n using Nat.strongRecOn with
  | ind n ih =>
      rw [Number.natDigits]
      by_cases hlt : n < 10
      · rw [Nat.toDigits_of_lt_base hlt]
        have hdigit : ∀ m < 10, 0 < m → [m.digitChar].head? ≠ some '0' := by decide
        exact hdigit n hlt h
      · have hquotient : 0 < n / 10 := Nat.div_pos (Nat.not_lt.mp hlt) (by decide)
        rw [Nat.toDigits_of_base_le (by decide) (Nat.not_lt.mp hlt), List.head?_append]
        have hhead := ih (n / 10) (Nat.div_lt_self h (by decide)) hquotient
        cases hdigits : (Nat.toDigits 10 (n / 10)).head? with
        | none => exact absurd (List.head?_eq_none_iff.mp hdigits) Nat.toDigits_ne_nil
        | some c =>
            rw [Number.natDigits, hdigits] at hhead
            exact hhead

theorem digitsValue_natDigits (n : Nat) : digitsValue (Number.natDigits n) = n :=
  Nat.ofDigitChars_toDigits (by decide) (by decide)

theorem readAfterWhole_of_ends {rest : List Char} (h : EndsNumber rest) (negative : Bool)
    (n : Nat) : readAfterWhole negative n rest = .ok (wholeNumber negative n, rest) := by
  unfold readAfterWhole
  split
  · exact absurd rfl (h '.' rfl).2.1
  · exact absurd rfl (h 'e' rfl).2.2.1
  · exact absurd rfl (h 'E' rfl).2.2.2
  · rfl

theorem readUnsigned_natDigits (negative : Bool) {n : Nat} (hn : n ≤ maxSignificand)
    {rest : List Char} (hrest : EndsNumber rest) :
    readUnsigned negative (Number.natDigits n ++ rest) = .ok (wholeNumber negative n, rest) := by
  rcases Nat.eq_zero_or_pos n with rfl | hpos
  · have hread : readUnsigned negative ('0' :: rest) =
        if startsWithDigit rest then .error (.on .badNumber rest)
        else readAfterWhole negative 0 rest := rfl
    exact hread.trans (by
      rw [hrest.startsWithDigit_eq, if_neg Bool.false_ne_true, readAfterWhole_of_ends hrest])
  · have hvalue := digitsValue_natDigits n
    have hhead := head?_natDigits_ne hpos
    have hdigits : ∀ c ∈ Number.natDigits n, c.isDigit = true :=
      fun c hc => Number.isDigit_of_mem_natDigits hc
    generalize Number.natDigits n = cs at hvalue hhead hdigits ⊢
    cases cs with
    | nil => exact absurd hvalue hpos.ne
    | cons c cs =>
        have hzero : ¬(c == '0') = true := fun h => hhead (congrArg some (beq_iff_eq.mp h))
        rw [digitsValue_cons] at hvalue
        have hread := readDigits_append 0 (fun d hd => hdigits d (List.mem_cons_of_mem c hd))
          (hvalue.trans_le hn) hrest.startsWithDigit_eq
        rw [List.cons_append, readUnsigned, if_neg hzero, if_pos (hdigits c List.mem_cons_self),
          hread]
        dsimp only
        rw [hrest.startsWithDigit_eq, if_neg Bool.false_ne_true, hvalue,
          readAfterWhole_of_ends hrest]

theorem wholeNumber_eq {negative : Bool} {n : Nat} {i : Int}
    (inRange : -9223372036854775808 ≤ i ∧ i < 18446744073709551616)
    (hi : (if negative then -(n : Int) else n) = i) (hzero : ¬(negative && n == 0) = true) :
    wholeNumber negative n = .integer i inRange := by
  have hexact : Number.ofInt? i = some (.integer i inRange) := dif_pos inRange
  rw [wholeNumber, if_neg hzero, hi, hexact]

theorem readNumber_of_digit {c : Char} (hc : c.isDigit = true) (cs : List Char) :
    readNumber (c :: cs) = readUnsigned false (c :: cs) := by
  rw [readNumber]
  rintro r hminus
  cases hminus
  cases hc

/-- An integer is read back up to what does not go on with it. -/
theorem readNumber_integerText {i : Int}
    (inRange : -9223372036854775808 ≤ i ∧ i < 18446744073709551616) {rest : List Char}
    (hrest : EndsNumber rest) :
    readNumber (Number.integerText i ++ rest) = .ok (.integer i inRange, rest) := by
  cases i with
  | ofNat n =>
      have hn : n ≤ maxSignificand := by
        have hlt : (n : Int) < 18446744073709551616 := inRange.2
        rw [maxSignificand]
        omega
      have hunsigned : readNumber (Number.natDigits n ++ rest) =
          readUnsigned false (Number.natDigits n ++ rest) := by
        obtain ⟨c, cs, hcs, hc⟩ := Number.exists_natDigits_eq n
        rw [hcs]
        exact readNumber_of_digit hc _
      rw [Number.integerText, hunsigned, readUnsigned_natDigits false hn hrest,
        wholeNumber_eq inRange rfl (by simp)]
  | negSucc n =>
      have hn : n + 1 ≤ maxSignificand := by
        have := inRange.1
        rw [maxSignificand]
        omega
      have hsign : readNumber (Number.integerText (.negSucc n) ++ rest) =
          readUnsigned true (Number.natDigits (n + 1) ++ rest) := rfl
      rw [hsign, readUnsigned_natDigits true hn hrest, wholeNumber_eq inRange rfl (by simp)]

/-! ## Values and what they start with -/

/-- The characters other than digits with which the text of a value may start. -/
def openers : List Char := ['n', 't', 'f', '"', '[', '\x7b', '-']

/-- The text of a value may start with this character. -/
def StartsValue (c : Char) : Prop := c ∈ openers ∨ c.isDigit = true

theorem StartsValue.isBlank_text {c : Char} (h : StartsValue c) : Text.isBlank c = false := by
  rcases h with h | hdigit
  · have hall : openers.all (fun d => Text.isBlank d == false) = true := by decide
    exact beq_iff_eq.mp (List.all_eq_true.mp hall c h)
  · exact isBlank_text_of_digit hdigit

theorem StartsValue.not_blank {c : Char} (h : StartsValue c) : isBlank c = false :=
  isBlank_eq_false h.isBlank_text

theorem StartsValue.ne_bracket {c : Char} (h : StartsValue c) : c ≠ ']' := by
  rintro rfl
  rcases h with h | hdigit
  · exact absurd h (by decide)
  · cases hdigit

/-- The reader reads the text of a value and leaves what follows it. -/
structure ReadsBack (item : Reader) (v : Json) : Prop where
  starts : ∃ c cs, v.chars = c :: cs ∧ StartsValue c
  reads : ∀ rest, EndsNumber rest → item (v.chars ++ rest) = .ok (v, rest)

theorem ReadsBack.length_pos {item : Reader} {v : Json} (h : ReadsBack item v) :
    0 < v.chars.length := by
  obtain ⟨c, cs, hchars, -⟩ := h.starts
  rw [hchars]
  exact Nat.zero_lt_succ _

/-! ## Texts behind commas -/

section Later

variable {α : Type} (text : α → List Char)

/-- The texts behind the first one of an array or an object, each behind its comma. -/
def later (xs : List α) : List Char := xs.flatMap fun x => ',' :: text x

theorem later_cons (x : α) (xs : List α) :
    later text (x :: xs) = ',' :: (text x ++ later text xs) := rfl

theorem endsNumber_later (xs : List α) {close : Char} (h : close = ']' ∨ close = '\x7d')
    (rest : List Char) : EndsNumber (later text xs ++ close :: rest) := by
  cases xs with
  | nil => exact endsNumber_cons (.inr h) rest
  | cons x xs => exact endsNumber_cons (.inl rfl) _

theorem length_le_later (xs : List α) : xs.length ≤ (later text xs).length := by
  induction xs with
  | nil => exact Nat.le_refl 0
  | cons x xs ih =>
      rw [later_cons, List.length_cons, List.length_cons, List.length_append]
      omega

end Later

/-! ## Arrays -/

variable {item : Reader} {items : List Json} {fields : List (String × Json)}

theorem nextItem?_first {c : Char} (h : StartsValue c) (cs : List Char) :
    nextItem? true (c :: cs) = .ok (some (c :: cs)) := by
  rw [nextItem?, skipBlanks_of_not_blank h.not_blank]
  split
  · next heq => cases heq
  · next heq => exact absurd (List.cons.inj heq).1 h.ne_bracket
  · next heq =>
      cases heq
      rfl

theorem nextItem?_comma (s : List Char) :
    nextItem? false (',' :: s) =
      match skipBlanks s with
      | [] => .error (.before .endInValue [])
      | ']' :: r => .error (.on .trailingComma (']' :: r))
      | r => .ok (some r) := rfl

theorem nextItem?_later {c : Char} (h : StartsValue c) (cs : List Char) :
    nextItem? false (',' :: c :: cs) = .ok (some (c :: cs)) := by
  rw [nextItem?_comma, skipBlanks_of_not_blank h.not_blank]
  split
  · next heq => cases heq
  · next heq => exact absurd (List.cons.inj heq).1 h.ne_bracket
  · rfl

theorem itemChars_cons (v : Json) (items : List Json) :
    itemChars (v :: items) = v.chars ++ later chars items := by
  induction items generalizing v with
  | nil => rw [itemChars, later, List.flatMap_nil, List.append_nil]
  | cons w items ih => rw [itemChars, ih w, later_cons]

theorem readItems_later (hread : ∀ v ∈ items, ReadsBack item v) {done : List Json}
    (hdone : done.isEmpty = false) {fuel : Nat} (hfuel : items.length < fuel)
    (rest : List Char) :
    readItems item fuel done (later chars items ++ ']' :: rest) =
      .ok (done.reverse ++ items, rest) := by
  induction items generalizing done fuel with
  | nil =>
      obtain ⟨fuel, rfl⟩ := Nat.exists_eq_add_of_lt hfuel
      rw [readItems, hdone, List.append_nil]
      rfl
  | cons v items ih =>
      obtain ⟨fuel, rfl⟩ := Nat.exists_eq_add_of_lt hfuel
      obtain ⟨⟨c, cs, hchars, hc⟩, hv⟩ := hread v List.mem_cons_self
      have hitem := hv _ (endsNumber_later chars items (.inl rfl) rest)
      have hothers := ih (fun w hw => hread w (List.mem_cons_of_mem v hw))
        (rfl : (v :: done).isEmpty = false) (by rw [List.length_cons]; omega :
          items.length < (v :: items).length + fuel)
      rw [readItems, hdone, later_cons, List.cons_append, List.append_assoc, hchars,
        List.cons_append, nextItem?_later hc]
      dsimp only
      rw [← List.cons_append, ← hchars, hitem]
      dsimp only
      rw [hothers, List.reverse_cons, List.append_assoc, List.singleton_append]

theorem readItems_itemChars (hread : ∀ v ∈ items, ReadsBack item v) {fuel : Nat}
    (hfuel : items.length < fuel) (rest : List Char) :
    readItems item fuel [] (itemChars items ++ ']' :: rest) = .ok (items, rest) := by
  obtain ⟨fuel, rfl⟩ := Nat.exists_eq_add_of_lt hfuel
  cases items with
  | nil => rfl
  | cons v items =>
      obtain ⟨⟨c, cs, hchars, hc⟩, hv⟩ := hread v List.mem_cons_self
      have hitem := hv _ (endsNumber_later chars items (.inl rfl) rest)
      have hothers := readItems_later (fun w hw => hread w (List.mem_cons_of_mem v hw))
        (rfl : [v].isEmpty = false) (by rw [List.length_cons]; omega :
          items.length < (v :: items).length + fuel) rest
      rw [readItems, itemChars_cons, List.append_assoc, hchars, List.cons_append,
        List.isEmpty_nil, nextItem?_first hc]
      dsimp only
      rw [← List.cons_append, ← hchars, hitem]
      exact hothers

theorem length_le_itemChars (hread : ∀ v ∈ items, ReadsBack item v) :
    items.length ≤ (itemChars items).length := by
  cases items with
  | nil => exact Nat.le_refl 0
  | cons v items =>
      have hpos := (hread v List.mem_cons_self).length_pos
      have hlater := length_le_later chars items
      rw [itemChars_cons, List.length_append, List.length_cons]
      omega

theorem readsBack_array (hread : ∀ v ∈ items, ReadsBack item v) :
    ReadsBack (readWith (some item)) (.array items) where
  starts := ⟨'[', _, rfl, .inl (by decide)⟩
  reads rest _ := by
    have htext : (Json.array items).chars ++ rest = '[' :: (itemChars items ++ ']' :: rest) := by
      simp [chars]
    have hlength : items.length < (itemChars items ++ ']' :: rest).length + 1 := by
      have hle := length_le_itemChars hread
      rw [List.length_append]
      omega
    have hopen : readWith (some item) ('[' :: (itemChars items ++ ']' :: rest)) =
        (readItems item ((itemChars items ++ ']' :: rest).length + 1) []
          (itemChars items ++ ']' :: rest)).map fun p => (.array p.1, p.2) := rfl
    rw [htext, hopen, readItems_itemChars hread hlength]
    rfl

/-! ## Objects -/

/-- The text of a field. -/
def oneField (f : String × Json) : List Char := quoted f.1 ++ ':' :: f.2.chars

theorem fieldChars_cons (f : String × Json) (fields : List (String × Json)) :
    fieldChars (f :: fields) = oneField f ++ later oneField fields := by
  induction fields generalizing f with
  | nil => rw [fieldChars, later, List.flatMap_nil, List.append_nil, oneField]
  | cons g fields ih =>
      rw [fieldChars, ih g, later_cons]
      rfl

/-- What is read of a field behind the opening quote of its key. -/
def readField (item : Reader) (r : List Char) : Except Fault ((String × Json) × List Char) := do
  let (key, r) ← readString [] 0 r
  let r ← readColon r
  let (v, r) ← item r
  .ok ((key, v), r)

theorem readField_oneField {f : String × Json} (hread : ReadsBack item f.2) {rest : List Char}
    (hrest : EndsNumber rest) :
    ∃ r, oneField f ++ rest = '"' :: r ∧ readField item r = .ok (f, rest) := by
  refine ⟨f.1.toList.flatMap escape ++ ['"'] ++ ':' :: (f.2.chars ++ rest),
    by simp [oneField, quoted], ?_⟩
  have hcolon : readColon (':' :: (f.2.chars ++ rest)) = .ok (f.2.chars ++ rest) := rfl
  rw [readField, readString_quoted]
  simp only [bind, Except.bind]
  rw [hcolon]
  simp only
  rw [hread.reads rest hrest]

theorem readFields_succ (item : Reader) (fuel : Nat) (done : List (String × Json))
    (s : List Char) :
    readFields item (fuel + 1) done s =
      match nextKey? done.isEmpty s with
      | .error f => .error f
      | .ok none => (closeObject s).map fun rest => (done.reverse, rest)
      | .ok (some r) =>
        match readField item r with
        | .error f => .error f
        | .ok (f, r) => readFields item fuel (f :: done) r := rfl

theorem readFields_later (hread : ∀ f ∈ fields, ReadsBack item f.2)
    {done : List (String × Json)} (hdone : done.isEmpty = false) {fuel : Nat}
    (hfuel : fields.length < fuel) (rest : List Char) :
    readFields item fuel done (later oneField fields ++ '\x7d' :: rest) =
      .ok (done.reverse ++ fields, rest) := by
  induction fields generalizing done fuel with
  | nil =>
      obtain ⟨fuel, rfl⟩ := Nat.exists_eq_add_of_lt hfuel
      rw [readFields, hdone, List.append_nil]
      rfl
  | cons f fields ih =>
      obtain ⟨fuel, rfl⟩ := Nat.exists_eq_add_of_lt hfuel
      obtain ⟨r, htext, hfield⟩ := readField_oneField (hread f List.mem_cons_self)
        (endsNumber_later oneField fields (.inr rfl) rest)
      have hothers := ih (fun g hg => hread g (List.mem_cons_of_mem f hg))
        (rfl : (f :: done).isEmpty = false) (by rw [List.length_cons]; omega :
          fields.length < (f :: fields).length + fuel)
      have hnext : nextKey? done.isEmpty (',' :: '"' :: r) = .ok (some r) := by
        rw [hdone]
        rfl
      rw [later_cons, List.cons_append, List.append_assoc, htext, readFields_succ, hnext]
      dsimp only
      rw [hfield]
      dsimp only
      rw [hothers, List.reverse_cons, List.append_assoc, List.singleton_append]

theorem readFields_fieldChars (hread : ∀ f ∈ fields, ReadsBack item f.2) {fuel : Nat}
    (hfuel : fields.length < fuel) (rest : List Char) :
    readFields item fuel [] (fieldChars fields ++ '\x7d' :: rest) = .ok (fields, rest) := by
  obtain ⟨fuel, rfl⟩ := Nat.exists_eq_add_of_lt hfuel
  cases fields with
  | nil => rfl
  | cons f fields =>
      obtain ⟨r, htext, hfield⟩ := readField_oneField (hread f List.mem_cons_self)
        (endsNumber_later oneField fields (.inr rfl) rest)
      have hothers := readFields_later (fun g hg => hread g (List.mem_cons_of_mem f hg))
        (rfl : [f].isEmpty = false) (by rw [List.length_cons]; omega :
          fields.length < (f :: fields).length + fuel) rest
      have hnext : nextKey? ([] : List (String × Json)).isEmpty ('"' :: r) = .ok (some r) := rfl
      rw [fieldChars_cons, List.append_assoc, htext, readFields_succ, hnext]
      dsimp only
      rw [hfield]
      exact hothers

theorem length_le_fieldChars (fields : List (String × Json)) :
    fields.length ≤ (fieldChars fields).length := by
  cases fields with
  | nil => exact Nat.le_refl 0
  | cons f fields =>
      have hlater := length_le_later oneField fields
      have hfirst : 0 < (oneField f).length := Nat.zero_lt_succ _
      rw [fieldChars_cons, List.length_append, List.length_cons]
      omega

/-- An object is read back if its fields are in order. -/
theorem readsBack_object (hsorted : SortedFields fields)
    (hread : ∀ f ∈ fields, ReadsBack item f.2) :
    ReadsBack (readWith (some item)) (.object fields) where
  starts := ⟨'\x7b', _, rfl, .inl (by decide)⟩
  reads rest _ := by
    have htext : (Json.object fields).chars ++ rest =
        '\x7b' :: (fieldChars fields ++ '\x7d' :: rest) := by
      simp [chars]
    have hlength : fields.length < (fieldChars fields ++ '\x7d' :: rest).length + 1 := by
      have hle := length_le_fieldChars fields
      rw [List.length_append]
      omega
    have hopen : readWith (some item) ('\x7b' :: (fieldChars fields ++ '\x7d' :: rest)) =
        (readFields item ((fieldChars fields ++ '\x7d' :: rest).length + 1) []
          (fieldChars fields ++ '\x7d' :: rest)).map fun p => (ofFields p.1, p.2) := rfl
    have hfields : ofFields fields = .object fields := by
      rw [ofFields_eq, hsorted.sortFields_eq]
    rw [htext, hopen, readFields_fieldChars hread hlength]
    dsimp only [Except.map]
    rw [hfields]

/-! ## Values -/

theorem exists_integerText_eq (i : Int) :
    ∃ c cs, Number.integerText i = c :: cs ∧ (c = '-' ∨ c.isDigit = true) := by
  cases i with
  | ofNat n =>
      obtain ⟨c, cs, hcs, hc⟩ := Number.exists_natDigits_eq n
      exact ⟨c, cs, hcs, .inr hc⟩
  | negSucc n => exact ⟨'-', _, rfl, .inl rfl⟩

theorem readsBack_integer (outer : Option Reader) {i : Int}
    (inRange : -9223372036854775808 ≤ i ∧ i < 18446744073709551616) :
    ReadsBack (readWith outer) (.number (.integer i inRange)) := by
  obtain ⟨c, cs, htext, hc⟩ := exists_integerText_eq i
  have hstarts : StartsValue c := hc.imp_left (by rintro rfl; decide)
  refine ⟨⟨c, cs, htext, hstarts⟩, fun rest hrest => ?_⟩
  have hopen : readWith outer (c :: (cs ++ rest)) =
      (readNumber (c :: (cs ++ rest))).map fun p => (.number p.1, p.2) := by
    rcases hc with rfl | hdigit
    · rfl
    · exact readWith_of_digit outer hdigit _
  have hnumber := readNumber_integerText inRange hrest
  rw [htext, List.cons_append] at hnumber
  have hchars : (Json.number (.integer i inRange)).chars ++ rest = c :: (cs ++ rest) := by
    rw [← List.cons_append, ← htext]
    rfl
  rw [hchars, hopen, hnumber]
  rfl

theorem readsBack_text (outer : Option Reader) (s : String) :
    ReadsBack (readWith outer) (.text s) where
  starts := ⟨'"', _, rfl, .inl (by decide)⟩
  reads rest _ := by
    have hopen : readWith outer ((Json.text s).chars ++ rest) =
        (readString [] 0 (s.toList.flatMap escape ++ ['"'] ++ rest)).map
          fun p => (.text p.1, p.2) := rfl
    rw [hopen, readString_quoted]
    rfl

/-- Values without items and fields are read back by readers of any depth. -/
theorem readsBack_flat (outer : Option Reader) {v : Json} (hintegral : v.Integral)
    (hflat : v.depth = 0) : ReadsBack (readWith outer) v := by
  cases v with
  | null => exact ⟨⟨'n', _, rfl, .inl (by decide)⟩, fun _ _ => rfl⟩
  | bool b =>
      cases b with
      | true => exact ⟨⟨'t', _, rfl, .inl (by decide)⟩, fun _ _ => rfl⟩
      | false => exact ⟨⟨'f', _, rfl, .inl (by decide)⟩, fun _ _ => rfl⟩
  | number n =>
      cases n with
      | integer i inRange => exact readsBack_integer outer inRange
      | float x => exact hintegral.here.elim
  | text s => exact readsBack_text outer s
  | array items => exact absurd hflat (Nat.succ_ne_zero _)
  | object fields => exact absurd hflat (Nat.succ_ne_zero _)

/-- Ordered integral values are read back by a reader of their depth.  The induction is on
the depth, as the reader's recursion is. -/
theorem readsBack_readValue {d : Nat} {v : Json} (hordered : v.Ordered) (hintegral : v.Integral)
    (hdepth : v.depth ≤ d) : ReadsBack (readValue d) v := by
  induction d generalizing v with
  | zero => exact readsBack_flat none hintegral (Nat.le_zero.mp hdepth)
  | succ d ih =>
      have hinside : ∀ w ∈ v.children, ReadsBack (readValue d) w := fun w hw =>
        ih (hordered.inside w hw) (hintegral.inside w hw) (depth_le_succ_iff.mp hdepth w hw)
      cases v with
      | array items => exact readsBack_array hinside
      | object fields =>
          exact readsBack_object hordered.here fun f hf => hinside f.2 (List.mem_map_of_mem hf)
      | null => exact readsBack_flat _ hintegral rfl
      | bool b => exact readsBack_flat _ hintegral rfl
      | number n => exact readsBack_flat _ hintegral rfl
      | text s => exact readsBack_flat _ hintegral rfl

/-! ## Whole texts -/

theorem not_blank_of_mem_integerText {i : Int} {c : Char} (h : c ∈ Number.integerText i) :
    Text.isBlank c = false := by
  cases i with
  | ofNat n => exact isBlank_text_of_digit (Number.isDigit_of_mem_natDigits h)
  | negSucc n =>
      rcases List.mem_cons.mp h with rfl | h
      · rfl
      · exact isBlank_text_of_digit (Number.isDigit_of_mem_natDigits h)

/-- The text of a value has no blank at its ends. -/
theorem trimmed_chars {v : Json} (hread : ReadsBack item v) (hintegral : v.Integral) :
    Text.Trimmed v.chars where
  head c hc := by
    obtain ⟨d, cs, hchars, hd⟩ := hread.starts
    rw [hchars] at hc
    exact Option.some.inj hc ▸ hd.isBlank_text
  last c hc := by
    cases v with
    | null => exact Option.some.inj hc ▸ rfl
    | bool b => cases b <;> exact Option.some.inj hc ▸ rfl
    | number n =>
        cases n with
        | integer i inRange => exact not_blank_of_mem_integerText (List.mem_of_getLast? hc)
        | float x => exact hintegral.here.elim
    | text s =>
        rw [chars, quoted, List.getLast?_concat] at hc
        exact Option.some.inj hc ▸ rfl
    | array items =>
        rw [chars, List.getLast?_concat] at hc
        exact Option.some.inj hc ▸ rfl
    | object fields =>
        rw [chars, List.getLast?_concat] at hc
        exact Option.some.inj hc ▸ rfl

theorem read_compact {v : Json} (hordered : v.Ordered) (hintegral : v.Integral)
    (hdepth : v.depth ≤ maxDepth) : read v.compact = .ok v := by
  have hvalue := (readsBack_readValue hordered hintegral hdepth).reads [] endsNumber_nil
  rw [List.append_nil] at hvalue
  have hchars : readChars v.chars = .ok v := by
    rw [readChars, hvalue]
    rfl
  rw [read, compact, String.toList_ofList, hchars]
  rfl

/-- Between any blanks the text of a value reads as this value. -/
theorem read_trim_compact {v : Json} (hordered : v.Ordered) (hintegral : v.Integral)
    (hdepth : v.depth ≤ maxDepth) {before after : List Char} (hbefore : Text.Blank before)
    (hafter : Text.Blank after) :
    read (Text.trim (String.ofList before ++ v.compact ++ String.ofList after)) = .ok v := by
  have htrimmed : Text.Trimmed v.compact.toList := by
    rw [compact, String.toList_ofList]
    exact trimmed_chars (readsBack_readValue hordered hintegral hdepth) hintegral
  rw [Text.trim_append hbefore hafter htrimmed, read_compact hordered hintegral hdepth]

end DevicePanel.Json
