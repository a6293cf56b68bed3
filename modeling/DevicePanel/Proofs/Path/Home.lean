import DevicePanel.Host.FileTree
import Mathlib.Data.List.Basic

/-!
# Paths below the home directory

A tilde and a slash or backslash in front of a path stand for the home directory, and what is
behind them is joined to it.  Joined to a directory, a relative path leads through the
directory and then goes its own steps.  An absolute one goes its own steps only, so a second
slash behind the tilde leads away from the home directory.
-/

namespace DevicePanel

namespace Path

/-! ## Start and steps -/

/-- The steps of a path behind its start, which is the root or a dot at the front. -/
def innerSteps (path : String) : List Component :=
  (components path).filter fun c => c != .root && c != .current

/-- Where a path starts, if that is said. -/
def start (path : String) : List Component :=
  if isAbsolute path then [.root]
  else if (parts path).head? == some "." then [.current]
  else []

/-- The steps that parts of a path stand for. -/
def stepsOf (parts : List String) : List Component :=
  (parts.filter fun p => p != "" && p != ".").map fun p =>
    if p == ".." then Component.parent else .name p

theorem stepsOf_append (ps qs : List String) : stepsOf (ps ++ qs) = stepsOf ps ++ stepsOf qs := by
  rw [stepsOf, List.filter_append, List.map_append]
  rfl

theorem components_eq (path : String) :
    components path = start path ++ stepsOf (parts path) := by
  simp only [components, start]
  split
  · rfl
  · split <;> rfl

theorem innerSteps_eq (path : String) : innerSteps path = stepsOf (parts path) := by
  have hstart : (start path).filter (fun c => c != .root && c != .current) = [] := by
    rw [start]
    split
    · rfl
    · split <;> rfl
  have hsteps : (stepsOf (parts path)).filter (fun c => c != .root && c != .current) =
      stepsOf (parts path) := by
    rw [List.filter_eq_self]
    intro c hc
    obtain ⟨p, -, rfl⟩ := List.mem_map.mp hc
    split <;> rfl
  rw [innerSteps, components_eq, List.filter_append, hstart, hsteps, List.nil_append]

theorem components_of_isAbsolute {path : String} (h : isAbsolute path = true) :
    components path = .root :: innerSteps path := by
  rw [components_eq, innerSteps_eq, start, if_pos h, List.singleton_append]

/-! ## Joined paths -/

theorem parts_append_slash (a b : String) : parts (a ++ "/" ++ b) = parts a ++ parts b := by
  have hslash : "/".toList = ['/'] := rfl
  rw [parts, String.toList_append, String.toList_append, hslash, List.append_assoc,
    List.singleton_append, List.splitOn_append_cons_self, List.map_append]
  rfl

theorem parts_append_last_slash (a : String) : parts (a ++ "/") = parts a ++ [""] := by
  have h := parts_append_slash a ""
  rwa [String.append_empty] at h

theorem parts_ne_nil (path : String) : parts path ≠ [] := by
  rw [parts, Ne, List.map_eq_nil_iff]
  exact List.splitOn_ne_nil _ _

theorem isAbsolute_append {a : String} (h : a ≠ "") (b : String) :
    isAbsolute (a ++ b) = isAbsolute a := by
  have hne : a.toList ≠ [] := fun hnil => h (String.toList_eq_nil_iff.mp hnil)
  rw [isAbsolute, isAbsolute, String.toList_append, List.head?_append_of_ne_nil _ hne]

/-- What is behind a slash does not change where a path starts. -/
theorem start_append_slash (a b : String) : start (a ++ "/" ++ b) = start (a ++ "/") := by
  have hslash : a ++ "/" ≠ "" := by
    intro h
    have hlength := congrArg String.length h
    rw [String.length_append] at hlength
    exact absurd hlength (Nat.succ_ne_zero _)
  rw [start, start, isAbsolute_append hslash, parts_append_slash, parts_append_last_slash,
    List.head?_append_of_ne_nil _ (parts_ne_nil a), List.head?_append_of_ne_nil _ (parts_ne_nil a)]

theorem start_append_of_ne {a : String} (h : a ≠ "") (b : String) :
    start (a ++ "/" ++ b) = start a := by
  rw [start, start, String.append_assoc, isAbsolute_append h, ← String.append_assoc,
    parts_append_slash, List.head?_append_of_ne_nil _ (parts_ne_nil a)]

/-- A relative path that is joined to a directory adds its steps to those of the directory. -/
theorem components_join {base path : String} (hbase : base ≠ "")
    (hpath : isAbsolute path = false) :
    components (join base path) = components base ++ innerSteps path := by
  have hrelative : ¬ isAbsolute path = true := by simp [hpath]
  rw [join, if_neg hrelative]
  by_cases hlast : base.toList.getLast? = some '/'
  · -- The slash at the end of the directory is the one between the two.
    obtain ⟨cs, hcs⟩ := List.getLast?_eq_some_iff.mp hlast
    obtain ⟨trunk, rfl⟩ : ∃ trunk, base = trunk ++ "/" := by
      refine ⟨String.ofList cs, String.toList_inj.mp ?_⟩
      rw [String.toList_append, String.toList_ofList, hcs]
      rfl
    have hjoined : ((trunk ++ "/").isEmpty || (trunk ++ "/").toList.getLast? == some '/') = true := by
      simp
    have hempty : stepsOf [""] = [] := rfl
    rw [if_pos hjoined, components_eq, components_eq, innerSteps_eq, start_append_slash,
      parts_append_slash, parts_append_last_slash, stepsOf_append, stepsOf_append, hempty,
      List.append_nil, List.append_assoc]
  · have hjoined : ¬ (base.isEmpty || base.toList.getLast? == some '/') = true := by
      simp [hbase, hlast]
    rw [if_neg hjoined, components_eq, components_eq, innerSteps_eq, start_append_of_ne hbase,
      parts_append_slash, stepsOf_append, List.append_assoc]

theorem join_of_isAbsolute (base : String) {path : String} (h : isAbsolute path = true) :
    join base path = path := if_pos h

/-! ## Below a directory -/

/-- The path is the directory, or leads through it and then goes the steps of `rest`.  A dot
at the front of `rest` is no step. -/
def LeadsBelow (path directory rest : String) : Prop :=
  components path = components directory ∨
    startsWith path directory = true ∧
      (components path).drop (components directory).length = innerSteps rest

instance (path directory rest : String) : Decidable (LeadsBelow path directory rest) :=
  inferInstanceAs (Decidable (_ ∨ _ ∧ _))

theorem leadsBelow_iff {path directory rest : String} :
    LeadsBelow path directory rest ↔
      components path = components directory ∨
        components path = components directory ++ innerSteps rest := by
  refine or_congr_right ?_
  rw [startsWith, List.isPrefixOf_iff_prefix]
  constructor
  · rintro ⟨⟨steps, hsteps⟩, hdrop⟩
    rw [← hsteps, List.drop_left] at hdrop
    rw [← hsteps, hdrop]
  · intro h
    rw [h]
    exact ⟨List.prefix_append _ _, List.drop_left⟩

/-- A joined path leads below the directory exactly if it does not start at the root itself.
An absolute one does so only if it is the directory, or if the directory is the root. -/
theorem leadsBelow_join_iff {directory : String} (hnamed : directory ≠ "") (rest : String) :
    LeadsBelow (join directory rest) directory rest ↔
      isAbsolute rest = false ∨ components rest = components directory ∨
        components directory = [.root] := by
  rw [leadsBelow_iff]
  cases habsolute : isAbsolute rest with
  | false => exact iff_of_true (.inr (components_join hnamed habsolute)) (.inl rfl)
  | true =>
      rw [join_of_isAbsolute directory habsolute]
      have hroot : components rest = components directory ++ innerSteps rest ↔
          components directory = [.root] := by
        rw [components_of_isAbsolute habsolute, ← List.singleton_append,
          List.append_left_inj, eq_comm]
      rw [hroot]
      simp

/-! ## Tildes -/

/-- `rest` is what is behind the tilde and the slash or backslash at the front of a path. -/
def IsBehindTilde (rest path : String) : Prop :=
  path = "~/" ++ rest ∨ path = "~\\" ++ rest

theorem isBehindTilde_iff {rest path : String} :
    IsBehindTilde rest path ↔ afterTilde? path = some rest := by
  constructor
  · rintro (rfl | rfl)
    all_goals
      rw [afterTilde?, String.toList_append]
      exact congrArg some (String.ofList_toList)
  · intro h
    rw [afterTilde?] at h
    split at h
    next cs hcs =>
      cases h
      exact .inl (String.toList_inj.mp (by simp [hcs]))
    next cs hcs =>
      cases h
      exact .inr (String.toList_inj.mp (by simp [hcs]))
    next => cases h

theorem IsBehindTilde.ne_tilde {rest path : String} (h : IsBehindTilde rest path) :
    path ≠ "~" := by
  rintro rfl
  cases isBehindTilde_iff.mp h

end Path

namespace Host

open DevicePanel.Path

variable {host : Host} {text : String}

theorem expand_of_tilde (h : Text.trim text = "~") :
    host.expand text = host.home?.getD "~" := by
  rw [expand, expandHome, h]
  rfl

theorem expand_of_isBehindTilde {rest : String} (h : IsBehindTilde rest (Text.trim text)) :
    host.expand text = join (host.home?.getD "~") rest := by
  have hne : ¬ (Text.trim text == "~") = true := by simpa using h.ne_tilde
  rw [expand, expandHome, if_neg hne, isBehindTilde_iff.mp h]

theorem expand_of_other (htilde : Text.trim text ≠ "~")
    (hrest : ∀ rest, ¬ IsBehindTilde rest (Text.trim text)) :
    host.expand text = Text.trim text := by
  have hne : ¬ (Text.trim text == "~") = true := by simpa using htilde
  have hnone : afterTilde? (Text.trim text) = none := by
    rw [Option.eq_none_iff_forall_ne_some]
    exact fun rest h => hrest rest (isBehindTilde_iff.mpr h)
  rw [expand, expandHome, if_neg hne, hnone]

/-- On a host with a home directory a lone tilde is that directory, and a text without a tilde
at the front is taken as it is between its blanks.  What is behind a tilde leads below the home
directory exactly if it does not start at the root itself, or it is the home directory, or the
home directory is the root. -/
theorem tilde_leads_below_home_iff {home : String} (hhome : host.home? = some home)
    (hnamed : home ≠ "") (text : String) :
    (Text.trim text = "~" → host.expand text = home) ∧
    (∀ rest, IsBehindTilde rest (Text.trim text) →
      (LeadsBelow (host.expand text) home rest ↔
        isAbsolute rest = false ∨ components rest = components home ∨
          components home = [.root])) ∧
    (Text.trim text ≠ "~" → (∀ rest, ¬ IsBehindTilde rest (Text.trim text)) →
      host.expand text = Text.trim text) := by
  refine ⟨fun h => ?_, fun rest h => ?_, expand_of_other⟩
  · rw [expand_of_tilde h, hhome]
    rfl
  · rw [expand_of_isBehindTilde h, hhome]
    exact leadsBelow_join_iff hnamed rest

/-- A backslash behind the tilde, blanks around the path, and steps that are none. -/
theorem tilde_leads_below_home_iff_backslash :
    let environment : Environment := fun name => if name = "HOME" then some "/home/u/" else none
    let host := (⟨[], []⟩ : FileTree).toHost environment none
    let path := " ~\\.//notes/../knobs.yaml\n"
    let rest := ".//notes/../knobs.yaml"
    host.home? = some "/home/u/" ∧ IsBehindTilde rest (Text.trim path) ∧
      LeadsBelow (host.expand path) "/home/u/" rest := by
  intro environment host path rest
  have hhome : host.home? = some "/home/u/" := by decide +kernel
  have hbehind : IsBehindTilde rest (Text.trim path) := .inr (by decide +kernel)
  obtain ⟨-, hbelow, -⟩ := tilde_leads_below_home_iff hhome (by decide) path
  exact ⟨hhome, hbehind, (hbelow rest hbehind).mpr (.inl (by decide +kernel))⟩

/-- With a second slash behind the tilde the home directory is lost. -/
theorem second_slash_leaves_home :
    let environment : Environment := fun name => if name = "HOME" then some "/home/u" else none
    let host := (⟨[], []⟩ : FileTree).toHost environment none
    host.home? = some "/home/u" ∧ IsBehindTilde "/etc/passwd" (Text.trim "~//etc/passwd") ∧
      host.expand "~//etc/passwd" = "/etc/passwd" ∧
      ¬ LeadsBelow (host.expand "~//etc/passwd") "/home/u" "/etc/passwd" := by
  intro environment host
  exact ⟨by decide +kernel, .inl (by decide +kernel), by decide +kernel, by decide +kernel⟩

end Host
end DevicePanel
