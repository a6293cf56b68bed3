import DevicePanel.Host.FileTree
import DevicePanel.Proofs.Sheet.Fault
import DevicePanel.Proofs.Text.Trim

/-!
# Where a sheet comes from

Loading reads one file and nothing else.  A path that is asked for goes before one that the
environment names, and both go before the default place; a named file is taken as it is,
with whatever is wrong with it.  The built-in sheet takes the place of the file at the
default place and of no other, and only if there is none: every other failure to read or to
understand that file is reported.

That nothing else counts is said of two hosts: if they agree on the place and on the file
there, they load the same, however else they differ.
-/

namespace DevicePanel

/-- The host with a value for the variable that names the sheet.  Bytes that are no Unicode
text are not read. -/
def Host.withSheetVariable (host : Host) (value : Option ByteArray) : Host where
  environment name :=
    if name = sheetVariable then value.bind String.fromUTF8? else host.environment name
  accountHome := host.accountHome
  readText := host.readText

namespace Sheet

/-- The value of the variable is a Unicode text that is not blank. -/
def Names (value : Option ByteArray) (name : String) : Prop :=
  value = some name.toUTF8 ∧ Text.trim name ≠ ""

variable {host other : Host} {place : String}

/-! ## Sheets from files -/

theorem source_ofDeclaration {source : Source} {d : SheetDeclaration} {sheet : Sheet}
    (h : ofDeclaration source d = .ok sheet) : sheet.source = source := by
  obtain ⟨_, -, hsheet⟩ := exists_of_bind_eq_ok h
  cases hsheet
  rfl

theorem source_ofFile {sheet : Sheet} (h : ofFile host place = .ok sheet) :
    sheet.source = .file place := by
  obtain ⟨text, -, h⟩ := exists_of_bind_eq_ok h
  dsimp only at h
  split at h
  all_goals
    obtain ⟨_, -, h⟩ := exists_of_bind_eq_ok h
    exact source_ofDeclaration h

/-- The built-in sheet comes from no file. -/
theorem ofFile_ne_builtIn (host : Host) (place : String) : ofFile host place ≠ .ok builtIn :=
  fun h => nomatch source_ofFile h

/-- A file that cannot be read is no sheet, and the error says why. -/
theorem ofFile_of_unreadable {cause : FileError} (h : host.readText place = .error cause) :
    ofFile host place = .error (.unreadable place cause) := by
  rw [ofFile, h]
  rfl

/-- A sheet depends on its own file only. -/
theorem ofFile_congr (h : other.readText place = host.readText place) :
    ofFile other place = ofFile host place := by
  rw [ofFile, ofFile, h]

/-- A declaration is at fault in its key or its value, and not in its file. -/
theorem checkAll_ne_unreadable (place : String) (cause : FileError)
    (ds : List ParameterDeclaration) (index : Nat) (taken : List String) :
    ParameterDeclaration.checkAll ds index taken ≠ .error (.unreadable place cause) := by
  intro h
  rcases ParameterDeclaration.checkAll_outcome ds index taken with
    ⟨ps, hok, -⟩ | ⟨i, e, herror, ⟨d, -, hfault⟩, -⟩
  · cases hok.symm.trans h
  · cases herror.symm.trans h
    cases hfault

theorem ofDeclaration_ne_unreadable (source : Source) (d : SheetDeclaration) (place : String)
    (cause : FileError) : ofDeclaration source d ≠ .error (.unreadable place cause) := by
  intro h
  obtain hparameters | ⟨_, -, hok⟩ := cases_of_bind_eq_error h
  · exact checkAll_ne_unreadable place cause _ _ _ hparameters
  · cases hok

/-- What is wrong with a text that has been read is never that it cannot be read. -/
theorem readText_of_ofFile {path : String} {cause : FileError}
    (h : ofFile host place = .error (.unreadable path cause)) :
    host.readText place = .error cause := by
  obtain htext | ⟨text, -, h⟩ := cases_of_bind_eq_error h
  · obtain ⟨cause, hcause, heq⟩ := exists_of_mapError_eq_error htext
    cases heq
    exact hcause
  dsimp only at h
  split at h
  all_goals
    obtain hread | ⟨d, -, h⟩ := cases_of_bind_eq_error h
    · obtain ⟨_, -, heq⟩ := exists_of_mapError_eq_error hread
      cases heq
    · exact absurd h (ofDeclaration_ne_unreadable _ d path cause)

/-! ## The default place -/

theorem ofDefault_of_missing (h : host.readText host.defaultSheetPath = .error .notFound) :
    ofDefault host = .ok builtIn := by
  rw [ofDefault, ofFile_of_unreadable h]

/-- A file that is there is the sheet, however broken it is. -/
theorem ofDefault_of_present (h : host.readText host.defaultSheetPath ≠ .error .notFound) :
    ofDefault host = ofFile host host.defaultSheetPath := by
  rw [ofDefault]
  split
  · next hfile => exact absurd (readText_of_ofFile hfile) h
  · rfl

theorem ofDefault_eq_builtIn_iff :
    ofDefault host = .ok builtIn ↔ host.readText host.defaultSheetPath = .error .notFound := by
  refine ⟨fun h => ?_, ofDefault_of_missing⟩
  by_contra hpresent
  rw [ofDefault_of_present hpresent] at h
  exact ofFile_ne_builtIn host _ h

theorem ofDefault_congr (hplace : other.defaultSheetPath = host.defaultSheetPath)
    (h : other.readText host.defaultSheetPath = host.readText host.defaultSheetPath) :
    ofDefault other = ofDefault host := by
  rw [ofDefault, ofDefault, hplace, ofFile_congr h]

/-! ## The order of the places -/

/-- The bytes of a name are the bytes of no other text. -/
theorem names_iff {value : Option ByteArray} {name : String} :
    Names value name ↔ value.bind String.fromUTF8? = some name ∧ Text.trim name ≠ "" := by
  refine and_congr_left fun _ => ⟨?_, fun h => ?_⟩
  · rintro rfl
    simp only [Option.bind_some, String.fromUTF8?, String.toUTF8_eq_toByteArray,
      dif_pos name.isValidUTF8]
    rfl
  · obtain ⟨bytes, rfl, hbytes⟩ := Option.bind_eq_some_iff.mp h
    rw [String.fromUTF8?] at hbytes
    split at hbytes
    · cases hbytes
      rfl
    · cases hbytes

/-- The setting of the sheet's place is the name in the variable. -/
theorem setting?_withSheetVariable {value : Option ByteArray} {name : String} :
    (host.withSheetVariable value).setting? Host.sheetVariable = some name ↔
      Names value name := by
  simp [Host.setting?, Host.withSheetVariable, names_iff, Option.filter_eq_some_iff]

theorem load_of_path (host : Host) (path : String) :
    load host (some path) = ofFile host (host.expand path) := rfl

theorem load_of_setting {name : String} (h : host.setting? Host.sheetVariable = some name) :
    load host none = ofFile host (host.expand name) := by
  rw [load, namedPath?, h]
  rfl

theorem load_of_no_setting (h : host.setting? Host.sheetVariable = none) :
    load host none = ofDefault host := by
  rw [load, namedPath?, h]
  rfl

/-- The blanks around a path do not count. -/
theorem expand_trim (host : Host) (path : String) :
    host.expand (Text.trim path) = host.expand path := by
  simp only [Host.expand, Path.expandHome, Text.trim_trim]

/-- Loading reads one source: the file that is asked for, else the one that the variable
names, else the default one, which alone the built-in sheet can stand in for, and only when
it is not there.  Hosts that agree on that one file load the same sheet, or fail alike. -/
theorem sheet_has_one_source (host : Host) (value : Option ByteArray) :
    let here := host.withSheetVariable value
    (∀ path,
      load here (some path) = ofFile here (here.expand path) ∧
      load here (some path) ≠ .ok builtIn ∧
      ∀ other : Host, other.expand path = here.expand path →
        other.readText (here.expand path) = here.readText (here.expand path) →
        load other (some path) = load here (some path)) ∧
    (∀ name, Names value name →
      load here none = ofFile here (here.expand (Text.trim name)) ∧
      load here none ≠ .ok builtIn ∧
      ∀ other : Host, other.environment Host.sheetVariable = some name →
        other.expand name = here.expand name →
        other.readText (here.expand name) = here.readText (here.expand name) →
        load other none = load here none) ∧
    ((∀ name, ¬Names value name) →
      (load here none = .ok builtIn ↔ here.readText here.defaultSheetPath = .error .notFound) ∧
      (load here none ≠ .ok builtIn → load here none = ofFile here here.defaultSheetPath) ∧
      ∀ other : Host, other.setting? Host.sheetVariable = none →
        other.defaultSheetPath = here.defaultSheetPath →
        other.readText here.defaultSheetPath = here.readText here.defaultSheetPath →
        load other none = load here none) := by
  intro here
  refine ⟨fun path => ⟨rfl, ofFile_ne_builtIn here _, fun other hplace hfile => ?_⟩,
    fun name hnames => ?_, fun hnames => ?_⟩
  · rw [load_of_path, load_of_path, hplace, ofFile_congr hfile]
  · have hload := load_of_setting (setting?_withSheetVariable.mpr hnames : here.setting? _ = _)
    refine ⟨by rw [hload, expand_trim], hload ▸ ofFile_ne_builtIn here _,
      fun other hvalue hplace hfile => ?_⟩
    have hsetting : other.setting? Host.sheetVariable = some name := by
      simp [Host.setting?, hvalue, hnames.2]
    rw [hload, load_of_setting hsetting, hplace, ofFile_congr hfile]
  · have hunset : here.setting? Host.sheetVariable = none :=
      Option.eq_none_iff_forall_ne_some.mpr fun name hname =>
        hnames name (setting?_withSheetVariable.mp hname)
    have hload := load_of_no_setting hunset
    rw [hload]
    refine ⟨ofDefault_eq_builtIn_iff, fun hne => ofDefault_of_present fun hmissing =>
      hne (ofDefault_of_missing hmissing), fun other hother hplace hfile => ?_⟩
    rw [load_of_no_setting hother, ofDefault_congr hplace hfile]

/-- On a host with nothing but a home directory in which the default place is a directory:
a missing file that the variable names is reported, the directory is reported when the
variable is blank, and without that directory the built-in sheet is loaded. -/
theorem sheet_has_one_source_in_home :
    let home : Environment := fun name => if name = "HOME" then some "/home/u" else none
    let empty : FileTree := ⟨[(["home", "u"], .directory)], []⟩
    let odd : FileTree := ⟨[(["home", "u", ".config", "knobs", "knobs.yaml"], .directory)], []⟩
    load ((odd.toHost home none).withSheetVariable (some " ~/own.yaml ".toUTF8)) none =
      .error (.unreadable "/home/u/own.yaml" .notFound) ∧
    load ((odd.toHost home none).withSheetVariable (some " ".toUTF8)) none =
      .error (.unreadable "/home/u/.config/knobs/knobs.yaml" .isDirectory) ∧
    load ((empty.toHost home none).withSheetVariable (some " ".toUTF8)) none = .ok builtIn := by
  intro home empty odd
  have hblank : ∀ name, ¬Names (some " ".toUTF8) name := by
    rintro name ⟨hname, htrim⟩
    obtain rfl : " " = name := String.toByteArray_inj.mp (Option.some.inj hname)
    exact htrim (by decide)
  obtain ⟨-, hnamed, -⟩ := sheet_has_one_source (odd.toHost home none) (some " ~/own.yaml ".toUTF8)
  obtain ⟨-, -, hodd⟩ := sheet_has_one_source (odd.toHost home none) (some " ".toUTF8)
  obtain ⟨-, -, hempty⟩ := sheet_has_one_source (empty.toHost home none) (some " ".toUTF8)
  have hown : ((odd.toHost home none).withSheetVariable (some " ~/own.yaml ".toUTF8)).expand
      (Text.trim " ~/own.yaml ") = "/home/u/own.yaml" := by
    decide +kernel
  have hplace : ((odd.toHost home none).withSheetVariable (some " ".toUTF8)).defaultSheetPath =
      "/home/u/.config/knobs/knobs.yaml" := by
    decide +kernel
  have hmissing : odd.readText "/home/u/own.yaml" = .error .notFound := by decide +kernel
  have hdirectory : odd.readText "/home/u/.config/knobs/knobs.yaml" = .error .isDirectory := by
    decide +kernel
  refine ⟨?_, ?_, (hempty hblank).1.mpr (by decide +kernel)⟩
  · rw [(hnamed _ ⟨rfl, by decide⟩).1, hown]
    exact ofFile_of_unreadable hmissing
  · obtain ⟨hbuiltIn, hfile, -⟩ := hodd hblank
    rw [hplace] at hbuiltIn hfile
    have hreported : load ((odd.toHost home none).withSheetVariable (some " ".toUTF8)) none ≠
        .ok builtIn := fun h => nomatch hdirectory.symm.trans (hbuiltIn.mp h)
    rw [hfile hreported]
    exact ofFile_of_unreadable hdirectory

end Sheet
end DevicePanel
