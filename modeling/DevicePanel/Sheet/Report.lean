import DevicePanel.Sheet.Basic

/-!
# Sheet reports

One line for each parameter of a sheet, with its key, its format and its value in
columns.
-/

namespace DevicePanel.Sheet

/-- Fill a text up with spaces to a number of characters. -/
def padTo (width : Nat) (s : String) : String :=
  s ++ String.ofList (List.replicate (width - s.length) ' ')

/-- The width of the first column: the longest key, measured in bytes. -/
def keyWidth (sheet : Sheet) : Nat :=
  (sheet.parameters.map fun p => p.key.utf8ByteSize).foldl max 0

/-- The width of the second column: the longest format tag. -/
def formatWidth : Nat :=
  (Format.all.map fun f => f.tag.length).foldl max 0

/-- The line of a parameter for a given width of the first column. -/
def reportLine (keyWidth : Nat) (p : Parameter) : String :=
  padTo keyWidth p.key ++ "  " ++ padTo formatWidth p.format.tag ++ "  " ++
    currentText p.value p.shownUnits

/-- The lines of the report. -/
def report (sheet : Sheet) : List String :=
  sheet.parameters.map (reportLine sheet.keyWidth)

end DevicePanel.Sheet
