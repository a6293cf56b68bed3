import DevicePanel.Theme.Basic

/-!
# Palettes

The themes that there are, with the names that lead to them.
-/

namespace DevicePanel

/-- A theme with its names. -/
structure Palette where
  id : String
  label : String
  /-- All names that lead to the palette, without regard to the case of letters. -/
  aliases : List String
  /-- The palette is for terminals with 256 colors. -/
  indexed : Bool
  theme : Theme

namespace Palette

def dracula : Palette where
  id := "dracula"
  label := "Dracula"
  aliases := ["dracula", "default"]
  indexed := false
  theme := {
    background := .rgb 0x28 0x2A 0x36
    surface := .rgb 0x28 0x2A 0x36
    mutedSurface := .rgb 0x44 0x47 0x5A
    border := .rgb 0x44 0x47 0x5A
    text := .rgb 0xF8 0xF8 0xF2
    secondaryText := .rgb 0x62 0x72 0xA4
    mutedText := .rgb 0x62 0x72 0xA4
    primaryAccent := .rgb 0xFF 0x79 0xC6
    secondaryAccent := .rgb 0x8B 0xE9 0xFD
    success := .rgb 0x50 0xFA 0x7B
    warning := .rgb 0xFF 0xB8 0x6C
    error := .rgb 0xFF 0x55 0x55
    selectionBackground := .rgb 0x44 0x47 0x5A
    selectionText := .rgb 0xF8 0xF8 0xF2
    focus := .rgb 0x8B 0xE9 0xFD }

def nord : Palette where
  id := "nord"
  label := "Nord"
  aliases := ["nord", "polar"]
  indexed := false
  theme := {
    background := .rgb 0x2E 0x34 0x40
    surface := .rgb 0x3B 0x42 0x52
    mutedSurface := .rgb 0x43 0x4C 0x5E
    border := .rgb 0x43 0x4C 0x5E
    text := .rgb 0xD8 0xDE 0xE9
    secondaryText := .rgb 0xE5 0xE9 0xF0
    mutedText := .rgb 0x61 0x6E 0x88
    primaryAccent := .rgb 0x88 0xC0 0xD0
    secondaryAccent := .rgb 0x81 0xA1 0xC1
    success := .rgb 0xA3 0xBE 0x8C
    warning := .rgb 0xD0 0x87 0x70
    error := .rgb 0xBF 0x61 0x6A
    selectionBackground := .rgb 0x5E 0x81 0xAC
    selectionText := .rgb 0xEC 0xEF 0xF4
    focus := .rgb 0x88 0xC0 0xD0 }

def ansi256 : Palette where
  id := "ansi256"
  label := "ANSI 256"
  aliases := ["ansi256", "ansi", "256"]
  indexed := true
  theme := {
    background := .indexed 236
    surface := .indexed 236
    mutedSurface := .indexed 239
    border := .indexed 239
    text := .indexed 255
    secondaryText := .indexed 250
    mutedText := .indexed 247
    primaryAccent := .indexed 212
    secondaryAccent := .indexed 117
    success := .indexed 84
    warning := .indexed 215
    error := .indexed 203
    selectionBackground := .indexed 239
    selectionText := .indexed 255
    focus := .indexed 117 }

def all : List Palette := [dracula, nord, ansi256]

/-- The palette with the given name. -/
def ofName? (name : String) : Option Palette :=
  all.find? fun p => (p.id :: p.aliases).any fun n => n.toLower == name.toLower

end Palette

end DevicePanel
