import DevicePanel.Panel.Input
import DevicePanel.Theme.Palette

/-!
# The application

The application has a panel, a link to the device and a history of commits.  Input
does not change the link and the committed values by itself: it asks for effects,
which are applied afterwards.
-/

namespace DevicePanel

/-- A time of day. -/
structure TimeOfDay where
  hour : Nat
  minute : Nat
  second : Nat
  deriving DecidableEq

namespace TimeOfDay

/-- A number below 100 with two digits. -/
def twoDigits (n : Nat) : String := if n < 10 then s!"0{n}" else s!"{n}"

def text (t : TimeOfDay) : String :=
  twoDigits t.hour ++ ":" ++ twoDigits t.minute ++ ":" ++ twoDigits t.second

end TimeOfDay

/-- What input asks for. -/
inductive Effect where
  | commit (c : Commit)
  | toggleLink
  | quit

/-- A commit that has been applied. -/
structure CommitRecord where
  commit : Commit
  time : TimeOfDay

/-- How many commits are kept. -/
def App.historyLimit : Nat := 50

/-- The commits that are kept, the latest first. -/
structure History where
  records : List CommitRecord := []
  length_le : records.length ≤ App.historyLimit := by decide

namespace History

/-- Add a commit.  A full history loses its oldest one. -/
def add (h : History) (r : CommitRecord) : History where
  records :=
    r :: if h.records.length = App.historyLimit then h.records.dropLast else h.records
  length_le := by
    have hle : h.records.length ≤ 50 := h.length_le
    rw [List.length_cons, App.historyLimit]
    split
    · rw [List.length_dropLast]
      omega
    · omega

end History

/-- The application. -/
structure App where
  palette : Palette
  source : Source
  panel : Panel
  /-- The link is up. -/
  connected : Bool
  log : History := {}
  quitting : Bool := false

namespace App

/-- The application for a sheet. -/
def start (sheet : Sheet) (palette : Palette) (connected : Bool) : App :=
  { palette
    source := sheet.source
    panel := (Panel.ofParameters sheet.parameters).rebuildFocus
    connected }

def theme (app : App) : Theme := app.palette.theme

/-- The commits that are kept, the latest first. -/
def history (app : App) : List CommitRecord := app.log.records

/-- The latest commit. -/
def lastCommit? (app : App) : Option CommitRecord := app.history.head?

/-! ## Input -/

/-- The effects of a panel's input. -/
def ofPanel (app : App) (result : Panel × Option Commit) : App × List Effect :=
  ({ app with panel := result.1 }, (result.2.map Effect.commit).toList)

/-- The effect of a key that the application takes itself. -/
def command? (e : KeyEvent) : Option Effect :=
  if !e.modifiers.control then none
  else
    match e.key with
    | .char 'c' | .char 'q' => some .quit
    | .char 'l' => some .toggleLink
    | _ => none

def key (app : App) (e : KeyEvent) : App × List Effect :=
  match command? e with
  | some effect => (app, [effect])
  | none => app.ofPanel (app.panel.key app.connected e)

/-- The application after an event, and the effects that it asks for.  Only presses
of keys count. -/
def handle (app : App) (event : Event) : App × List Effect :=
  match event with
  | .key e => if e.action == .press then app.key e else (app, [])
  | .pointer e => app.ofPanel (app.panel.pointer app.connected e)
  | .paste text => ({ app with panel := app.panel.paste app.connected text }, [])
  | .resize | .focusGained | .focusLost => (app, [])

/-! ## Effects -/

/-- Apply a commit at a time.  A commit under an unknown key is dropped. -/
def commit (app : App) (now : TimeOfDay) (c : Commit) : App :=
  match app.panel.commit? c with
  | some panel => { app with panel, log := app.log.add ⟨c, now⟩ }
  | none => app

def applyEffect (now : TimeOfDay) (app : App) : Effect → App
  | .commit c => app.commit now c
  | .toggleLink => { app with connected := !app.connected }
  | .quit => { app with quitting := true }

/-- Apply effects in their order.  All commits among them are logged at the one time `now`.  A
clock that is read for each commit could move on from one to the next; an event asks for one
effect at most, so there it makes no difference. -/
def apply (app : App) (now : TimeOfDay) (effects : List Effect) : App :=
  effects.foldl (applyEffect now) app

/-- The application after an event and its effects. -/
def step (app : App) (now : TimeOfDay) (event : Event) : App :=
  let (app, effects) := app.handle event
  app.apply now effects

end App

end DevicePanel
