import DevicePanel.Proofs.App.TypedStore

/-!
# Reachable states

The states of the application that a run of an accepted sheet comes to.  What the untouched
entries of a sheet have and every reaction of an editor keeps, the entries have in all of
them, and their keys are distinct.
-/

namespace DevicePanel
namespace App

/-- A run of an accepted sheet comes to the state. -/
inductive Reachable : App → Prop
  | run {sheet : Sheet} (h : sheet.Accepted) (palette : Palette) (connected : Bool)
      (moves : List Move) : Reachable ((start sheet palette connected).run moves)

variable {app : App}

theorem Reachable.append (h : app.Reachable) (moves : List Move) : (app.run moves).Reachable := by
  cases h with
  | @run sheet h palette connected before =>
      have hrun : ((start sheet palette connected).run before).run moves =
          (start sheet palette connected).run (before ++ moves) := List.foldl_append.symm
      rw [hrun]
      exact .run h palette connected (before ++ moves)

theorem Reachable.keeps {P : Entry → Prop} (hkept : Entry.Kept P)
    (hstart : ∀ p, P (.ofParameter p)) (h : app.Reachable) : Keeps P app := by
  cases h with
  | run h palette connected moves =>
      exact keeps_run hkept
        (keeps_start h.consistent (fun p _ => hstart p) palette connected) moves

theorem Reachable.keeps_typed (h : app.Reachable) : Keeps Entry.Typed app := by
  cases h with
  | run h palette connected moves => exact keeps_typed_run h palette connected moves

theorem Reachable.keys_nodup (h : app.Reachable) :
    (app.panel.entries.map Entry.key).Nodup := h.keeps_typed.keys_nodup

end App
end DevicePanel
