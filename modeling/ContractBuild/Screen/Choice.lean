import ContractBuild.Settings.File
import ContractBuild.Text.Case

/-!
# The choice of a screen

The settings choose between a boxed and a plain screen. A name that is not known is reported and stands for the boxed
one, whose progress display has a column more when it shows the time.
-/

namespace ContractBuild.Screen

/-- A kind of screen. The boxed one has a number of columns in its progress display. -/
inductive Kind where
  | boxed (columns : Nat)
  | plain
deriving DecidableEq

/-- The number of columns of the progress display on a boxed screen. -/
def columns (settings : Value) : Except Settings.Error Nat :=
  (Settings.get (Settings.looseSection settings "ui") "show_elapsed" (.bool true)).map fun v =>
    if v.isTruthy then 3 else 2

/-- The screen that the settings name, with what is recorded about the name. -/
def choose (settings : Value) : Except Settings.Error (Kind × List Log.Record) := do
  let name ← Settings.get (Settings.looseSection settings "ui") "type" (.text "rich")
  let name := name.display.lower
  if name = "tqdm" then return (.plain, [])
  else
    let records : List Log.Record :=
      if name = "rich" then []
      else [⟨Log.screenChoice, Log.warning, "Unknown ui.type '" ++ name ++ "', using rich"⟩]
    return (.boxed (← columns settings), records)

/-- The screen of a command, for which the section of the settings has to be a map when it is there. -/
def chooseForCommand (settings : Value) : Except Settings.Error (Kind × List Log.Record) := do
  let _ ← Settings.get (Settings.sectionOf settings "ui") "type" (.text "rich")
  choose settings

end ContractBuild.Screen
