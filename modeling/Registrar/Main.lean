import Registrar.Settings.Options

/-!
# Command Line

Checks the options that a server would be started with: shows where it would
listen and how it would keep connections, or what is wrong with them.

## Main definitions

* `Setting.environment`: The variables of the environment that give settings.
* `main`: The command.
-/

namespace Registrar

/-- The variables of the environment that give settings. -/
def Setting.environment : IO (List (String × String)) := do
  let found ← Setting.all.mapM fun entry => do
    let value ← IO.getEnv entry.2.2
    pure (value.map fun text => (entry.2.2, text))
  pure (found.filterMap id)

end Registrar

open Registrar in
/-- Show the options, or fail. -/
def main (arguments : List String) : IO UInt32 := do
  match ServerOptions.parse arguments (← Setting.environment) with
  | .ok options => do
    IO.println s!"{options.address} {options.pool.document.text}"
    pure 0
  | .error .displayHelp => do
    for entry in Setting.all do
      IO.println s!"--{entry.2.1} ({entry.2.2})"
    IO.println OptionsError.displayHelp.message
    pure 0
  | .error e => do
    IO.eprintln s!"error: {e.message}"
    pure 2
