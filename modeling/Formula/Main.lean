import Formula.Cli.Run

/-!
# Formula.Main

The command line program.
-/

open Formula

def main (args : List String) : IO UInt32 := do
  let setting ← IO.getEnv Options.trailingTokensVariable
  let lookup (name : String) : Option String :=
    if name = Options.trailingTokensVariable then setting else none
  match Cli.run lookup args with
  | .finished code output errors =>
    (← IO.getStderr).putStr errors
    (← IO.getStdout).putStr output
    return UInt32.ofNat code
  | .usage message =>
    (← IO.getStderr).putStrLn (message.getD "Usage: expreval [OPTIONS] COMMAND [ARGS]...")
    return 2
  | .failed e =>
    (← IO.getStderr).putStrLn e.message
    return 1
