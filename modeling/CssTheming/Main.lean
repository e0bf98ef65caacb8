import CssTheming.CommandLine.Run

/-!
# The program

Reads the configuration file that the command line names, if any, and prints what the command
leaves. Styles are kept just if it goes to a terminal.
-/

open CssTheming in
/-- Carries out the command line and returns the exit code. -/
def main (args : List String) : IO UInt32 := do
  let request := Request.ofWords? (args.map String.toList)
  let content ← match CommandLine.neededPath? request with
    | none => pure none
    | some path =>
      try
        some <$> IO.FS.readBinFile (String.ofList path)
      catch _ => pure none
  let outputIsTerminal ← (← IO.getStdout).isTty
  let diagnosticsAreTerminal ← (← IO.getStderr).isTty
  let console := Console.unicode fun
    | .output => outputIsTerminal
    | .diagnostics => diagnosticsAreTerminal
  match CommandLine.answer console request content with
  | .finished exitCode output diagnostics =>
    IO.print (String.ofList output)
    IO.eprint (String.ofList diagnostics)
    return exitCode.toUInt32
  | .misused =>
    IO.eprint (String.ofList CommandLine.usage)
    return 2
  | .undecodable =>
    IO.eprintln "themecss: the configuration file is not a text in UTF-8"
    return 1
  | .halfCharacter =>
    IO.eprintln "themecss: the configuration file has an escape for half of a character"
    return 1
  | .unprintable output diagnostics =>
    IO.print (String.ofList output)
    IO.eprint (String.ofList diagnostics)
    return 1
