import LiquidMarkdown.Command.Answer

/-!
# The program

Reads the document that the arguments ask for, prints the answer, and writes the journal to standard
error.
-/

namespace LiquidMarkdown
namespace Command

/-- The length of previews. -/
def previewLength : Int := 60

/-- How the program is called. -/
def usage : String :=
  "usage: liquid-markdown [--version] [-v]... (check [--json] | blocks | tree) (path | -)"

/-- All that is left of a stream. -/
partial def readAll (s : IO.FS.Stream) (before : String) : IO String := do
  let line ← s.getLine
  if line.isEmpty then return before else readAll s (before ++ line)

/-- What is found at the path of a request. -/
def readContents (r : Request) : IO Contents := do
  if r.isFromInput then
    return .document (← readAll (← IO.getStdin) "").toList
  try
    return .document (← IO.FS.readFile (Text.toString r.path)).toList
  catch e => match e with
    | .noFileOrDirectory .. => return .missing
    | _ => return .unreadable

/-- Print an answer; the journal comes first. -/
def printAnswer (a : Answer) : IO UInt32 := do
  for line in a.log do
    IO.eprintln (Text.toString line)
  for line in a.output do
    IO.println (Text.toString line)
  return UInt32.ofNat a.exitCode

end Command
end LiquidMarkdown

open LiquidMarkdown in
/-- Do what the arguments ask for. -/
def main (args : List String) : IO UInt32 := do
  match Command.read (args.map String.toList) with
  | .version => Command.printAnswer { exitCode := 0, output := [Command.version] }
  | .misuse => do
      IO.eprintln Command.usage
      return 2
  | .request r =>
      Command.printAnswer (Command.answer Command.previewLength r (← Command.readContents r))
