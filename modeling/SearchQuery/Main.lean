import SearchQuery.CommandLine.Run

/-! # The program

Reads what the command line needs from the outside, and writes what it answers.
-/

namespace SearchQuery

/-- How the program is called. -/
def usageLine : String := "Usage: search-query [OPTIONS] WORD..."

/-- What the options do. -/
def helpText : String :=
  usageLine ++ "\n\n" ++
    "Compiles a search query into an Elasticsearch query document.\n\n" ++
    "  -c, --config FILE  settings file, in place of the example settings\n" ++
    "      --pretty       indent the document\n" ++
    "      --allow-plugin allow terms on the restricted field plugin\n" ++
    "      --color WHEN   colour errors: auto, always or never\n" ++
    "  -h, --help         show this help\n"

/-- The content of a file, if it can be read. -/
def readContent (path : Text) : IO (Option ByteArray) := do
  try return some (← IO.FS.readBinFile (String.ofList path))
  catch _ => return none

/-- Writes what arguments come to, and gives the exit code. -/
def runProgram (arguments : List String) : IO UInt32 := do
  let words := arguments.map String.toList
  let content ← match Invocation.ofArguments words with
    | .ok { settingsFile := some path, .. } => readContent path
    | _ => pure none
  let terminal : Terminal :=
    { kind := (← IO.getEnv "TERM").map String.toList
      monochrome := (← IO.getEnv "NO_COLOR").isSome }
  let named := (← IO.getEnv "YQL_LOG").map String.toList
  let result := runCommand (fun _ => content) terminal words
  match result with
  | .ok outcome =>
    IO.print (String.ofList outcome.output)
    IO.eprint (String.ofList (outcome.standardError .plain named))
  | .error (.arguments .help) => IO.print helpText
  | .error (.arguments .usage) => IO.eprintln usageLine
  | .error (.settings file _) =>
    IO.eprintln ("error: failed to load config " ++ String.ofList file)
  return (exitCode result).toUInt32

end SearchQuery

def main (arguments : List String) : IO UInt32 := SearchQuery.runProgram arguments
