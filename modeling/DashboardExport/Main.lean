import DashboardExport.CommandLine.Surroundings

/-!
# The program

Ties the command to the system: arguments, environment, files and standard streams.
A request is written to standard output as one line, and its reply is read from
standard input as one line; the log goes to standard error.
-/

set_option autoImplicit false

namespace DashboardExport.Program

open CommandLine Storage

/-- The environment of the process. -/
def readEnvironment : IO Configuration.Variables := do
  let block ← IO.FS.readBinFile "/proc/self/environ"
  return variablesOfBlock (Text.lenient (Text.decodeUtf8 block.toList))

/-- The store with the file at a path, if it can be read. -/
def loadFile (files : FileStore) (path : Path) : IO FileStore := do
  match files.workingDirectory, path.anchor with
  | here, anchor =>
    let start := if anchor = .workingDirectory then here else []
    let location := path.parts.foldl (fun at' part =>
      if part = ".." then at'.dropLast else at' ++ [part]) start
    try
      let contents ← IO.FS.readBinFile path.text
      return withEntry files location (.file contents.toList)
    catch _ => return files

/-- Runs the command again with one more reply as long as a request has none. -/
partial def converse (run : Service.Transport → CommandResult) (exchanges : List Exchange) :
    IO CommandResult := do
  let result := run (transportOf exchanges)
  match unanswered? exchanges result.events with
  | none => return result
  | some request =>
    let output ← IO.getStdout
    output.putStrLn (requestLine request)
    output.flush
    let line ← (← IO.getStdin).getLine
    converse run (exchanges ++ [⟨request, replyOfLine line⟩])

/-- Makes a change in the file system. -/
def apply (change : Location × Stored) : IO Unit :=
  match change.2 with
  | .directory => IO.FS.createDirAll (locationText change.1)
  | .file contents => IO.FS.writeBinFile (locationText change.1) ⟨contents.toArray⟩

/-- Tells how the command ended, and gives its status. -/
def conclude (ending : CommandEnding) : IO UInt32 := do
  match ending with
  | .helped => IO.println usageText
  | .misused problem => IO.eprintln (usageText ++ "\n" ++ usageLine problem)
  | .broken failure => IO.eprintln failure.message
  | _ => pure ()
  return UInt32.ofNat (ending.status?.getD 1)

/-- Runs the program. -/
def start (arguments : List String) : IO UInt32 := do
  let usage := Usage.ofTexts arguments
  let environment ← readEnvironment
  let here := (Path.ofText (← IO.currentDir).toString).parts
  let files ← (readablePaths usage environment).foldlM loadFile (storeAt here)
  let result ← converse (fun transport => CommandLine.run usage environment transport files) []
  for event in logged usage.level result.events do
    if let some line := logLine event then IO.eprintln line
  for change in changes files result.files do
    apply change
  conclude result.ending

end DashboardExport.Program

/-- The program. -/
def main (arguments : List String) : IO UInt32 := DashboardExport.Program.start arguments
