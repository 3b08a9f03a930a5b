import ClassList.Json.Literal
import ClassList.Oracle

/-! An oracle that runs a class sorting package in an external process. -/

namespace ClassList

/-- How the process is started: the program, the package it loads, the time it may take and the
directory it runs in. -/
structure ExternalSorter where
  executable : Text := "node"
  moduleName : Text := "@herb-tools/tailwind-class-sorter"
  timeout : Value := .float (.finite false (5 * Nat.pow 2 50) (-49))
  directory : Option Text := none

/-- What becomes of a process. It may also be that it cannot be started or that what it writes is no text; all
that is known then is the reason. -/
inductive ProcessResult where
  | notFound
  | timedOut
  | failed (complaint : Option Text)
  | finished (output : Text)
  | stopped (reason : Text)

/-- What starts processes: the result of an invocation may depend on those before it. -/
abbrev Launcher := (earlier : List Invocation) → Invocation → ProcessResult

namespace ExternalSorter

/-- The script up to the name of the package. -/
def scriptHead : Text := "\nconst \x7b sortTailwindClasses \x7d = require("

/-- The script after the name of the package. -/
def scriptTail : Text :=
  ");\nlet input = '';\n" ++
  "process.stdin.setEncoding('utf8');\n" ++
  "process.stdin.on('data', (chunk) => \x7b input += chunk; \x7d);\n" ++
  "process.stdin.on('end', async () => \x7b\n" ++
  "  try \x7b\n" ++
  "    process.stdout.write(await sortTailwindClasses(input));\n" ++
  "  \x7d catch (error) \x7b\n" ++
  "    console.error(String(error));\n" ++
  "    process.exit(1);\n" ++
  "  \x7d\n" ++
  "\x7d);\n"

/-- What stands in the fixed text of the script where the name of the package belongs. -/
def scriptMarker : Text := "__MODULE__"

def scriptTemplate : Text := scriptHead ++ scriptMarker ++ scriptTail

/-- The script that the program runs. It reads the classes from its input and writes them in order. -/
def script (sorter : ExternalSorter) : Text :=
  Text.replaceAll scriptMarker (Json.literal sorter.moduleName) scriptTemplate

def invocation (sorter : ExternalSorter) (input : Text) : Invocation where
  arguments := [sorter.executable, "-e", sorter.script]
  input := input
  timeout := sorter.timeout
  directory := sorter.directory

/-- What a result says: the sorted classes without blanks around them, or an error. An error that is none of
the three that are expected is passed on. -/
def outcome (sorter : ExternalSorter) : ProcessResult → Except SorterError Text
  | .notFound => .error (.executableNotFound sorter.executable)
  | .timedOut => .error (.timedOut sorter.timeout)
  | .failed complaint => .error (.failed (Text.strip (complaint.getD [])))
  | .finished output => .ok (Text.strip output)
  | .stopped reason => .error (.other reason)

def sorted (sorter : ExternalSorter) (launch : Launcher) (earlier : List Text) (question : Text) :
    Except SorterError Text :=
  sorter.outcome (launch (earlier.map sorter.invocation) (sorter.invocation question))

/-- The sorter as an oracle, which starts one process for each question. -/
def oracle (sorter : ExternalSorter) (launch : Launcher) : Oracle where
  answer earlier question :=
    match sorter.sorted launch earlier question with
    | .ok names => .value (.text names)
    | .error error => .failure error.message
  events question := [.sorterStarted (Text.words question).length sorter.moduleName]
  invocation? question := some (sorter.invocation question)

/-- Sorts one class string, with the error where there is no answer. -/
def sort (sorter : ExternalSorter) (launch : Launcher) (question : Text) : Job Text := do
  let earlier := (← get).questions
  let _ ← (sorter.oracle launch).ask question
  Job.ofExcept ((sorter.sorted launch earlier question).mapError Failure.sorter)

end ExternalSorter

end ClassList
