import FileTransfer.Command.Survey

/-! The command line. The paths are the words after the name of the command, and a survey of the
system is read from the first input. -/

namespace FileTransfer.Command

/-- The name of the command. -/
def name : String := "transfer-info"

/-- Reads all lines of an input, without their ends. -/
partial def readLines (input : IO.FS.Stream) : IO (List String) := do
  let line ← input.getLine
  if line.isEmpty then return []
  let rest ← readLines input
  return String.ofList (Settings.chomp line.toList) :: rest

end FileTransfer.Command

open FileTransfer in
/-- Prints what is known of each path, and fails if anything is unknown. -/
def main (words : List String) : IO UInt32 := do
  let survey := Survey.ofLines (← Command.readLines (← IO.getStdin))
  let ending := survey.run Command.name words
  (← IO.getStdout).putStr ending.outText
  (← IO.getStderr).putStr ending.errText
  return ending.exitCode
