import P1Chip.CommandLine.Run

/-!
# The command line

Runs the program on the files, the standard output and the standard error of the system.
-/

namespace P1Chip.CommandLine

/-- Why a file cannot be read, the way the system says it. -/
def reasonOf : IO.Error → String
  | .noFileOrDirectory _ code _ => "No such file or directory (os error " ++ toString code ++ ")"
  | .permissionDenied _ code _ => "Permission denied (os error " ++ toString code ++ ")"
  | .inappropriateType _ code _ => "Is a directory (os error " ++ toString code ++ ")"
  | error => error.toString

/-- The files and the output of the system. -/
def systemHost : Host IO where
  contentsOf := fun name => do
    try
      return .ok (← IO.FS.readBinFile name)
    catch error =>
      return .error (reasonOf error)
  print := IO.println
  printError := fun line => do (← IO.getStderr).putStrLn line

end P1Chip.CommandLine

/-- Runs the program with the given arguments. -/
def main (arguments : List String) : IO UInt32 :=
  P1Chip.CommandLine.runProgram P1Chip.CommandLine.systemHost arguments
