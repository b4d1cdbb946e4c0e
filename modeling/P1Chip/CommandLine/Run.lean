import P1Chip.Chip.Step
import P1Chip.CommandLine.Options
import P1Chip.CommandLine.PinTrace
import P1Chip.CommandLine.Report

/-!
# The program

The program loads an image into a chip, runs the chip until it stops, and reports what it looks
like then.  Everything that the program reads and prints goes through a `Host`, so that the same
program runs on a real system and on a list of files.

* `Host` — reading files and printing lines.
* `runSteps`, `runUntilStop` — running the chip.
* `runProgram` — the whole program.
-/

namespace P1Chip.CommandLine

/-- What the program reads and prints with. -/
structure Host (m : Type → Type) where
  /-- The contents of a file, or why they cannot be read. -/
  contentsOf : String → m (Except String ByteArray)
  print : String → m Unit
  printError : String → m Unit

/-- The chip that the program runs. -/
abbrev TracedChip := Chip Float PinTrace

/-! ## Running the chip -/

/-- Why a run ends. -/
inductive Stop where
  | stepLimit
  | breakpoint
  | allCogsStopped
  | fault (fault : Fault)
deriving DecidableEq, Repr

/-- Steps so often, unless something stops the chip before. -/
def runSteps : Nat → TracedChip → Option Stop × TracedChip
  | 0, chip => (none, chip)
  | steps + 1, chip =>
    match chip.step with
    | (.error fault, chip) => (some (.fault fault), chip)
    | (.ok false, chip) => (some .breakpoint, chip)
    | (.ok true, chip) =>
      if chip.hub.running = 0 then (some .allCogsStopped, chip) else runSteps steps chip

/-- Steps between two times at which lines are printed. -/
def roundSteps : Nat := 4096

/-- Prints the lines that the plugins have left, and gives the chip without them. -/
def flush {m : Type → Type} [Monad m] (host : Host m) (chip : TracedChip) : m TracedChip := do
  let plugins := chip.plugins
  plugins.printed.toList.forM host.print
  return { chip with plugins := { plugins with printed := #[] } }

/-- Runs the chip until it stops, for `remaining` steps at the most, and prints the lines of the
plugins on the way. -/
def runUntilStop {m : Type → Type} [Monad m] (host : Host m) (remaining : Nat)
    (chip : TracedChip) : m (Stop × TracedChip) := do
  let chip ← flush host chip
  if _h : remaining = 0 then
    return (.stepLimit, chip)
  else
    let (stop?, chip) := runSteps (min remaining roundSteps) chip
    match stop? with
    | some stop => return (stop, ← flush host chip)
    | none => runUntilStop host (remaining - roundSteps) chip
termination_by remaining
decreasing_by
  simp only [roundSteps]
  omega

/-- The number of steps of a run without a limit, which no run reaches. -/
def unlimited : Nat := UInt64.size

/-! ## The program -/

/-- The name of the program and its version. -/
def versionLine : String := "hubsim 0.1.0"

/-- How the program is called. -/
def helpLines : List String :=
  ["Emulator for the Propeller P1 microcontroller",
    "",
    "Usage: hubsim [OPTIONS] <IMAGE>",
    "",
    "Arguments:",
    "  <IMAGE>  The program image (a .binary file) to load into hub RAM",
    "",
    "Options:",
    "      --rom <ROM>",
    "          A 32KB ROM image to use instead of the built-in tables",
    "      --max-steps <MAX_STEPS>",
    "          Stop after this many system clocks",
    "      --speed-multiplier <SPEED_MULTIPLIER>",
    "          Run this many times faster than real-time ('MAX' for as-fast-as-possible)"
      ++ " [default: MAX]",
    "      --frame-break <FRAME_BREAK>",
    "          Stop when a video frame completes [default: none]"
      ++ " [possible values: none, hit, miss]",
    "      --show-pins",
    "          Print the pins each time they change",
    "  -h, --help",
    "          Print help",
    "  -V, --version",
    "          Print version"]

/-- The memory of a chip with the given read-only half, or with the tables. -/
def memoryWith : Option ByteArray → Memory
  | some rom => .withRom rom
  | none => .withTables

/-- A chip with a program that was started, and with the plugins that the options ask for. -/
def prepare (options : Options) (rom? : Option ByteArray) (image : ByteArray) :
    Except ImageSizeError TracedChip :=
  let chip : TracedChip := .switchedOn (memoryWith rom?)
  let plugins :=
    if options.showPins then
      let (id, plugins) := chip.plugins.attach PinTrace.new
      (plugins.subscribePins id).2
    else
      chip.plugins
  { chip with plugins, frameBreak := options.frameBreak }.load image

/-- Reads a file, or tells why it cannot be read. -/
def readNamed {m : Type → Type} [Monad m] (host : Host m) (name : String) :
    ExceptT String m ByteArray :=
  ExceptT.mk do
    match ← host.contentsOf name with
    | .ok bytes => return .ok bytes
    | .error reason => return .error ("failed to read " ++ name ++ ": " ++ reason)

/-- Runs the chip with the given options and reports.  The error is what went wrong. -/
def simulate {m : Type → Type} [Monad m] (host : Host m) (options : Options) :
    ExceptT String m Unit := do
  unless options.checkSpeed do
    throw ("--speed-multiplier should be a positive number or MAX, not "
      ++ Text.quoted options.speed)
  let image ← readNamed host options.image
  let rom? ← options.rom?.mapM (readNamed host)
  match prepare options rom? image with
  | .error error => throw error.message
  | .ok chip =>
    let limit := (options.maxSteps?.map UInt64.toNat).getD unlimited
    let (stop, chip) ← ExceptT.lift (runUntilStop host limit chip)
    (Report.lines chip).forM fun line => host.print line
    match stop with
    | .fault fault => throw fault.message
    | _ => return ()

/-- The whole program.  The result is its exit code: zero if all went well, one if something went
wrong on the way, and two if the arguments were not understood. -/
def runProgram {m : Type → Type} [Monad m] (host : Host m) (arguments : List String) :
    m UInt32 := do
  match Options.parse arguments with
  | .error .help =>
    helpLines.forM host.print
    return 0
  | .error .version =>
    host.print versionLine
    return 0
  | .error (.usage reason) =>
    host.printError ("error: " ++ reason)
    return 2
  | .ok options =>
    match ← (simulate host options).run with
    | .ok () => return 0
    | .error message =>
      host.printError message
      return 1

end P1Chip.CommandLine
