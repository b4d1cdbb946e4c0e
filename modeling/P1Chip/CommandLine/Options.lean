import P1Chip.Cog.RunState
import P1Chip.Text.Decimal
import P1Chip.Text.Quoted

/-!
# Command-line options

* `Options` — what the user asks for.
* `Options.parse` — the options in a list of arguments.
* `Options.checkSpeed` — whether the speed is one.
-/

namespace P1Chip.CommandLine

/-- What the user asks for. -/
structure Options where
  /-- Name of the file with the program image. -/
  image : String
  /-- Name of a file with the contents of the read-only memory. -/
  rom? : Option String
  /-- Stop after so many system clocks. -/
  maxSteps? : Option UInt64
  /-- How many times faster than real time to run. -/
  speed : String
  frameBreak : FrameBreak
  /-- Print the pins when they change. -/
  showPins : Bool
deriving DecidableEq, Repr

/-- What the arguments ask for instead of a run. -/
inductive Request where
  | help
  | version
  /-- The arguments are not understood, for the given reason. -/
  | usage (reason : String)
deriving DecidableEq, Repr

namespace Options

/-- The options that were read so far; each may be given only once. -/
structure Partial where
  image? : Option String
  rom? : Option String
  maxSteps? : Option UInt64
  speed? : Option String
  frameBreak? : Option FrameBreak
  showPins : Bool
deriving DecidableEq, Repr

namespace Partial

/-- Nothing was read. -/
def empty : Partial where
  image? := none
  rom? := none
  maxSteps? := none
  speed? := none
  frameBreak? := none
  showPins := false

/-- The options, with the default for everything that was not given.  The image has none. -/
def finish (options : Partial) : Except Request Options :=
  match options.image? with
  | none => .error (.usage "the required argument <IMAGE> was not provided")
  | some image =>
    .ok
      { image
        rom? := options.rom?
        maxSteps? := options.maxSteps?
        speed := options.speed?.getD "MAX"
        frameBreak := options.frameBreak?.getD .none
        showPins := options.showPins }

/-- Takes an argument that is no option, which is the image. -/
def takeImage (options : Partial) (value : String) : Except Request Partial :=
  if options.image?.isSome then .error (.usage ("unexpected argument " ++ Text.quoted value))
  else .ok { options with image? := some value }

end Partial

/-- The options that take a value. -/
inductive ValueOption where
  | rom
  | maxSteps
  | speed
  | frameBreak
deriving DecidableEq, Repr

namespace ValueOption

/-- The option with a name. -/
def ofName? : String → Option ValueOption
  | "rom" => some rom
  | "max-steps" => some maxSteps
  | "speed-multiplier" => some speed
  | "frame-break" => some frameBreak
  | _ => none

end ValueOption

/-- A whole number of at most 64 bits, which may have a plus in front. -/
def parseCount? (text : String) : Option UInt64 :=
  let digits :=
    match text.toList with
    | '+' :: rest => rest
    | digits => digits
  let value := Text.Decimal.valueOf 0 digits
  if !digits.isEmpty && digits.all Char.isDigit && value < UInt64.size then
    some (UInt64.ofNat value)
  else
    none

/-- Which ends of video frames are meant by a word. -/
def parseFrameBreak? : String → Option FrameBreak
  | "none" => some .none
  | "hit" => some .hit
  | "miss" => some .miss
  | _ => none

/-- Gives an option its value.  It may not have one yet, and it must be of the right form. -/
def takeValue (options : Partial) (option : ValueOption) (value : String) :
    Except Request Partial :=
  let invalid : Except Request Partial := .error (.usage ("invalid value " ++ Text.quoted value))
  let repeated : Except Request Partial := .error (.usage "an option was given more than once")
  match option with
  | .rom =>
    if options.rom?.isSome then repeated else .ok { options with rom? := some value }
  | .speed =>
    if options.speed?.isSome then repeated else .ok { options with speed? := some value }
  | .maxSteps =>
    if options.maxSteps?.isSome then repeated
    else
      match parseCount? value with
      | none => invalid
      | some steps => .ok { options with maxSteps? := some steps }
  | .frameBreak =>
    if options.frameBreak?.isSome then repeated
    else
      match parseFrameBreak? value with
      | none => invalid
      | some frameBreak => .ok { options with frameBreak? := some frameBreak }

/-- Takes an option that has no value of its own after an equals sign. -/
def takeFlag (options : Partial) (name : String) : Except Request Partial :=
  match name with
  | "show-pins" =>
    if options.showPins then .error (.usage "an option was given more than once")
    else .ok { options with showPins := true }
  | "help" => .error .help
  | "version" => .error .version
  | _ => .error (.usage ("unexpected argument " ++ Text.quoted ("--" ++ name)))

/-- Takes a short option, without its hyphen; further letters behind the first one are not looked
at, because both short options end the reading. -/
def takeShort (letters : List Char) : Request :=
  match letters with
  | 'h' :: _ => .help
  | 'V' :: _ => .version
  | _ => .usage ("unexpected argument " ++ Text.quoted (String.ofList ('-' :: letters)))

/-- Whether an argument stands for itself, and is not an option. -/
def isPlain (argument : String) : Bool :=
  match argument.toList with
  | '-' :: _ :: _ => false
  | _ => true

/-- Reads arguments one after the other.  An option that takes a value has it behind an equals sign
or in the next argument.  After two hyphens alone no more options come. -/
def read : List String → Partial → Except Request Partial
  | [], options => .ok options
  | argument :: rest, options =>
    match argument.toList with
    | ['-', '-'] => rest.foldlM Partial.takeImage options
    | '-' :: '-' :: letters =>
      let name := String.ofList (letters.takeWhile (· != '='))
      match letters.dropWhile (· != '='), ValueOption.ofName? name with
      | _ :: value, some option =>
        (takeValue options option (String.ofList value)).bind (read rest)
      | _ :: _, none => .error (.usage ("unexpected value for " ++ Text.quoted name))
      | [], none => (takeFlag options name).bind (read rest)
      | [], some option =>
        match rest with
        | value :: rest =>
          if isPlain value then (takeValue options option value).bind (read rest)
          else .error (.usage ("a value is required for " ++ Text.quoted name))
        | [] => .error (.usage ("a value is required for " ++ Text.quoted name))
    | '-' :: letter :: letters => .error (takeShort (letter :: letters))
    | _ => (options.takeImage argument).bind (read rest)

/-- The options in a list of arguments, or what they ask for instead of a run. -/
def parse (arguments : List String) : Except Request Options :=
  (read arguments .empty).bind Partial.finish

/-- Whether the speed is the word for as fast as possible, or a positive number. -/
def checkSpeed (options : Options) : Bool :=
  options.speed == "MAX"
    || match Text.Decimal.parse? options.speed with
      | some decimal => decimal.roundsToPositive
      | none => false

end Options

end P1Chip.CommandLine
