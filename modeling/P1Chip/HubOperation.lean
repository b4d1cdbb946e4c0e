import P1Chip.Word

/-!
# Requests to the hub

The hub serves all cogs: it sets the clock, starts and stops cogs and keeps the locks.  A cog asks
for a service by a three-bit code and one argument.

* `HubOperation` — the eight services.
* `StartRequest` — the argument of the service that starts a cog: what to run, with which
  parameter, and where.
-/

namespace P1Chip

/-- The services of the hub, in the order of their codes. -/
inductive HubOperation where
  | setClock
  | cogId
  | startCog
  | stopCog
  | newLock
  | returnLock
  | setLock
  | clearLock
deriving DecidableEq, Repr, Inhabited

namespace HubOperation

/-- All services, each at the index that is its code. -/
def all : Vector HubOperation 8 :=
  #v[setClock, cogId, startCog, stopCog, newLock, returnLock, setLock, clearLock]

/-- The service whose code is in the low three bits of `bits`; every code has one. -/
def ofBits (bits : UInt32) : HubOperation :=
  all[bits.toNat % 8]

/-- The assembler's name of the service. -/
def name : HubOperation → String
  | setClock => "CLKSET"
  | cogId => "COGID"
  | startCog => "COGINIT"
  | stopCog => "COGSTOP"
  | newLock => "LOCKNEW"
  | returnLock => "LOCKRET"
  | setLock => "LOCKSET"
  | clearLock => "LOCKCLR"

end HubOperation

/-- Which cog a program is to be started in. -/
inductive CogChoice where
  /-- The idle cog with the lowest number. -/
  | anyFree
  /-- The given cog, which is stopped first if it is running. -/
  | specific (cog : Fin 8)
deriving DecidableEq, Repr, Inhabited

/-- What a cog executes. -/
inductive EngineKind where
  /-- Native instructions from the cog's own memory. -/
  | native
  /-- Bytecode from hub memory. -/
  | interpreted
deriving DecidableEq, Repr, Inhabited

namespace EngineKind

/-- The word for the kind of engine. -/
def name : EngineKind → String
  | native => "native"
  | interpreted => "interpreted"

end EngineKind

/-- The program address that stands for the bytecode interpreter. -/
def interpreterEntry : UInt32 := 0xF004

/-- A request to start a cog. -/
structure StartRequest where
  /-- Hub address that the new cog finds in its parameter register. -/
  parameter : UInt32
  /-- Hub address of the program that the new cog loads. -/
  program : UInt32
  cog : CogChoice
deriving DecidableEq, Repr, Inhabited

namespace StartRequest

/-- The request in an argument: bits 31 to 18 hold the parameter without its low two bits, bits 17
to 4 the program address without its low two bits, bit 3 asks for any free cog, and bits 2 to 0
otherwise name the cog. -/
def decode (argument : UInt32) : StartRequest where
  parameter := (argument >>> 16) &&& 0xFFFC
  program := (argument >>> 2) &&& 0xFFFC
  cog :=
    if argument &&& 8 != 0 then .anyFree
    else .specific (Word.lowThreeBits argument.toNat)

/-- The argument that makes a request.  Bits of the addresses that it has no room for are lost. -/
def encode (request : StartRequest) : UInt32 :=
  let selection : UInt32 :=
    match request.cog with
    | .anyFree => 8
    | .specific cog => UInt32.ofNat cog.val
  ((request.parameter &&& 0xFFFC) <<< 16) ||| ((request.program &&& 0xFFFC) <<< 2) ||| selection

/-- Whether the new cog runs the bytecode interpreter. -/
def isInterpreter (request : StartRequest) : Bool :=
  request.program == interpreterEntry

/-- What the new cog executes. -/
def engine (request : StartRequest) : EngineKind :=
  if request.isInterpreter then .interpreted else .native

end StartRequest

end P1Chip
