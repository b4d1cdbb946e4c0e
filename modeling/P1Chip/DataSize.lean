/-!
# Sizes of data in hub memory

Hub memory is read and written in bytes, words of two bytes and longs of four.
-/

namespace P1Chip

/-- How much of hub memory one access moves. -/
inductive DataSize where
  | byte
  | word
  | long
deriving DecidableEq, Repr, Inhabited

namespace DataSize

/-- Base-two logarithm of the size in bytes. -/
def shift : DataSize → UInt32
  | byte => 0
  | word => 1
  | long => 2

/-- The size in bytes. -/
def bytes : DataSize → UInt32
  | byte => 1
  | word => 2
  | long => 4

/-- The name of the size. -/
def name : DataSize → String
  | byte => "Byte"
  | word => "Word"
  | long => "Long"

end DataSize

end P1Chip
