/-!
# Sets of eight

The chip keeps sets of cogs and of locks as the bits of a byte.  Their members are numbers below
eight.

* `BitSet8.contains`, `BitSet8.insert`, `BitSet8.erase` — members.
* `BitSet8.lowest?` — the least member.
-/

namespace P1Chip.BitSet8

/-- The set whose only member is `i`. -/
def single (i : Fin 8) : UInt8 :=
  1 <<< UInt8.ofNat i.val

/-- Whether `i` is in the set. -/
def contains (set : UInt8) (i : Fin 8) : Bool :=
  set &&& single i != 0

/-- The set with `i` in it. -/
def insert (set : UInt8) (i : Fin 8) : UInt8 :=
  set ||| single i

/-- The set without `i`. -/
def erase (set : UInt8) (i : Fin 8) : UInt8 :=
  set &&& ~~~ single i

/-- The set with `i` in it or not. -/
def put (set : UInt8) (i : Fin 8) (present : Bool) : UInt8 :=
  if present then insert set i else erase set i

/-- The least member of the set. -/
def lowest? (set : UInt8) : Option (Fin 8) :=
  (List.finRange 8).find? (contains set)

end P1Chip.BitSet8
