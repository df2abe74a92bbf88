/-!
# Cyclic redundancy check

The 32-bit check of IEEE 802.3, bits taken from the low end.
-/

namespace GridOperator.Checksum

/-- The remainder after one more bit. -/
def shift (r : UInt32) : UInt32 :=
  if r &&& 1 = 1 then (r >>> 1) ^^^ 0xEDB88320 else r >>> 1

/-- The remainder after one more octet. -/
def step (r : UInt32) (octet : UInt8) : UInt32 :=
  Nat.repeat shift 8 (r ^^^ octet.toUInt32)

def ofOctets (octets : List UInt8) : UInt32 :=
  octets.foldl step 0xFFFFFFFF ^^^ 0xFFFFFFFF

def ofText (s : String) : UInt32 := ofOctets s.toUTF8.toList

end GridOperator.Checksum
