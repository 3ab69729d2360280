import Companion.Text.Octets

/-!
Checksums: the cyclic redundancy check with 32 bits, lowest bit first.
-/

namespace Companion.Checksum

open Text

/-- The polynomial, its lowest coefficient first. -/
def polynomial : UInt32 := 0xEDB88320

def shift (state : UInt32) : UInt32 :=
  if state &&& 1 = 1 then (state >>> 1) ^^^ polynomial else state >>> 1

def shiftOctet (state : UInt32) : UInt32 :=
  shift (shift (shift (shift (shift (shift (shift (shift state)))))))

def update (state : UInt32) (octet : UInt8) : UInt32 := shiftOctet (state ^^^ octet.toUInt32)

def compute (data : Octets) : UInt32 := ~~~ data.foldl update 0xFFFFFFFF

def hexWord (n : UInt32) : String :=
  hex [(n >>> 24).toUInt8, (n >>> 16).toUInt8, (n >>> 8).toUInt8, n.toUInt8]

def render (data : Octets) : String := hexWord (compute data)

/-- The check value of the standard. -/
theorem compute_digits : compute [49, 50, 51, 52, 53, 54, 55, 56, 57] = 0xCBF43926 := by
  decide +kernel

end Companion.Checksum
