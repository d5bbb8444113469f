/-!
# Random — Stream

A source of random bytes: an endless sequence, and how much of it has been used up.  Which sequence
a seed stands for is not said here.
-/

namespace ChipEight

/-- An endless sequence of bytes that is drawn from in order. -/
structure ByteStream where
  /-- The byte at each position. -/
  byte : Nat → UInt8
  /-- How many bytes have been drawn. -/
  drawn : Nat

namespace ByteStream

/-- The seed that is used when none is given. -/
def defaultSeed : UInt64 := 123

/-- The next byte, and the stream after it. -/
def next (s : ByteStream) : UInt8 × ByteStream := (s.byte s.drawn, { s with drawn := s.drawn + 1 })

/-- The bytes of an array over and over again; zeros if it has none. -/
def cycle (bytes : Array UInt8) : ByteStream := ⟨fun k => bytes[k % bytes.size]?.getD 0, 0⟩

end ByteStream

end ChipEight
