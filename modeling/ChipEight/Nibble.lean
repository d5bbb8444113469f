/-!
# Nibble

Numbers below sixteen.  They are the digits of a word, and they number the registers, the keys and
the words of a random block.
-/

namespace ChipEight

/-- What a numeral below sixteen rests on, named so that all of them rest on one thing. -/
instance neZero_sixteen : @NeZero Nat Zero.ofOfNat0 16 := ⟨by decide⟩

end ChipEight
