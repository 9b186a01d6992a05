/-!
# Powers

The powers of two, in which doubles are counted, and of ten, in which decimals are.
-/

namespace RecordMapper.Decimal

/-- The power of two with an exponent. -/
def twoTo (n : Nat) : Nat := Nat.pow 2 n

/-- The power of ten with an exponent. -/
def tenTo (n : Nat) : Nat := Nat.pow 10 n

end RecordMapper.Decimal
