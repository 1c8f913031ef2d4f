/-! The numbers that words of 32 and of 64 bits hold are those below these bounds. -/

namespace VideoIngest.Number

def wordBound32 : Nat := 0x1_0000_0000

def wordBound64 : Nat := 0x1_0000_0000_0000_0000

end VideoIngest.Number
