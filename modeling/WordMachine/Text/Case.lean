/-!
# Comparing ASCII text without regard to case

Only the letters `A` to `Z` have two cases here; every other character stands for itself.
-/

namespace WordMachine.Text

def lowerCase (s : String) : List Char := s.toList.map Char.toLower

/-- Equal up to the case of ASCII letters. -/
def sameLetters (s t : String) : Bool := lowerCase s == lowerCase t

end WordMachine.Text
