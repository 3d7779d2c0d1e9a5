/-!
# ASCII letters

Case folding of the 26 ASCII letters, for names that are compared without regard to case: kinds,
operators, headers, routing criteria.  Every other character stands for itself.
-/

namespace Interchange.Text

/-- The text with its ASCII capitals made small. -/
def asciiLower (s : String) : String := String.ofList (s.toList.map Char.toLower)

/-- The text with its ASCII small letters made capitals. -/
def asciiUpper (s : String) : String := String.ofList (s.toList.map Char.toUpper)

/-- Equality up to the case of ASCII letters. -/
def sameIgnoringCase (s t : String) : Bool := asciiLower s == asciiLower t

end Interchange.Text
