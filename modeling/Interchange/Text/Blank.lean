/-!
# Blanks

The characters that count as white space in every reader of this library, and the trimming of a
text at both ends.  The set is the Unicode property `White_Space`; the narrower set of the JSON
grammar is defined beside its reader.

* `isBlank` — membership in the property.
* `trim` — a text without the blanks at its two ends.
-/

namespace Interchange.Text

/-- The Unicode property `White_Space`. -/
def isBlank (c : Char) : Bool :=
  let n := c.toNat
  (9 ≤ n && n ≤ 13) || n == 0x20 || n == 0x85 || n == 0xA0 || n == 0x1680 ||
    (0x2000 ≤ n && n ≤ 0x200A) || n == 0x2028 || n == 0x2029 || n == 0x202F || n == 0x205F ||
    n == 0x3000

/-- Drops the characters at the end for which `p` holds. -/
def dropEndWhile (p : Char → Bool) (cs : List Char) : List Char :=
  (cs.reverse.dropWhile p).reverse

/-- Drops the characters at both ends for which `p` holds. -/
def trimWhere (p : Char → Bool) (cs : List Char) : List Char :=
  dropEndWhile p (cs.dropWhile p)

/-- The text without its leading and trailing blanks. -/
def trim (s : String) : String :=
  String.ofList (trimWhere isBlank s.toList)

/-- Whether the text holds nothing but blanks. -/
def isBlankText (s : String) : Bool :=
  s.toList.all isBlank

end Interchange.Text
