import Interchange.Text.Blank
import Interchange.Text.Pieces
/-!
# Segments of a path

A path is a text that names a place in a document.  Its segments are object keys or list indices.
They may be written `a.b.0`, `a.b[0]`, `a['b'][0]` or `$.a["b"].0`, with blanks around; empty
segments are left out, so `a..b` and `a.b` name the same place and the empty path names the whole
document.

* `segments` — the segments of a path text.
-/

namespace Interchange.Path

/-- A quote around a segment. -/
def isQuote (c : Char) : Bool := c = '\'' || c = '"'

/-- What follows the mark of the document root. -/
def dropRoot : List Char → List Char
  | '$' :: '.' :: cs => cs
  | '$' :: cs => cs
  | cs => cs

/-- An opening bracket separates segments as a point does, and a closing one is dropped. -/
def bracketToPoint (cs : List Char) : List Char :=
  cs.filterMap fun c => if c = '[' then some '.' else if c = ']' then none else some c

/-- The segments of a trimmed path. -/
def segmentLists (cs : List Char) : List (List Char) :=
  ((Text.splitAt '.' (bracketToPoint (dropRoot cs))).map (Text.trimWhere isQuote)).filter
    fun s => !s.isEmpty

/-- The segments of a path text. -/
def segments (path : String) : List String :=
  (segmentLists (Text.trimWhere Text.isBlank path.toList)).map String.ofList

end Interchange.Path
