import Interchange.Xml.Node
/-!
# Reading XML

A reader of XML 1.0 documents with namespaces, which gives the tree of the root element or nothing.
It wants a document to be well-formed and every prefix to be declared, but it does not look into
document type declarations.

* a declaration stands at the very beginning and names a version `1.x`;
* a document type declaration comes after something else, with at most a system identifier and one
  bracketed part;
* the five named entities and character references are resolved, all others are refused;
* comments hold no `--`, character data no `]]>`, and no processing instruction is called `xml`.

* `Xml.read?` — the root element of a document.
-/

namespace Interchange.Xml

/-- A reader of a part of a text, which gives what it read and what follows. -/
abbrev Scan (α : Type) := List Char → Option (α × List Char)

/-- The blanks of XML. -/
def isSpace (c : Char) : Bool := c = ' ' || c = '\t' || c = '\r' || c = '\n'

/-- The characters that begin a name. -/
def isNameStart (c : Char) : Bool :=
  let n := c.toNat
  c.isAlpha || c = '_' || (0xC0 ≤ n && n ≤ 0xD6) || (0xD8 ≤ n && n ≤ 0xF6) ||
    (0xF8 ≤ n && n ≤ 0x2FF) || (0x370 ≤ n && n ≤ 0x37D) || (0x37F ≤ n && n ≤ 0x1FFF) ||
    (0x200C ≤ n && n ≤ 0x200D) || (0x2070 ≤ n && n ≤ 0x218F) || (0x2C00 ≤ n && n ≤ 0x2FEF) ||
    (0x3001 ≤ n && n ≤ 0xD7FF) || (0xF900 ≤ n && n ≤ 0xFDCF) || (0xFDF0 ≤ n && n ≤ 0xFFFD) ||
    (0x10000 ≤ n && n ≤ 0xEFFFF)

/-- The characters of names. -/
def isNameChar (c : Char) : Bool :=
  let n := c.toNat
  isNameStart c || c.isDigit || c = '-' || c = '.' || n = 0xB7 || (0x300 ≤ n && n ≤ 0x36F) ||
    (0x203F ≤ n && n ≤ 0x2040)

/-- A name with the prefix of its namespace, if it has one. -/
structure QName where
  pre : Option String
  localPart : String
deriving DecidableEq

/-- Reads a fixed text. -/
def literal (s : String) : Scan Unit := fun cs =>
  (Text.stripLead s.toList cs).map fun rest => ((), rest)

/-- Drops blanks. -/
def skipSpace (cs : List Char) : List Char := cs.dropWhile isSpace

/-- Reads at least one blank. -/
def space : Scan Unit
  | c :: cs => if isSpace c then some ((), skipSpace cs) else none
  | [] => none

/-- Reads a name without a prefix. -/
def ncName : Scan String
  | c :: cs =>
    if isNameStart c then
      some (String.ofList (c :: cs.takeWhile isNameChar), cs.dropWhile isNameChar)
    else none
  | [] => none

/-- Reads a name, with a prefix if there is one. -/
def qName : Scan QName := fun cs => do
  let (first, cs) ← ncName cs
  match cs with
  | ':' :: rest =>
    match ncName rest with
    | some (second, rest) => return (⟨some first, second⟩, rest)
    | none => return (⟨none, first⟩, cs)
  | cs => return (⟨none, first⟩, cs)

/-- Reads up to the first occurrence of a fixed text and passes over it; `seen` holds what was
read, last first. -/
def upTo (stop : List Char) (seen : List Char) : Scan (List Char)
  | [] => none
  | c :: cs =>
    match Text.stripLead stop (c :: cs) with
    | some rest => some (seen.reverse, rest)
    | none => upTo stop (c :: seen) cs

/-- Reads a comment whose opening was read. -/
def comment : Scan Unit := fun cs => do
  let (_, cs) ← upTo ['-', '-'] [] cs
  literal ">" cs

/-- Reads a processing instruction whose opening was read. -/
def instruction : Scan Unit := fun cs => do
  let (target, cs) ← ncName cs
  if Text.asciiLower target = "xml" then none
  else
    match literal "?>" cs with
    | some r => return r
    | none =>
      let ((), cs) ← space cs
      let (_, cs) ← upTo ['?', '>'] [] cs
      return ((), cs)

/-- The character of a code point, if it is one. -/
def charOf? (n : Nat) : Option Char :=
  if n < 0xD800 || (0xDFFF < n && n < 0x110000) then some (Char.ofNat n) else none

/-- The value of a hexadecimal digit. -/
def hexDigit? (c : Char) : Option Nat :=
  if c.isDigit then some (c.toNat - '0'.toNat)
  else if 'a' ≤ c && c ≤ 'f' then some (c.toNat - 'a'.toNat + 10)
  else if 'A' ≤ c && c ≤ 'F' then some (c.toNat - 'A'.toNat + 10)
  else none

/-- The value of digits in a base. -/
def numberIn? (base : Nat) (digit? : Char → Option Nat) (ds : List Char) : Option Nat :=
  if ds.isEmpty then none
  else ds.foldl (fun n? c => n?.bind fun n => (digit? c).map (base * n + ·)) (some 0)

/-- What the inside of a reference stands for. -/
def resolve? : List Char → Option Char
  | '#' :: 'x' :: ds => (numberIn? 16 hexDigit? ds).bind charOf?
  | '#' :: ds =>
    (numberIn? 10 (fun c => if c.isDigit then hexDigit? c else none) ds).bind charOf?
  | name =>
    match String.ofList name with
    | "lt" => some '<'
    | "gt" => some '>'
    | "amp" => some '&'
    | "quot" => some '"'
    | "apos" => some '\''
    | _ => none

/-- Reads a reference whose ampersand was read. -/
def reference : Scan Char := fun cs => do
  let (inner, cs) ← upTo [';'] [] cs
  return (← resolve? inner, cs)

/-- Reads an attribute value whose opening quote was read. -/
def attributeValue (quote : Char) (seen : List Char) : (fuel : Nat) → Scan String
  | 0, _ => none
  | fuel + 1, cs =>
    match cs with
    | [] => none
    | '<' :: _ => none
    | '&' :: cs =>
      match reference cs with
      | some (c, cs) => attributeValue quote (c :: seen) fuel cs
      | none => none
    | c :: cs =>
      if c = quote then some (String.ofList seen.reverse, cs)
      else attributeValue quote (c :: seen) fuel cs

/-- Reads an equals sign between optional blanks. -/
def equals : Scan Unit := fun cs => do
  let ((), cs) ← literal "=" (skipSpace cs)
  return ((), skipSpace cs)

/-- Reads one of the two quotes. -/
def quote : Scan Char
  | '"' :: cs => some ('"', cs)
  | '\'' :: cs => some ('\'', cs)
  | _ => none

/-- Reads an attribute. -/
def oneAttribute : Scan (QName × String) := fun cs => do
  let (name, cs) ← qName cs
  let ((), cs) ← equals cs
  let (q, cs) ← quote cs
  let (value, cs) ← attributeValue q [] (cs.length + 1) cs
  return ((name, value), cs)

/-- Reads attributes, each after a blank. -/
def attributes : (fuel : Nat) → Scan (List (QName × String))
  | 0, cs => some ([], cs)
  | fuel + 1, cs =>
    match space cs with
    | none => some ([], cs)
    | some ((), rest) =>
      match rest with
      | c :: _ =>
        if isNameStart c then do
          let (a, cs) ← oneAttribute rest
          let (as, cs) ← attributes fuel cs
          return (a :: as, cs)
        else some ([], cs)
      | [] => some ([], cs)

/-- Whether no name occurs twice. -/
def allDistinct : List QName → Bool
  | [] => true
  | n :: ns => !ns.contains n && allDistinct ns

/-- The prefixes that attributes declare. -/
def declared (as : List (QName × String)) : List String :=
  as.filterMap fun a => if a.1.pre = some "xmlns" then some a.1.localPart else none

/-- Whether a name is without prefix or its prefix is known. -/
def isKnown (known : List String) (n : QName) : Bool :=
  match n.pre with
  | none => true
  | some p => known.contains p

/-- The prefixes known inside an element, if its attributes are distinct and all of its prefixes
are declared. -/
def enter? (known : List String) (name : QName) (as : List (QName × String)) :
    Option (List String) :=
  let known := declared as ++ known
  let plain := as.filter fun a => a.1.pre ≠ some "xmlns"
  if allDistinct (as.map Prod.fst) && isKnown known name &&
      plain.all (fun a => isKnown known a.1) &&
      as.all (fun a => a.1.pre ≠ some "xmlns" || !a.2.isEmpty) then some known
  else none

mutual

/-- Reads an element whose opening angle bracket was read. -/
def element : (fuel : Nat) → (known : List String) → Scan Node
  | 0, _, _ => none
  | fuel + 1, known, cs => do
    let (name, cs) ← qName cs
    let (as, cs) ← attributes cs.length cs
    let known ← enter? known name as
    match skipSpace cs with
    | '/' :: '>' :: cs => return (.element name.localPart [], cs)
    | '>' :: cs =>
      let (children, cs) ← content fuel known [] cs
      let (closing, cs) ← qName cs
      if closing = name then
        let ((), cs) ← literal ">" (skipSpace cs)
        return (.element name.localPart children, cs)
      else none
    | _ => none

/-- Reads content up to and including the opening of a closing tag; `run` holds the character data
just read, last first. -/
def content : (fuel : Nat) → (known : List String) → (run : List Char) → Scan (List Node)
  | 0, _, _, _ => none
  | fuel + 1, known, run, cs =>
    match cs with
    | [] => none
    | '<' :: '/' :: cs => some (flush run [], cs)
    | '<' :: '!' :: '-' :: '-' :: cs => do
      let ((), cs) ← comment cs
      content fuel known run cs
    | '<' :: '!' :: cs => do
      let ((), cs) ← literal "[CDATA[" cs
      let (data, cs) ← upTo [']', ']', '>'] [] cs
      content fuel known (data.reverse ++ run) cs
    | '<' :: '?' :: cs => do
      let ((), cs) ← instruction cs
      content fuel known run cs
    | '<' :: cs => do
      let (n, cs) ← element fuel known cs
      let (ns, cs) ← content fuel known [] cs
      return (flush run (n :: ns), cs)
    | '&' :: cs => do
      let (c, cs) ← reference cs
      content fuel known (c :: run) cs
    | ']' :: ']' :: '>' :: _ => none
    | c :: cs => content fuel known (c :: run) cs

/-- Puts character data in front of nodes. -/
def flush (run : List Char) (ns : List Node) : List Node :=
  if run.isEmpty then ns else .text (String.ofList run.reverse) :: ns

end

/-- Reads a quoted text whose characters are all of a kind. -/
def quotedWhere (p : List Char → Bool) : Scan Unit := fun cs => do
  let (q, cs) ← quote cs
  let inner := cs.takeWhile (· ≠ q)
  if p inner then
    let ((), cs) ← literal (String.singleton q) (cs.drop inner.length)
    return ((), cs)
  else none

/-- Reads an attribute of the declaration, after a blank. -/
def pseudoAttribute (name : String) (p : List Char → Bool) : Scan Unit := fun cs => do
  let ((), cs) ← space cs
  let ((), cs) ← literal name cs
  let ((), cs) ← equals cs
  quotedWhere p cs

/-- The versions `1.x`. -/
def isVersion : List Char → Bool
  | '1' :: '.' :: ds => !ds.isEmpty && ds.all Char.isDigit
  | _ => false

/-- The names of encodings. -/
def isEncoding : List Char → Bool
  | c :: cs => c.isAlpha && cs.all fun c => c.isAlphanum || c = '.' || c = '_' || c = '-'
  | [] => false

def isYesNo (cs : List Char) : Bool := cs = ['y', 'e', 's'] || cs = ['n', 'o']

/-- Reads something if it is there. -/
def optionally (s : Scan Unit) (cs : List Char) : List Char :=
  match s cs with
  | some ((), rest) => rest
  | none => cs

/-- Reads the declaration. -/
def declaration : Scan Unit := fun cs => do
  let ((), cs) ← literal "<?xml" cs
  let ((), cs) ← pseudoAttribute "version" isVersion cs
  let cs := optionally (pseudoAttribute "encoding" isEncoding) cs
  let cs := optionally (pseudoAttribute "standalone" isYesNo) cs
  literal "?>" (skipSpace cs)

/-- Reads a system identifier, after a blank. -/
def systemId : Scan Unit := fun cs => do
  let ((), cs) ← space cs
  let ((), cs) ← literal "SYSTEM" cs
  let ((), cs) ← space cs
  quotedWhere (fun inner => !inner.isEmpty && inner.all fun c => c ≠ '<' && c ≠ '&') cs

/-- Reads the bracketed part of a document type declaration. -/
def subset : Scan Unit := fun cs => do
  let ((), cs) ← literal "[" cs
  let (_, cs) ← upTo [']'] [] cs
  return ((), cs)

/-- Reads a document type declaration. -/
def docType : Scan Unit := fun cs => do
  let ((), cs) ← literal "<!DOCTYPE" cs
  let ((), cs) ← space cs
  let (_, cs) ← qName cs
  let cs := skipSpace (optionally systemId cs)
  let cs := skipSpace (optionally subset cs)
  literal ">" cs

/-- Reads blanks, a comment or a processing instruction. -/
def aside : Scan Unit
  | '<' :: '!' :: '-' :: '-' :: cs => comment cs
  | '<' :: '?' :: cs => instruction cs
  | cs => space cs

/-- Drops what may stand around the root; `types` says whether document type declarations may. -/
def skipAsides (types : Bool) : (fuel : Nat) → List Char → List Char
  | 0, cs => cs
  | fuel + 1, cs =>
    match aside cs with
    | some ((), rest) => skipAsides types fuel rest
    | none =>
      match if types then docType cs else none with
      | some ((), rest) => skipAsides types fuel rest
      | none => cs

/-- What follows the first thing before the root, if there is such a thing. -/
def skipFirst (cs : List Char) : Option (List Char) :=
  ((declaration cs).or (aside cs)).map Prod.snd

/-- The root element of a document. -/
def read? (s : String) : Option Node := do
  let cs := s.toList
  let fuel := cs.length + 1
  let start := match skipFirst cs with
    | some rest => skipAsides true fuel rest
    | none => cs
  match start with
  | '<' :: rest =>
    let (root, rest) ← element (2 * fuel) ["xml"] rest
    if (skipAsides false fuel rest).isEmpty then some root else none
  | _ => none

end Interchange.Xml
