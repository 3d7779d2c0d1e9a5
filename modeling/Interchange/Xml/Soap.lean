import Interchange.Text.Ranges
import Interchange.Text.WordRanges
import Interchange.Xml.Message
/-!
# SOAP envelopes

A SOAP 1.1 message is an envelope whose body holds the element of an operation.  The body is found
by its local name, whatever its prefix and case; its elements become the members of an object.  A
document that cannot be read counts as the text of its body, or of all of it, without tags.

* `Soap.encode`, `Soap.decode` — between values and envelopes.
* `Soap.isEnvelope` — whether a text looks like an envelope.
-/

namespace Interchange.Soap

/-- The namespace of SOAP 1.1 envelopes. -/
def envelopeNamespace : String := "http://schemas.xmlsoap.org/soap/envelope/"

/-- The envelope of a value as the argument of an operation. -/
def encode (v : Value) (operation : String) : String :=
  Xml.declarationText ++ "<soapenv:Envelope xmlns:soapenv=\"" ++ envelopeNamespace ++
    "\"><soapenv:Header/><soapenv:Body>" ++ (Xml.ofValue operation v).render ++
    "</soapenv:Body></soapenv:Envelope>"

/-- Whether a text looks like an envelope, by its first 512 characters. -/
def isEnvelope (s : String) : Bool :=
  let head := (s.toList.take 512).map Char.toLower
  Text.occursIn ":envelope".toList head || Text.occursIn "<envelope".toList head

/-- The content of the first element with a local name, in any case. -/
def find? (name : String) (ns : List Xml.Node) : Option (List Xml.Node) :=
  ((Xml.Node.elements ns).find? fun e => Text.sameIgnoringCase e.1 name).map Prod.snd

/-- The value of the body of an envelope, or of an element that is none. -/
def bodyValue : Xml.Node → Value
  | .element name children =>
    if Text.sameIgnoringCase name "envelope" then
      match find? "body" children with
      | none => .null
      | some inner =>
        match Xml.collect (Xml.childValues inner) with
        | [] => .null
        | members => .obj members
    else Xml.contentValue children
  | .text s => Xml.toValue (.text s)

/-! ### The body of a document that cannot be read -/

/-- The characters of a prefix. -/
def isPrefixChar (c : Char) : Bool := c = '-' || Text.inRanges Text.word c.toNat

/-- What follows the name `body`, with a prefix or without. -/
def afterBodyName (cs : List Char) : Option (List Char) :=
  let plain (cs : List Char) : Option (List Char) :=
    if (cs.take 4).map Char.toLower = ['b', 'o', 'd', 'y'] then some (cs.drop 4) else none
  let lead := cs.takeWhile isPrefixChar
  match cs.drop lead.length with
  | ':' :: rest => if lead.isEmpty then plain cs else (plain rest).or (plain cs)
  | _ => plain cs

/-- What follows an opening tag of a body. -/
def afterOpening : List Char → Option (List Char)
  | '<' :: cs =>
    match (afterBodyName cs).map fun cs => cs.dropWhile (· ≠ '>') with
    | some (_ :: rest) => some rest
    | _ => none
  | _ => none

/-- Whether a text begins with a closing tag of a body. -/
def isClosing : List Char → Bool
  | '<' :: '/' :: cs => (afterBodyName cs).any fun rest => rest.head? = some '>'
  | _ => false

/-- What stands before the last closing tag. -/
def beforeLastClosing : List Char → Option (List Char)
  | [] => none
  | c :: cs =>
    match beforeLastClosing cs with
    | some inner => some (c :: inner)
    | none => if isClosing (c :: cs) then some [] else none

/-- What stands between the first opening tag that is closed at all and the last closing tag. -/
def bodyText? : List Char → Option (List Char)
  | [] => none
  | c :: cs => ((afterOpening (c :: cs)).bind beforeLastClosing).or (bodyText? cs)

/-- The value of an envelope. -/
def decode (s : String) : Value :=
  match Xml.read? s with
  | some root => bodyValue root
  | none =>
    match bodyText? s.toList with
    | some inner => .str (Xml.stripTags (String.ofList inner))
    | none => .str (Xml.stripTags s)

end Interchange.Soap
