import Interchange.Xml.Soap
/-!
# Wire formats

The formats in which messages go out to other systems and come back: JSON, XML and SOAP.  A reply
is read in the format that its content type names; without one, a text that looks like a SOAP
envelope is read as such, and any other in the format that the system declares.

* `WireFormat.encode`, `WireFormat.decode` — bodies in one format.
* `WireFormat.ofReply` — the format of a reply.
-/

namespace Interchange

/-- The format of a body. -/
inductive WireFormat
  | json | xml | soap
deriving DecidableEq

namespace WireFormat

def name : WireFormat → String
  | json => "json"
  | xml => "xml"
  | soap => "soap"

def ofName? : String → Option WireFormat
  | "json" => some json
  | "xml" => some xml
  | "soap" => some soap
  | _ => none

def read : Reader WireFormat := Reader.oneOf ["json", "xml", "soap"] ofName?

/-- The content type of bodies in a format. -/
def contentType : WireFormat → String
  | json => "application/json"
  | xml => "application/xml"
  | soap => "text/xml; charset=utf-8"

/-- The format that a content type names. -/
def ofContentType? (contentType : String) : Option WireFormat :=
  let t := Text.asciiLower contentType
  if Text.contains t "json" then some json
  else if Text.contains t "soap" then some soap
  else if Text.contains t "xml" then some xml
  else none

/-- The body of a value; `operation` names the root element or the SOAP operation. -/
def encode (f : WireFormat) (v : Value) (operation : String) : String :=
  match f with
  | json => v.render
  | xml => Xml.encode v operation
  | soap => Soap.encode v operation

/-- The value of a body; nothing is read off malformed JSON.  A blank body is null. -/
def decode (f : WireFormat) (body : String) : Option Value :=
  if Text.isBlankText body then some .null
  else
    match f with
    | json => Value.parse? body
    | xml => some (Xml.decode body)
    | soap => some (Soap.decode body)

/-- The format in which a reply is read. -/
def ofReply (body : String) (contentType : Option String) (declared : WireFormat) : WireFormat :=
  match contentType.bind ofContentType? with
  | some xml => if Soap.isEnvelope body then soap else xml
  | some f => f
  | none => if Soap.isEnvelope body then soap else declared

end WireFormat

end Interchange
