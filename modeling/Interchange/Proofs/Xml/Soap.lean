import Interchange.Proofs.Xml.Message
import Interchange.Xml.Soap
/-!
# Values come back from SOAP envelopes

An envelope is read from the outside: its opening tag declares the one prefix that it uses, its
header is empty, and its body holds the element of the operation, which is read like a document.

* `Soap.read?_encode` — the tree of an envelope.
* `Soap.decode_encode` — the value comes back as the member named after the operation.
-/

namespace Interchange.Soap

open Xml

/-! ### Tags of envelopes -/

/-- The prefixes that are known inside an envelope. -/
def innerPrefixes : List String := ["soapenv", "xml"]

theorem qName_envelope (rest : List Char) :
    qName ("soapenv:Envelope ".toList ++ rest) =
      some (⟨some "soapenv", "Envelope"⟩, ' ' :: rest) := rfl

theorem qName_envelope_end (rest : List Char) :
    qName ("soapenv:Envelope>".toList ++ rest) =
      some (⟨some "soapenv", "Envelope"⟩, '>' :: rest) := rfl

theorem qName_header (rest : List Char) :
    qName ("soapenv:Header/>".toList ++ rest) =
      some (⟨some "soapenv", "Header"⟩, '/' :: '>' :: rest) := rfl

theorem qName_body (rest : List Char) :
    qName ("soapenv:Body>".toList ++ rest) = some (⟨some "soapenv", "Body"⟩, '>' :: rest) := rfl

/-- The attribute that declares the prefix. -/
def declaresPrefix : QName × String := (⟨some "xmlns", "soapenv"⟩, envelopeNamespace)

/-- The text of the attribute, and the end of its tag. -/
def prefixText : List Char :=
  "xmlns:soapenv=\"".toList ++ (envelopeNamespace.toList ++ "\">".toList)

/-- The envelope declares its prefix, and nothing else. -/
theorem attributes_envelope (rest : List Char) :
    attributes (' ' :: (prefixText ++ rest)).length (' ' :: (prefixText ++ rest)) =
      some ([declaresPrefix], '>' :: rest) := rfl

/-- With that the prefix is known inside, -/
theorem enter?_envelope :
    enter? ["xml"] ⟨some "soapenv", "Envelope"⟩ [declaresPrefix] = some innerPrefixes := by
  decide

/-- and stays known in the header and the body. -/
theorem enter?_inner (name : String) :
    enter? innerPrefixes ⟨some "soapenv", name⟩ [] = some innerPrefixes := by
  simp [enter?, declared, allDistinct, isKnown, innerPrefixes]

/-! ### The parts of an envelope -/

variable {ns : List Node}

/-- The header is read as an empty element, -/
theorem element_header (fuel : Nat) (rest : List Char) :
    element (fuel + 1) innerPrefixes ("soapenv:Header/>".toList ++ rest) =
      some (.element "Header" [], rest) :=
  element_of_tag (qName_header rest) (attributes_of_not_isSpace (by decide) _ _)
    (enter?_inner "Header")

/-- and the body with what is in it. -/
theorem element_body (named : Named ns) {fuel : Nat} (enough : (renderAll ns).toList.length < fuel)
    (rest : List Char) :
    element (fuel + 1) innerPrefixes ("soapenv:Body>".toList ++
        ((renderAll ns).toList ++ '<' :: '/' :: ("soapenv:Body>".toList ++ rest))) =
      some (.element "Body" (settle [] ns), rest) :=
  element_of_parts (qName_body _) (attributes_of_not_isSpace (by decide) _ _) (enter?_inner "Body")
    (content_renderAll named enough innerPrefixes [] ("soapenv:Body>".toList ++ rest))
    (qName_body rest)

/-- The header and the body are what an envelope contains. -/
theorem content_envelope (named : Named ns) {fuel : Nat}
    (enough : (renderAll ns).toList.length < fuel) (rest : List Char) :
    content (fuel + 3) innerPrefixes [] ('<' :: ("soapenv:Header/>".toList ++ '<' ::
        ("soapenv:Body>".toList ++ ((renderAll ns).toList ++ '<' :: '/' ::
          ("soapenv:Body>".toList ++ '<' :: '/' :: rest))))) =
      some ([.element "Header" [], .element "Body" (settle [] ns)], rest) := by
  have finished : content (fuel + 1) innerPrefixes [] ('<' :: '/' :: rest) = some ([], rest) := by
    rw [content, flush_nil]
  have body := content_of_parts [] (by rfl) (element_body named enough _) finished
  have both := content_of_parts [] (by rfl) (element_header (fuel + 1) _) body
  simpa only [flush_nil] using both

/-- The text of an envelope after its opening angle bracket. -/
def envelopeText (ns : List Node) : List Char :=
  "soapenv:Envelope ".toList ++ (prefixText ++ '<' :: ("soapenv:Header/>".toList ++ '<' ::
    ("soapenv:Body>".toList ++ ((renderAll ns).toList ++ '<' :: '/' :: ("soapenv:Body>".toList ++
      '<' :: '/' :: "soapenv:Envelope>".toList)))))

/-- The fuel for the text of an envelope is enough for what its body holds. -/
theorem exists_fuel {a b c d e f : List Char} {fuel : Nat} (long : 4 ≤ a.length)
    (enough : (a ++ (b ++ '<' :: (c ++ '<' :: (d ++ (e ++ f))))).length < fuel) :
    ∃ left, fuel = left + 4 ∧ e.length < left := by
  simp only [List.length_append, List.length_cons] at enough
  exact ⟨fuel - 4, by omega, by omega⟩

/-- The envelope is read with both. -/
theorem element_envelope (named : Named ns) {fuel : Nat}
    (enough : (envelopeText ns).length < fuel) :
    element fuel ["xml"] (envelopeText ns) =
      some (.element "Envelope" [.element "Header" [], .element "Body" (settle [] ns)], []) := by
  have long : 4 ≤ "soapenv:Envelope ".toList.length := by decide +kernel
  obtain ⟨left, rfl, room⟩ := exists_fuel long enough
  exact element_of_parts (qName_envelope _) (attributes_envelope _) enter?_envelope
    (content_envelope named room _) (qName_envelope_end [])

/-- **An envelope is read as its header and its body.** -/
theorem read?_envelope (named : Named ns) {s : String}
    (form : s.toList = declarationText.toList ++ '<' :: envelopeText ns) :
    read? s =
      some (.element "Envelope" [.element "Header" [], .element "Body" (settle [] ns)]) :=
  read?_of_element (.inl form) (by rfl) fun _ enough => element_envelope named enough

/-! ### Values in envelopes -/

/-- The pieces of a text of five parts, cut where its tags begin. -/
theorem toList_cut (declared n r : String) {o m z : String} {a b c d e f g : List Char}
    (opening : o.toList = '<' :: (a ++ b)) (middle : m.toList = c ++ '<' :: (d ++ '<' :: e))
    (ending : z.toList = '<' :: '/' :: (f ++ '<' :: '/' :: g)) :
    (declared ++ o ++ n ++ m ++ r ++ z).toList = declared.toList ++ '<' :: (a ++
      (b ++ (n.toList ++ c) ++ '<' :: (d ++ '<' :: (e ++ (r.toList ++ '<' :: '/' ::
        (f ++ '<' :: '/' :: g)))))) := by
  simp [opening, middle, ending]

/-- The text of an encoded value is a declaration and an envelope. -/
theorem toList_encode (v : Value) (operation : String) :
    (encode v operation).toList =
      declarationText.toList ++ '<' :: envelopeText [ofValue operation v] := by
  have only : renderAll [ofValue operation v] = (ofValue operation v).render := by
    rw [renderAll, renderAll, String.append_empty]
  have opening : "<soapenv:Envelope xmlns:soapenv=\"".toList =
      '<' :: ("soapenv:Envelope ".toList ++ "xmlns:soapenv=\"".toList) := by decide +kernel
  have middle : "\"><soapenv:Header/><soapenv:Body>".toList =
      "\">".toList ++ '<' :: ("soapenv:Header/>".toList ++ '<' :: "soapenv:Body>".toList) := by
    decide +kernel
  have ending : "</soapenv:Body></soapenv:Envelope>".toList =
      '<' :: '/' :: ("soapenv:Body>".toList ++ '<' :: '/' :: "soapenv:Envelope>".toList) := by
    decide +kernel
  have text : encode v operation = declarationText ++ "<soapenv:Envelope xmlns:soapenv=\"" ++
      envelopeNamespace ++ "\"><soapenv:Header/><soapenv:Body>" ++
      renderAll [ofValue operation v] ++ "</soapenv:Body></soapenv:Envelope>" := by
    rw [only, encode]
  exact (congrArg String.toList text).trans (toList_cut _ _ _ opening middle ending)

/-- The body of an envelope with one element is an object with one member. -/
theorem bodyValue_envelope (name : String) (children : List Node) :
    bodyValue (.element "Envelope"
        [.element "Header" [], .element "Body" [.element name children]]) =
      .obj [(name, contentValue children)] := by
  have isEnvelope : Text.sameIgnoringCase "Envelope" "envelope" = true := by decide
  have notBody : Text.sameIgnoringCase "Header" "body" = false := by decide
  have isBody : Text.sameIgnoringCase "Body" "body" = true := by decide
  simp [bodyValue, isEnvelope, find?, Node.elements, notBody, isBody, childValues, collect,
    addMember, Table.get?, Table.put, Table.place, contentValue]

/-- **A value that has a form in XML comes back from its envelope** under the name of its
operation. -/
theorem decode_encode {v : Value} (single : v.isList = false) (form : HasForm v)
    (operation : String) :
    decode (encode v operation) = .obj [(elementName operation, v)] := by
  obtain ⟨children, written, named, content⟩ := exists_content single form operation
  have alone : Named [ofValue operation v] := by
    rw [written, Named]
    exact ⟨isName_elementName operation, named, by rw [Named]; trivial⟩
  have settled : settle [] [ofValue operation v] =
      [.element (elementName operation) (settle [] children)] := by
    rw [written, settle, flush_nil, settle_nil]
  rw [decode, read?_envelope alone (toList_encode v operation), settled]
  simp only [bodyValue_envelope, content]

/-- **Values with a form in XML come back**, from a document under any root and from the envelope
of any operation. -/
theorem value_comes_back {v : Value} (single : v.isList = false) (form : HasForm v)
    (name : String) :
    Xml.decode (Xml.encode v name) = v ∧
      decode (encode v name) = .obj [(elementName name, v)] :=
  ⟨Xml.decode_encode single form name, decode_encode single form name⟩

/-- A policy with a list of objects, a list of nulls, and texts that look like markup and almost
like a number. -/
def policy : Value :=
  .obj [
    ("drivers", .list [
      .obj [("age", .num (.int 30 (by decide))), ("name", .str "Ann & <Bo>")],
      .obj [("age", .null), ("name", .str "]]>")]]),
    ("insured", .bool true),
    ("notes", .list [.null, .null]),
    ("policy.no", .str "007")]

theorem policy_comes_back :
    HasForm policy ∧ Xml.decode (Xml.encode policy "Rate request") = policy ∧
      decode (encode policy "Rate request") = .obj [("Rate_request", policy)] := by
  have form : HasForm policy := by decide
  have named : elementName "Rate request" = "Rate_request" := by decide
  have back := value_comes_back rfl form "Rate request"
  rw [named] at back
  exact ⟨form, back⟩

end Interchange.Soap
