import Interchange.Pipeline.Report
import Interchange.Text.Blank
import Interchange.Text.Case
/-!
# Masking secrets

What is printed shows no credentials.  A value under a key whose name speaks of a credential is
replaced as a whole; inside of any other text, what follows a word for a credential is replaced,
together with the signs between them.  Three kinds of words are looked for one after the other.

* `Masking.isSensitiveKey` — whether a key names a credential.
* `Masking.maskText` — a text without credentials.
* `Value.masked`, `RunReport.masked`, `MappingReport.masked` — values and reports without them.
-/

namespace Interchange

namespace Masking

/-- What stands for a secret. -/
def stars : String := "***"

/-- The parts of a key that speak of a credential. -/
def sensitiveParts : List String :=
  ["key", "token", "password", "passwd", "secret", "credential", "auth"]

/-- Whether a key names a credential, in whatever case. -/
def isSensitiveKey (key : String) : Bool :=
  let small := Text.lower key
  sensitiveParts.any fun part => Text.contains small part

/-- A kind of credential inside of a text: the words that announce it, the characters it is made of
and the least number of them. -/
structure Pattern where
  words : List (List Char)
  isSecret : Char → Bool
  least : Nat

/-- Whether a character is a letter in either case; two letters beyond ASCII fold to one of it. -/
def sameLetter (c letter : Char) : Bool :=
  c.toLower = letter || (letter = 's' && c.toNat = 0x17F) || (letter = 'k' && c.toNat = 0x212A)

/-- Whether a character is a letter or a digit of ASCII, or folds to one. -/
def isFoldedAlphanum (c : Char) : Bool := c.isAlphanum || c.toNat = 0x17F || c.toNat = 0x212A

/-- The signs between a word and its secret. -/
def isSeparator (c : Char) : Bool := c = '=' || c = ':' || Text.isBlank c

def isQuote (c : Char) : Bool := c = '\'' || c = '"'

/-- Keys of interfaces. -/
def apiKey : Pattern where
  words := ["api_key".toList, "api-key".toList, "apikey".toList, "secret".toList]
  isSecret c := isFoldedAlphanum c || c = '_' || c = '-'
  least := 10

/-- Tokens of sessions. -/
def token : Pattern where
  words := ["token".toList, "bearer".toList, "basic".toList]
  isSecret c := isFoldedAlphanum c || "_.+/=-".toList.contains c
  least := 10

/-- Passwords. -/
def password : Pattern where
  words := ["password".toList, "passwd".toList, "pwd".toList]
  isSecret c := !Text.isBlank c && !isQuote c
  least := 3

/-- What follows a word at the beginning of a text, with the word as it is written there. -/
def afterWord? : (word cs : List Char) → Option (List Char × List Char)
  | [], cs => some ([], cs)
  | _ :: _, [] => none
  | letter :: word, c :: cs =>
    if sameLetter c letter then (afterWord? word cs).map fun (w, rest) => (c :: w, rest) else none

/-- What follows one quote, if there is one. -/
def dropQuote : List Char → List Char
  | [] => []
  | c :: cs => if isQuote c then cs else c :: cs

namespace Pattern

/-- What follows a secret, which may stand in quotes. -/
def afterSecret? (p : Pattern) (cs : List Char) : Option (List Char) :=
  let cs := dropQuote cs
  if (cs.takeWhile p.isSecret).length < p.least then none
  else some (dropQuote (cs.dropWhile p.isSecret))

/-- What follows some signs and a secret.  As many signs as possible stand before the secret, but
at least one does. -/
def afterSigns? (p : Pattern) : (signs : Nat) → List Char → Option (List Char)
  | 0, _ => none
  | signs + 1, cs =>
    match p.afterSecret? (cs.drop (signs + 1)) with
    | some rest => some rest
    | none => afterSigns? p signs cs

/-- The word at the beginning of a text that announces a secret, and what follows the secret. -/
def match? (p : Pattern) (cs : List Char) : Option (List Char × List Char) :=
  p.words.findSome? fun word =>
    match afterWord? word cs with
    | none => none
    | some (written, rest) =>
      (p.afterSigns? (rest.takeWhile isSeparator).length rest).map fun rest => (written, rest)

/-- A text with its secrets of one kind masked; `skip` characters belong to a secret that was
found before. -/
def mask (p : Pattern) : (skip : Nat) → List Char → List Char
  | _, [] => []
  | skip + 1, _ :: cs => mask p skip cs
  | 0, c :: cs =>
    match p.match? (c :: cs) with
    | some (word, rest) => word ++ '=' :: stars.toList ++ mask p (cs.length - rest.length) cs
    | none => c :: mask p 0 cs

end Pattern

/-- A text with its secrets masked. -/
def maskText (s : String) : String :=
  String.ofList (password.mask 0 (token.mask 0 (apiKey.mask 0 s.toList)))

end Masking

open Masking

mutual

/-- A value with its secrets masked. -/
def Value.masked : Value → Value
  | .str s => .str (maskText s)
  | .list items => .list (Value.maskedItems items)
  | .obj members => .obj (Value.maskedMembers members)
  | v => v

/-- The items of a list, each masked. -/
def Value.maskedItems : List Value → List Value
  | [] => []
  | v :: vs => Value.masked v :: Value.maskedItems vs

/-- The members of an object; what stands under a sensitive key is replaced unless it is null. -/
def Value.maskedMembers : List (String × Value) → List (String × Value)
  | [] => []
  | (k, v) :: ms =>
    (k, if isSensitiveKey k && !v.isNull then .str stars else Value.masked v) ::
      Value.maskedMembers ms

end

/-- The report on a step with its secrets masked. -/
def StepReport.masked (r : StepReport) : StepReport := { r with details := r.details.masked }

/-- The report on a run with its secrets masked. -/
def RunReport.masked (r : RunReport) : RunReport :=
  { r with
    input := r.input.masked
    output := r.output.masked
    steps := r.steps.map StepReport.masked }

/-- The last name of a path. -/
def Masking.leafName (path : String) : String := (Text.split '.' path).getLast?.getD path

/-- The report on a field; where its target is named like a credential, so are its values. -/
def FieldReport.masked (r : FieldReport) : FieldReport :=
  if isSensitiveKey (leafName r.targetPath) then
    { r with
      source := r.source.map fun _ => .str stars
      output := r.output.map fun _ => .str stars }
  else r

/-- The report on a mapping with its secrets masked. -/
def MappingReport.masked (r : MappingReport) : MappingReport :=
  { r with output := r.output.masked, fields := r.fields.map FieldReport.masked }

end Interchange
