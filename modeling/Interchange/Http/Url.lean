import Interchange.Number.Numeral
import Interchange.Text.Blank
import Interchange.Text.Case
import Interchange.Text.Pieces
/-!
# URLs

The URL Standard, as far as absolute URLs of systems need it: the text of a URL is taken apart and
put together again in its normal form, with the scheme and the host in lower case, the default port
left out, dot segments resolved, and the characters that do not fit percent-encoded.

Hosts are domains, IPv4 addresses in any of their spellings, or IPv6 addresses.  A domain beyond
ASCII is written in Punycode, label by label, after its letters were made small.

* `Url.parse` — the scheme and the normal form of an absolute URL.
-/

namespace Interchange.Url

/-- Why a text is no URL. -/
inductive Fault
  | relative
  | emptyHost
  | badDomain
  /-- A host that is taken as it is has a character that no host has. -/
  | badHost
  | badPort
  | badIpv4
  | badIpv6
deriving DecidableEq

/-- The wording of a fault. -/
def Fault.message : Fault → String
  | .relative => "relative URL without a base"
  | .emptyHost => "empty host"
  | .badDomain => "invalid international domain name"
  | .badHost => "invalid domain character"
  | .badPort => "invalid port number"
  | .badIpv4 => "invalid IPv4 address"
  | .badIpv6 => "invalid IPv6 address"

/-! ### Percent-encoding -/

/-- The characters that are encoded everywhere. -/
def isControl (c : Char) : Bool := c.toNat < 0x20 || 0x7F ≤ c.toNat

def inFragmentSet (c : Char) : Bool := isControl c || " \"<>`".toList.contains c

def inPathSet (c : Char) : Bool := inFragmentSet c || "#?\x7b\x7d".toList.contains c

def inUserinfoSet (c : Char) : Bool := inPathSet c || "/:;=@[\\]^|".toList.contains c

def inQuerySet (special : Bool) (c : Char) : Bool :=
  isControl c || " \"#<>".toList.contains c || (special && c = '\'')

/-- A byte as a percent sign and two digits. -/
def percentByte (b : UInt8) : List Char :=
  let digit (n : Nat) : Char := (Nat.digitChar n).toUpper
  ['%', digit (b.toNat / 16), digit (b.toNat % 16)]

/-- Encodes the characters of a set. -/
def encode (p : Char → Bool) (cs : List Char) : List Char :=
  cs.flatMap fun c =>
    if p c then (String.singleton c).toUTF8.toList.flatMap percentByte else [c]

/-- The value of a hexadecimal digit. -/
def hexValue? (c : Char) : Option Nat :=
  if c.isDigit then some (c.toNat - '0'.toNat)
  else if 'a' ≤ c && c ≤ 'f' then some (c.toNat - 'a'.toNat + 10)
  else if 'A' ≤ c && c ≤ 'F' then some (c.toNat - 'A'.toNat + 10)
  else none

/-- The bytes of a text with its percent-encoding undone. -/
def decodeBytes : List Char → List UInt8
  | '%' :: a :: b :: cs =>
    match hexValue? a, hexValue? b with
    | some x, some y => UInt8.ofNat (16 * x + y) :: decodeBytes cs
    | _, _ => '%'.toNat.toUInt8 :: decodeBytes (a :: b :: cs)
  | c :: cs => (String.singleton c).toUTF8.toList ++ decodeBytes cs
  | [] => []

/-- The text with its percent-encoding undone, if it is a text then. -/
def decode? (cs : List Char) : Option String :=
  String.fromUTF8? ⟨(decodeBytes cs).toArray⟩

/-! ### Domains -/

/-- The bias of Punycode after a delta. -/
def adapt (delta points : Nat) (first : Bool) : Nat :=
  let delta := if first then delta / 700 else delta / 2
  let delta := delta + delta / points
  go delta 0 delta
where
  go (delta k : Nat) : (fuel : Nat) → Nat
    | 0 => k + 36 * delta / (delta + 38)
    | fuel + 1 => if delta > 455 then go (delta / 35) (k + 36) fuel else k + 36 * delta / (delta + 38)

/-- A digit of Punycode. -/
def punyDigit (n : Nat) : Char :=
  if n < 26 then Char.ofNat ('a'.toNat + n) else Char.ofNat ('0'.toNat + (n - 26))

/-- The digits of a delta. -/
def punyDigits (bias : Nat) : (fuel q k : Nat) → List Char
  | 0, _, _ => []
  | fuel + 1, q, k =>
    let t := if k ≤ bias then 1 else if bias + 26 ≤ k then 26 else k - bias
    if q < t then [punyDigit q]
    else punyDigit (t + (q - t) % (36 - t)) :: punyDigits bias fuel ((q - t) / (36 - t)) (k + 36)

/-- The state of the Punycode encoder. -/
structure PunyState where
  delta : Nat
  bias : Nat
  handled : Nat
  first : Bool
  out : List Char

/-- Handles one character of the label while the code point `n` is inserted. -/
def punyStep (n : Nat) (s : PunyState) (c : Char) : PunyState :=
  if c.toNat < n then { s with delta := s.delta + 1 }
  else if c.toNat = n then
    { delta := 0
      bias := adapt s.delta (s.handled + 1) s.first
      handled := s.handled + 1
      first := false
      out := s.out ++ punyDigits s.bias 64 s.delta 36 }
  else s

/-- A label in Punycode: its ASCII characters, and then what is to be inserted where, in ascending
order of code points. -/
def punycode (label : List Char) : List Char :=
  let basic := label.filter fun c => c.toNat < 128
  let others := ((label.filter fun c => 128 ≤ c.toNat).map Char.toNat).eraseDups.mergeSort (· ≤ ·)
  let start : PunyState :=
    ⟨0, 72, basic.length, true, basic ++ (if basic.isEmpty then [] else ['-'])⟩
  let (last, _) := others.foldl
    (fun (s, n) m =>
      let s := { s with delta := s.delta + (m - n) * (s.handled + 1) }
      let s := label.foldl (punyStep m) s
      ({ s with delta := s.delta + 1 }, m + 1))
    (start, 128)
  last.out

/-- The characters that no domain has. -/
def isForbidden (c : Char) : Bool :=
  c.toNat ≤ 0x20 || c.toNat = 0x7F || "#/:<>?@[\\]^|%".toList.contains c

/-- The ASCII form of a domain. -/
def domain? (s : String) : Option String :=
  let labels := (Text.splitAt '.' (Text.lower s).toList).map fun label =>
    if label.all fun c => c.toNat < 128 then label else "xn--".toList ++ punycode label
  let ascii := List.intercalate ['.'] labels
  if ascii.isEmpty || ascii.any isForbidden then none else some (String.ofList ascii)

/-! ### Addresses -/

/-- A part of an IPv4 address, in octal, decimal or hexadecimal; the answer is nothing for a part
that is no number. -/
def ipv4Part? (part : List Char) : Option Nat :=
  let digits (base : Nat) (ds : List Char) : Option Nat :=
    ds.foldl (fun n? c => n?.bind fun n =>
      ((hexValue? c).filter (· < base)).map (base * n + ·)) (some 0)
  match part with
  | [] => none
  | '0' :: 'x' :: ds | '0' :: 'X' :: ds => digits 16 ds
  | '0' :: d :: ds => digits 8 (d :: ds)
  | ds => digits 10 ds

/-- The labels of a domain, without an empty last one. -/
def labels (s : String) : List (List Char) :=
  let parts := Text.splitAt '.' s.toList
  if parts.getLast? = some [] && parts.length > 1 then parts.dropLast else parts

/-- Whether the last label of a domain is a number, so that the domain is an IPv4 address. -/
def endsInNumber (s : String) : Bool :=
  match (labels s).getLast? with
  | none => false
  | some [] => false
  | some l =>
    l.all Char.isDigit ||
      (match l with
        | '0' :: 'x' :: ds | '0' :: 'X' :: ds => ds.all fun c => (hexValue? c).isSome
        | _ => false)

/-- The IPv4 address of a domain. -/
def ipv4? (s : String) : Option Nat := do
  let parts := labels s
  if parts.length > 4 then none
  else
    let numbers ← parts.mapM ipv4Part?
    let last ← numbers.getLast?
    let lead := numbers.dropLast
    if lead.any (· > 255) || Nat.pow 256 (4 - lead.length) ≤ last then none
    else
      let high := (lead.zipIdx.map fun (n, i) => n * Nat.pow 256 (3 - i)).foldl (· + ·) 0
      return high + last

/-- The normal form of an IPv4 address. -/
def ipv4Text (n : Nat) : String :=
  Text.join "." ([n / 0x1000000, n / 0x10000 % 256, n / 0x100 % 256, n % 256].map toString)

/-- A group of an IPv6 address: one to four hexadecimal digits. -/
def group? (cs : List Char) : Option Nat :=
  if cs.isEmpty || cs.length > 4 then none
  else cs.foldl (fun n? c => n?.bind fun n => (hexValue? c).map (16 * n + ·)) (some 0)

/-- A decimal byte without a needless zero. -/
def byte? (cs : List Char) : Option Nat :=
  if cs.isEmpty || cs.length > 3 || !cs.all Char.isDigit || (cs.head? = some '0' && cs.length > 1)
  then none
  else (some (Numeral.ofDigits cs)).filter (· ≤ 255)

/-- The groups of one side of an IPv6 address, the last of which may be an IPv4 address. -/
def groups? (cs : List Char) : Option (List Nat) :=
  if cs.isEmpty then some []
  else
    let parts := Text.splitAt ':' cs
    let heads := parts.dropLast
    match parts.getLast? with
    | none => some []
    | some last => do
      let front ← heads.mapM group?
      if last.contains '.' then
        match ← (Text.splitAt '.' last).mapM byte? with
        | [a, b, c, d] => return front ++ [256 * a + b, 256 * c + d]
        | _ => none
      else return front ++ [← group? last]

/-- Splits at the first pair of colons. -/
def splitDouble : (seen cs : List Char) → Option (List Char × List Char)
  | seen, ':' :: ':' :: cs => some (seen.reverse, cs)
  | seen, c :: cs => splitDouble (c :: seen) cs
  | _, [] => none

/-- The eight groups of an IPv6 address. -/
def ipv6? (cs : List Char) : Option (List Nat) :=
  match splitDouble [] cs with
  | none => (groups? cs).filter fun gs => gs.length = 8
  | some (left, right) => do
    let front ← groups? left
    let back ← groups? right
    if left.contains '.' || front.length + back.length > 7 then none
    else return front ++ List.replicate (8 - front.length - back.length) 0 ++ back

/-- The first longest run of zeros among groups, as its place and length. -/
def longestZeros (gs : List Nat) : Nat × Nat :=
  ((List.range gs.length).map fun i => (i, ((gs.drop i).takeWhile (· = 0)).length)).foldl
    (fun best run => if best.2 < run.2 then run else best) (0, 0)

/-- The normal form of an IPv6 address: the first longest run of at least two zeros is left out. -/
def ipv6Text (gs : List Nat) : String :=
  let hex (n : Nat) : String := String.ofList (Nat.toDigits 16 n)
  let (i, n) := longestZeros gs
  if n < 2 then Text.join ":" (gs.map hex)
  else Text.join ":" ((gs.take i).map hex) ++ "::" ++ Text.join ":" ((gs.drop (i + n)).map hex)

/-- The normal form of a host. -/
def host (cs : List Char) : Except Fault String :=
  match cs with
  | [] => .error .emptyHost
  | '[' :: inner =>
    if inner.getLast? = some ']' then
      match ipv6? inner.dropLast with
      | some gs => .ok ("[" ++ ipv6Text gs ++ "]")
      | none => .error .badIpv6
    else .error .badIpv6
  | cs =>
    match (decode? cs).bind domain? with
    | none => .error .badDomain
    | some d =>
      if endsInNumber d then
        match ipv4? d with
        | some n => .ok (ipv4Text n)
        | none => .error .badIpv4
      else .ok d

/-! ### The parts of a URL -/

/-- The port that a scheme has without saying so. -/
def defaultPort? : String → Option Nat
  | "http" | "ws" => some 80
  | "https" | "wss" => some 443
  | "ftp" => some 21
  | _ => none

/-- Whether a scheme has hosts and paths of the usual form. -/
def isSpecial (scheme : String) : Bool := (defaultPort? scheme).isSome

/-- What ends the authority. -/
def endsAuthority (c : Char) : Bool := c = '/' || c = '\\' || c = '?' || c = '#'

/-- Splits a text at the last of some character. -/
def splitLast (sep : Char) (cs : List Char) : Option (List Char × List Char) :=
  match Text.splitAt sep cs with
  | [_] | [] => none
  | pieces => (pieces.getLast?).map fun last => (List.intercalate [sep] pieces.dropLast, last)

/-- The normal form of a user name and password. -/
def userinfo (cs : List Char) : String :=
  let name := cs.takeWhile (· ≠ ':')
  let password := cs.drop (name.length + 1)
  let shown := encode inUserinfoSet name ++
    (if password.isEmpty then [] else ':' :: encode inUserinfoSet password)
  if shown.isEmpty then "" else String.ofList shown ++ "@"

/-- Splits the host from the port; a colon in brackets is part of the host. -/
def splitPort (cs : List Char) : List Char × Option (List Char) :=
  go false [] cs
where
  go (inside : Bool) (seen : List Char) : List Char → List Char × Option (List Char)
    | [] => (seen.reverse, none)
    | c :: cs =>
      if c = ':' && !inside then (seen.reverse, some cs)
      else go (if c = '[' then true else if c = ']' then false else inside) (c :: seen) cs

/-- The normal form of a port. -/
def port (scheme : String) (cs : List Char) : Except Fault String :=
  if !cs.all Char.isDigit then .error .badPort
  else
    let n := Numeral.ofDigits cs
    if n > 65535 then .error .badPort
    else if cs.isEmpty || defaultPort? scheme = some n then .ok ""
    else .ok s!":{n}"

/-- Whether a segment stands for its own place, and whether it stands for the place above. -/
def dots (segment : List Char) : Bool × Bool :=
  let plain := Text.replace "%2e" "." (String.ofList (segment.map Char.toLower))
  (plain = ".", plain = "..")

/-- Resolves the dot segments of a path; `done` holds the segments so far, last first. -/
def resolveDots : (done segments : List (List Char)) → List (List Char)
  | done, [] => done.reverse
  | done, s :: rest =>
    match dots s with
    | (_, true) => resolveDots (if rest.isEmpty then [] :: done.drop 1 else done.drop 1) rest
    | (true, _) => resolveDots (if rest.isEmpty then [] :: done else done) rest
    | _ => resolveDots (encode inPathSet s :: done) rest

/-- The normal form of a path. -/
def path (cs : List Char) : String :=
  let cs := cs.map fun c => if c = '\\' then '/' else c
  let cs := match cs with
    | '/' :: rest => rest
    | cs => cs
  String.ofList ('/' :: List.intercalate ['/'] (resolveDots [] (Text.splitAt '/' cs)))

/-- The normal form of what follows the path. -/
def queryAndFragment (cs : List Char) : String :=
  match cs with
  | '?' :: rest =>
    let query := rest.takeWhile (· ≠ '#')
    String.ofList ('?' :: encode (inQuerySet true) query) ++ fragment (rest.drop query.length)
  | cs => fragment cs
where
  fragment : List Char → String
    | '#' :: rest => String.ofList ('#' :: encode inFragmentSet rest)
    | _ => ""

/-- The scheme of a URL, and what follows its colon. -/
def scheme? (cs : List Char) : Option (String × List Char) :=
  let isSchemeChar (c : Char) : Bool := c.isAlphanum || c = '+' || c = '-' || c = '.'
  let name := cs.takeWhile isSchemeChar
  match name, cs.drop name.length with
  | c :: _, ':' :: rest =>
    if c.isAlpha then some (String.ofList (name.map Char.toLower), rest) else none
  | _, _ => none

/-- The normal form of what follows the colon of a special scheme. -/
def special (scheme : String) (cs : List Char) : Except Fault String := do
  let cs := cs.dropWhile fun c => c = '/' || c = '\\'
  let authority := cs.takeWhile fun c => !endsAuthority c
  let rest := cs.drop authority.length
  let (user, hostPort) := (splitLast '@' authority).getD ([], authority)
  let (hostPart, portPart) := splitPort hostPort
  let h ← host hostPart
  let p ← (portPart.map (port scheme)).getD (.ok "")
  let pathPart := rest.takeWhile fun c => c ≠ '?' && c ≠ '#'
  return scheme ++ "://" ++ userinfo user ++ h ++ p ++ path pathPart ++
    queryAndFragment (rest.drop pathPart.length)

/-- The characters that no host has, even where it is taken as it is. -/
def isForbiddenOpaque (c : Char) : Bool := c.toNat = 0 || " #/:<>?@[\\]^|".toList.contains c

/-- Looks at a host that is taken as it is. -/
def checkOpaqueHost (cs : List Char) : Except Fault Unit :=
  if cs.head? = some '[' then (host cs).map fun _ => ()
  else if cs.any isForbiddenOpaque then .error .badHost
  else .ok ()

/-- Looks at what follows the two slashes of a scheme that is not special. -/
def checkAuthority (scheme : String) (cs : List Char) : Except Fault Unit := do
  let authority := cs.takeWhile fun c => c ≠ '/' && c ≠ '?' && c ≠ '#'
  let (user, hostPort) := (splitLast '@' authority).getD ([], authority)
  let (hostPart, portPart) := splitPort hostPort
  checkOpaqueHost hostPart
  if hostPart.isEmpty && (portPart.isSome || !user.isEmpty) then .error .emptyHost
  let _ ← (portPart.map (port scheme)).getD (.ok "")

/-- Whether a text is the name of a drive, which is no host. -/
def isDrive : List Char → Bool
  | [letter, c] => letter.isAlpha && (c = ':' || c = '|')
  | _ => false

/-- Looks at the host of a file, if it has one. -/
def checkFileHost (cs : List Char) : Except Fault Unit :=
  let name := cs.takeWhile fun c => !endsAuthority c
  if name.isEmpty || isDrive name then .ok () else (host name).map fun _ => ()

/-- Looks at what follows the colon of a scheme that is not special. -/
def checkOther (scheme : String) (cs : List Char) : Except Fault Unit :=
  if scheme = "file" then
    match cs.map fun c => if c = '\\' then '/' else c with
    | '/' :: '/' :: _ => checkFileHost (cs.drop 2)
    | _ => .ok ()
  else
    match cs with
    | '/' :: '/' :: rest => checkAuthority scheme rest
    | _ => .ok ()

/-- The scheme and the normal form of a URL.  With a scheme that is not special the text is only
looked at and stays as it is. -/
def parse (s : String) : Except Fault (String × String) :=
  let trimmed := Text.trimWhere (fun c => c.toNat ≤ 0x20) s.toList
  let cs := trimmed.filter fun c => c ≠ '\t' && c ≠ '\n' && c ≠ '\r'
  match scheme? cs with
  | none => .error .relative
  | some (scheme, rest) =>
    if isSpecial scheme then (special scheme rest).map fun url => (scheme, url)
    else (checkOther scheme rest).map fun () => (scheme, String.ofList cs)

end Interchange.Url
