import GameFleet.Net.Host

/-!
# Web addresses

- `Url`: a scheme, a user, a host and a port, a path and a query. What follows a number sign is no
  part of it.
- `Url.read?`: the address that a text writes. Schemes of the web need a host, and backslashes count
  as slashes there. Segments of dots are resolved, and characters that may not stand in a path or a
  query are percent-encoded.
- `Url.requested`: what the host is asked for: the path, and the query behind a question mark.
- `Url.pairs`: the names and values of a query.
-/

namespace GameFleet

/-- A web address. -/
structure Url where
  /-- The scheme in small letters. -/
  scheme : String
  userName : List Char := []
  password : Option (List Char) := none
  host : Option Host := none
  port : Option Nat := none
  path : List Char := []
  query : Option (List Char) := none
  deriving DecidableEq, Repr

namespace Url

/-! ### Schemes -/

/-- What a scheme asks of what follows it. -/
inductive Family where
  /-- A host is needed. -/
  | web
  /-- A host may be named. There is no user and no port. -/
  | file
  | other
  deriving DecidableEq, Repr

/-- The schemes of the web. -/
def webSchemes : List String := ["http", "https", "ws", "wss", "ftp"]

/-- The family of a scheme. -/
def familyOf (scheme : String) : Family :=
  if webSchemes.contains scheme then .web else if scheme = "file" then .file else .other

/-- The port of a scheme when none is written. -/
def defaultPort? (scheme : String) : Option Nat :=
  [("http", 80), ("https", 443), ("ws", 80), ("wss", 443), ("ftp", 21)].lookup scheme

/-- Whether a character may stand in the name of a scheme after its first letter. -/
def isSchemeChar (c : Char) : Bool := c.isAlphanum || c = '+' || c = '-' || c = '.'

/-- Whether a character at either end of an address is passed over. -/
def isPassedOver (c : Char) : Bool := c.toNat ≤ 0x20

/-- A text without what is passed over. -/
def stripped (text : List Char) : List Char :=
  let cs := ((text.dropWhile isPassedOver).reverse.dropWhile isPassedOver).reverse
  cs.filter fun c => c ≠ '\t' ∧ c ≠ '\n' ∧ c ≠ '\r'

/-- The scheme in small letters, and what follows its colon. -/
def scheme? (cs : List Char) : Option (String × List Char) :=
  let name := cs.takeWhile isSchemeChar
  match cs.drop name.length with
  | ':' :: rest =>
    if (name.head?.map Char.isAlpha).getD false then
      some (String.ofList (name.map Char.toLower), rest)
    else none
  | _ => none

/-! ### Paths and queries -/

/-- Whether a character stands for itself among those that are not of a reserved set. -/
def isPlain (reserved : List Char) (c : Char) : Bool :=
  0x20 < c.toNat && c.toNat < 0x7F && !reserved.contains c

/-- Characters that do not stand for themselves in a path. -/
def pathReserved : List Char := ['"', '#', '<', '>', '?', '\x60', '\x7b', '\x7d']

/-- Characters that do not stand for themselves in a query. -/
def queryReserved (family : Family) : List Char :=
  let reserved := ['"', '#', '<', '>']
  if family = .other then reserved else '\'' :: reserved

/-- How many levels a segment of dots goes up, if it is one. -/
def dots? (segment : List Char) : Option Nat :=
  let s := (String.ofList segment).toLower
  if s = "." ∨ s = "%2e" then some 0
  else if s = ".." ∨ s = ".%2e" ∨ s = "%2e." ∨ s = "%2e%2e" then some 1
  else none

/-- Whether a segment names a drive. -/
def isDrive (segment : List Char) : Bool :=
  match segment with
  | letter :: mark :: rest =>
    letter.isAlpha && (mark = ':' || mark = '|') && (rest.isEmpty || rest.head? = some '\\')
  | _ => false

/-- The segments without the last, in reverse. A drive is not left. -/
def above (before : List (List Char)) : List (List Char) :=
  match before with
  | last :: rest => if isDrive last then before else rest
  | [] => []

/-- The segments without those of dots; the ones before are in reverse. A path that ends in dots
ends in a slash. -/
def resolved (before : List (List Char)) : List (List Char) → List (List Char)
  | [] => before.reverse
  | segment :: rest =>
    match dots? segment with
    | none => resolved (segment :: before) rest
    | some up =>
      let before := if up = 0 then before else above before
      if rest.isEmpty then ([] :: before).reverse else resolved before rest

/-- A path of segments, each behind a slash. -/
def pathOf (cs : List Char) : List Char :=
  (resolved [] (Text.splitAtChar '/' cs)).flatMap fun segment =>
    '/' :: Text.percentEncoded (isPlain pathReserved) segment

/-- The path behind a host. On the web there is always one. -/
def pathBehind (family : Family) (cs : List Char) : List Char :=
  let cs := if family = .other then cs else cs.map fun c => if c = '\\' then '/' else c
  match cs with
  | [] => if family = .other then [] else ['/']
  | '/' :: rest => pathOf rest
  | _ => pathOf cs

/-- What stands before a query, and the query. -/
def splitQuery (family : Family) (cs : List Char) : List Char × Option (List Char) :=
  let cs := cs.takeWhile (· ≠ '#')
  match Text.splitOnce '?' cs with
  | none => (cs, none)
  | some (path, query) =>
    (path, some (Text.percentEncoded (isPlain (queryReserved family)) query))

/-! ### Users, hosts and ports -/

/-- Whether a character ends what stands between the slashes. -/
def endsPlace (family : Family) (c : Char) : Bool :=
  c = '/' || c = '?' || c = '#' || (family ≠ .other && c = '\\')

/-- The name and the password of a user. A password that is empty is none. -/
def userOf (cs : List Char) : List Char × Option (List Char) :=
  match Text.splitOnce ':' cs with
  | none => (cs, none)
  | some (name, password) => (name, if password.isEmpty then none else some password)

/-- What stands before the colon that divides a host from its port, and what follows it. A colon in
brackets divides nothing. -/
def splitPort (bracketed : Bool) : List Char → List Char × Option (List Char)
  | [] => ([], none)
  | c :: cs =>
    if c = ':' ∧ !bracketed then ([], some cs)
    else
      let (host, port) := splitPort (if c = '[' then true else c ≠ ']' && bracketed) cs
      (c :: host, port)

/-- A port. It may be left out behind its colon. -/
def port? (scheme : String) (cs : List Char) : Option (Option Nat) :=
  if cs.isEmpty then some none
  else
    match Text.digitsValue? cs with
    | some n =>
      if Text.maxWord16 < n then none else some (if defaultPort? scheme = some n then none else n)
    | none => none

/-- An address with the host and the port that a text writes. -/
def withPlace? (u : Url) (family : Family) (cs : List Char) : Option Url := do
  let (hostText, portText) := splitPort false cs
  if hostText.isEmpty then
    -- A user or a port needs a host, and so does the web.
    if family = .web ∨ portText.isSome ∨ !u.userName.isEmpty ∨ u.password.isSome then none
    else some u
  else
    let host ← if family = .web then Host.ofWeb? hostText else Host.ofOther? hostText
    let port ← match portText with
      | some text => port? u.scheme text
      | none => some none
    return { u with host := some host, port }

/-- A host and a port, and what follows the digits of the port when it begins with a backslash.
Outside the web a path may begin so. -/
def splitBehindPort (place : List Char) : List Char × List Char :=
  let (_, portText) := splitPort false place
  let behind := (portText.getD []).dropWhile Char.isDigit
  if behind.head? = some '\\' then (place.take (place.length - behind.length), behind)
  else (place, [])

/-- An address whose user, host and port stand before its path. -/
def withAuthority? (scheme : String) (family : Family) (cs : List Char) : Option Url := do
  let authority := cs.takeWhile (!endsPlace family ·)
  let rest := cs.drop authority.length
  -- A lone sign of a user is passed over at the very end only.
  if authority = ['@'] ∧ !rest.isEmpty then none
  else
    let (user, place) := (Text.splitLast '@' authority).getD ([], authority)
    let (userName, password) := userOf user
    let (place, behind) := splitBehindPort place
    let u ← withPlace? { scheme, userName, password } family place
    let (path, query) := splitQuery family (behind ++ rest)
    return { u with path := pathBehind family path, query }

/-- Whether a host is written as a drive. -/
def isDriveName (cs : List Char) : Bool := cs.length = 2 && isDrive cs

/-- A file. Two slashes stand before the host; it may be empty, and a drive is none. -/
def file? (cs : List Char) : Option Url := do
  let isSlash (c : Char) : Bool := c = '/' || c = '\\'
  let ofPath (host : Option Host) (cs : List Char) : Url :=
    let (path, query) := splitQuery .file cs
    { scheme := "file", host, path := pathBehind .file path, query }
  match cs with
  | a :: b :: rest =>
    if isSlash a && isSlash b then
      let place := rest.takeWhile (!endsPlace .file ·)
      if place.isEmpty || isDriveName place then return ofPath none rest
      else return ofPath (some (← Host.ofWeb? place)) (rest.drop place.length)
    else return ofPath none cs
  | _ => return ofPath none cs

/-- The address that a text writes behind its scheme. -/
def ofScheme? (scheme : String) (cs : List Char) : Option Url :=
  match familyOf scheme with
  | .file => file? cs
  | .web => withAuthority? scheme .web (cs.dropWhile fun c => c = '/' || c = '\\')
  | .other =>
    match Text.after? ['/', '/'] cs with
    | some rest => withAuthority? scheme .other rest
    | none =>
      let (path, query) := splitQuery .other cs
      some { scheme, path := if path.head? = some '/' then pathOf path.tail else path, query }

/-- The address that a text writes. -/
def read? (text : String) : Option Url := do
  let (scheme, rest) ← scheme? (stripped text.toList)
  ofScheme? scheme rest

/-! ### What an address asks for -/

/-- What the host is asked for. -/
def requested (u : Url) : String :=
  String.ofList (u.path ++ ((u.query.map ('?' :: ·)).getD []))

/-- A name or a value of a query. A plus sign stands for a space. -/
def formText (cs : List Char) : String :=
  let spaced := cs.map fun c => if c = '+' then ' ' else c
  String.ofList (Utf8.decodeLossy (Text.percentBytes spaced))

/-- The names and values of a query. -/
def pairs (u : Url) : List (String × String) :=
  let pieces := (Text.splitAtChar '&' (u.query.getD [])).filter (!·.isEmpty)
  pieces.map fun piece =>
    let (name, value) := (Text.splitOnce '=' piece).getD (piece, [])
    (formText name, formText value)

end Url

end GameFleet
