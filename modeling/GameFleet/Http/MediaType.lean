import GameFleet.Text.Lines

/-!
# Media types

- `MediaType.isJson`: whether a content type says that a body is JSON: its media type is
  `application/json`, or it is an application's and ends in `+json`. Parameters may follow.
-/

namespace GameFleet.Http.MediaType

/-- Whether a character may stand in a name. -/
def isToken (c : Char) : Bool :=
  c.isAlphanum || ['!', '#', '$', '%', '&', '\'', '*', '+', '-', '.', '^', '_', '\x60', '|',
    '~'].contains c

/-- Whether a character may stand between quotation marks. -/
def isQuotable (c : Char) : Bool := 0x1F < c.toNat && c.toNat < 0x7F

/-- What follows the value of a parameter that stands between quotation marks: blanks, and then
nothing or a semicolon with further parameters. -/
def afterQuoted (cs : List Char) : Option (List Char) :=
  match cs.dropWhile (· = ' ') with
  | [] => some []
  | ';' :: rest => some rest
  | _ => none

/-- The rest behind a value of a parameter. -/
def afterValue (cs : List Char) : Option (List Char) :=
  match cs with
  | '"' :: cs =>
    match cs with
    | [] => none
    | c :: rest =>
      if !isQuotable c then none
      else
        match (c :: rest.takeWhile fun c => isQuotable c && c ≠ '"'),
          rest.dropWhile fun c => isQuotable c && c ≠ '"' with
        | _, '"' :: rest => afterQuoted rest
        | _, _ => none
  | cs =>
    match cs.takeWhile isToken, cs.dropWhile isToken with
    | _, [] => some []
    | [], _ => none
    | _, ';' :: rest => some rest
    | _, _ => none

/-- Whether a text is a row of parameters, as far as `fuel` goes; each takes at least one
character. -/
def areParameters : (fuel : Nat) → List Char → Bool
  | 0, cs => cs.isEmpty
  | fuel + 1, cs =>
    match cs.dropWhile (· = ' ') with
    | [] => true
    | cs =>
      match cs.takeWhile isToken, cs.dropWhile isToken with
      | _ :: _, '=' :: rest =>
        match afterValue rest with
        | some rest => areParameters fuel rest
        | none => false
      | _, _ => false

/-- The main and the subordinate name of a media type, both in small letters. -/
def names? (contentType : String) : Option (List Char × List Char) :=
  let cs := contentType.toList
  match cs.takeWhile isToken, cs.dropWhile isToken with
  | main@(_ :: _), '/' :: rest =>
    match rest.takeWhile isToken, rest.dropWhile isToken with
    | sub, [] => some (main.map Char.toLower, sub.map Char.toLower)
    | sub@(_ :: _), ';' :: parameters =>
      if areParameters parameters.length parameters then
        some (main.map Char.toLower, sub.map Char.toLower)
      else none
    | _, _ => none
  | _, _ => none

/-- A subordinate name before and behind its last plus sign. A plus sign that comes first
does not count. -/
def parts (sub : List Char) : List Char × Option (List Char) :=
  match Text.splitLast '+' sub with
  | some (c :: before, behind) => (c :: before, some behind)
  | _ => (sub, none)

/-- Whether a subordinate name is that of JSON, before or behind its last plus sign. -/
def isJsonName (sub : List Char) : Bool :=
  (parts sub).1 = "json".toList || (parts sub).2 = some "json".toList

/-- Whether a content type says that a body is JSON. -/
def isJson (contentType : String) : Bool :=
  match names? contentType with
  | some (main, sub) => main = "application".toList && isJsonName sub
  | none => false

end GameFleet.Http.MediaType
