import GameFleet.Net.Url
import GameFleet.Store.Failure
import GameFleet.Text.Quoted

/-!
# Connection strings

The database is named by a web address of its own scheme. User, password, name of the database and
the options in the query are percent-encoded.

- `Store.Connection.Fault`: what is wrong with the address of a database.
- `Store.Connection.fault?`: the first fault. The parts count in the order in which they are
  written, and the options after them.
- `Store.Connection.refusal?`: why no connection can be opened for a string. It has to be an
  address, its scheme has to be one of this database, and it has to be without fault.
-/

namespace GameFleet.Store.Connection

/-- What is wrong with the address of a database. -/
inductive Fault where
  /-- A part is no text. -/
  | text (f : Utf8.Fault)
  /-- An option is no number, or one that is too great. -/
  | number (f : Text.NaturalFault)
  /-- An option is no address of a host. -/
  | address
  /-- An option is no way of keeping the connection secret. -/
  | secrecy (value : String)
  deriving DecidableEq, Repr

namespace Fault

/-- What is wrong with bytes that are no text. -/
def textMessage : Utf8.Fault → String
  | .stray length index =>
    "invalid utf-8 sequence of " ++ Text.natText length ++ " bytes from index "
      ++ Text.natText index
  | .cut index => "incomplete utf-8 byte sequence from index " ++ Text.natText index

/-- What is wrong with a text that is no number. -/
def numberMessage : Text.NaturalFault → String
  | .empty => "cannot parse integer from empty string"
  | .digit => "invalid digit found in string"
  | .bound => "number too large to fit in target type"

/-- What a fault that concerns the options begins with. -/
def title : String := "error with configuration: "

/-- What is wrong, as text. -/
def message (f : Fault) : String :=
  title ++ match f with
  | text f => textMessage f
  | number f => numberMessage f
  | address => "invalid IP address syntax"
  | secrecy value => title ++ "unknown value " ++ Text.quoted value ++ " for \x60ssl_mode\x60"

end Fault

/-- The fault of a part that is percent-encoded. -/
def textFault? (part : List Char) : Option Fault :=
  (Utf8.fault? (Text.percentBytes part)).map .text

/-- The fault of a host. One whose name begins with a slash is a file, and its name a text. -/
def hostFault? : Option Host → Option Fault
  | some (.name text) =>
    if (Text.percentBytes text).head? = some '/'.toUInt8 then textFault? text else none
  | _ => none

/-- The ways of keeping a connection secret. -/
def secrecies : List String := ["disable", "allow", "prefer", "require", "verify-ca", "verify-full"]

/-- The fault of an option. -/
def optionFault? (name value : String) : Option Fault :=
  match name with
  | "sslmode" | "ssl-mode" =>
    if secrecies.contains value.toLower then none else some (.secrecy value)
  | "statement-cache-capacity" => (Text.naturalFault? Text.maxWord64 value.toList).map .number
  | "hostaddr" => if (IpAddress.read? value.toList).isSome then none else some .address
  | "port" => (Text.naturalFault? Text.maxWord16 value.toList).map .number
  | _ => none

/-- The first fault of the address of a database. -/
def fault? (u : Url) : Option Fault :=
  let parts := [hostFault? u.host, textFault? u.userName, u.password.bind textFault?,
    textFault? (u.path.dropWhile (· = '/'))]
  (parts ++ u.pairs.map fun (name, value) => optionFault? name value).findSome? id

/-- The schemes of the database. -/
def schemes : List String := ["postgres", "postgresql"]

/-- Why no connection can be opened, if the string itself tells. -/
def refusal? (text : String) : Option Failure :=
  let refused (why : String) : Failure :=
    .connection ("The connection string '" ++ text ++ "' " ++ why)
  match Url.read? text with
  | none => some (refused "cannot be parsed.")
  | some u =>
    if schemes.contains u.scheme then (fault? u).map fun f => .connection f.message
    else some (refused "has no supporting driver.")

end GameFleet.Store.Connection
