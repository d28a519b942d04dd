import GameFleet.Net.IpAddress

/-!
# Socket addresses

- `SocketAddress`: an address and a port, and for the long form a scope.
- `SocketAddress.read?`: `1.2.3.4:80`, or `[::1]:80` with a scope behind a percent sign.
- `SocketAddress.text`: the form to show.
-/

namespace GameFleet

/-- An address of a host and a port on it. -/
structure SocketAddress where
  ip : IpAddress
  port : Nat
  /-- The scope of a long address; zero is none. -/
  scope : Nat := 0
  deriving DecidableEq, Repr

namespace SocketAddress

/-- A port behind a colon, and what follows. -/
def port? (cs : List Char) : Option (Nat × List Char) := do
  IpAddress.number? 10 Text.maxWord16 none true (← IpAddress.mark? ':' cs)

/-- A scope behind a percent sign, zero without one, and what follows. -/
def scopeOf (cs : List Char) : Nat × List Char :=
  ((IpAddress.mark? '%' cs).bind (IpAddress.number? 10 Text.maxWord32 none true)).getD (0, cs)

/-- The socket address with a four-byte address. -/
def shortForm? (cs : List Char) : Option (SocketAddress × List Char) := do
  let (ip, cs) ← IpAddress.four? cs
  let (port, cs) ← port? cs
  return (⟨ip, port, 0⟩, cs)

/-- The socket address with a long address in brackets. -/
def longForm? (cs : List Char) : Option (SocketAddress × List Char) := do
  let (ip, cs) ← IpAddress.six? (← IpAddress.mark? '[' cs)
  let (scope, cs) := scopeOf cs
  let (port, cs) ← port? (← IpAddress.mark? ']' cs)
  return (⟨ip, port, scope⟩, cs)

/-- The socket address that a whole text writes. -/
def read? (text : String) : Option SocketAddress := do
  let (address, rest) ← (shortForm? text.toList).or (longForm? text.toList)
  if rest.isEmpty then some address else none

/-- A socket address as text. -/
def text (s : SocketAddress) : String :=
  match s.ip with
  | .four a b c d => IpAddress.fourText a b c d ++ ":" ++ Text.natText s.port
  | .six gs =>
    let scope := if s.scope = 0 then "" else "%" ++ Text.natText s.scope
    "[" ++ IpAddress.sixText gs ++ scope ++ "]:" ++ Text.natText s.port

end SocketAddress

end GameFleet
