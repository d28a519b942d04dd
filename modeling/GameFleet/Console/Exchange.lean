import GameFleet.Console.Packet
import GameFleet.Failure
import GameFleet.Request

/-!
# Talking to a console (specification §2, RCON health probe)

A client sends the password, waits for the verdict on it, then sends a command and, right behind
it, an empty packet with a number of its own. The server answers packets in order, so the answer to
the command is complete when that number comes back.

- `Ending`: what becomes of the server's stream after its last byte.
- `Exchange`: how a conversation ended: its result, the packets that were sent, and the bytes of
  the server that were not read.
- `exchange`: the conversation with a server that says certain bytes, if all packets can be
  written.
- `Query`, `query`: what becomes of a client, which breaks off at a packet that it cannot write.
- `ExchangeError.failure`: the failure of a conversation.
-/

namespace GameFleet.Console

/-- What becomes of a stream after its last byte. -/
inductive Ending where
  | closed
  /-- Nothing more comes, and the client runs out of time. -/
  | silent
  deriving DecidableEq, Repr

/-- Why a conversation failed. -/
inductive ExchangeError where
  /-- There is no server. -/
  | unreachable
  /-- The password was refused. -/
  | rejected
  /-- A packet could not be read. -/
  | unreadable (e : ReadError)
  /-- The time was up. -/
  | timedOut
  deriving DecidableEq, Repr

/-- How a conversation ended. -/
structure Exchange where
  result : Except ExchangeError String
  sent : List Packet
  unread : List UInt8

namespace Exchange

/-- The numbers of the packets that the client sends. -/
def authId : Int := 1
def commandId : Int := 2
def endId : Int := 3

/-- The kinds of packets. -/
def authKind : Int := 3
def verdictKind : Int := 2
def commandKind : Int := 2
def answerKind : Int := 0

/-- The number of a verdict that refuses the password. -/
def refusedId : Int := -1

/-- The packets that the client sends. -/
def authPacket (password : String) : Packet := ⟨authId, authKind, password⟩
def commandPacket (command : String) : Packet := ⟨commandId, commandKind, command⟩
def endPacket : Packet := ⟨endId, answerKind, ""⟩

/-- The error of a client that found no packet. One that waits for more runs out of time. -/
def readError (ending : Ending) : ReadError → ExchangeError
  | .invalidSize n => .unreadable (.invalidSize n)
  | e => if ending = .silent then .timedOut else .unreadable e

/-- The bytes that are left when no packet could be read: all that came were read, except behind a
size that no packet has. -/
def leftBy (stream : List UInt8) : ReadError → List UInt8
  | .invalidSize _ => stream.drop 4
  | _ => []

/-- Waits for the verdict on the password; other packets are passed over. Gives the stream behind
an accepting verdict, or the error and what is left. -/
def awaitVerdict (ending : Ending) (stream : List UInt8) :
    Except (ExchangeError × List UInt8) (List UInt8) :=
  match h : Packet.read stream with
  | .error e => .error (readError ending e, leftBy stream e)
  | .ok (p, rest) =>
    have := Packet.length_of_read h
    if p.kind ≠ verdictKind then awaitVerdict ending rest
    else if p.id = refusedId then .error (.rejected, rest)
    else .ok rest
termination_by stream.length

/-- Gathers the answer to the command up to the packet with the last number. -/
def gather (ending : Ending) (transcript : String) (stream : List UInt8) :
    Except ExchangeError String × List UInt8 :=
  match h : Packet.read stream with
  | .error e => (.error (readError ending e), leftBy stream e)
  | .ok (p, rest) =>
    have := Packet.length_of_read h
    if p.id = endId then (.ok transcript, rest)
    else if p.id = commandId ∧ p.kind = answerKind then
      gather ending (transcript ++ p.body) rest
    else gather ending transcript rest
termination_by stream.length

end Exchange

open Exchange in
/-- The conversation with a server that says certain bytes, of a client that can write its
packets. -/
def exchange (password command : String) (stream : List UInt8) (ending : Ending) : Exchange :=
  match awaitVerdict ending stream with
  | .error (e, unread) => ⟨.error e, [authPacket password], unread⟩
  | .ok rest =>
    let (result, unread) := gather ending "" rest
    ⟨result, [authPacket password, commandPacket command, endPacket], unread⟩

namespace Exchange

/-- The bytes that reach the server. When the client leaves with bytes unread, the connection is
reset, and the packet that was sent last is lost if it is the empty one. -/
def received (e : Exchange) : List UInt8 :=
  let lost := !e.unread.isEmpty && e.sent.getLast? = some endPacket
  (if lost then e.sent.dropLast else e.sent).flatMap Packet.encode

end Exchange

/-- What becomes of a client. -/
inductive Query where
  /-- The conversation came to its end. -/
  | ended (e : Exchange)
  /-- The client broke off, without a result, at a packet that cannot be encoded. -/
  | brokeOff (sent : List Packet)

/-- A client talks to a server that says certain bytes. -/
def query (password command : String) (stream : List UInt8) (ending : Ending) : Query :=
  let e := exchange password command stream ending
  if e.sent.all fun p => p.encode?.isSome then .ended e
  else .brokeOff (e.sent.takeWhile fun p => p.encode?.isSome)

namespace ExchangeError

/-- The text of an error in a conversation with a console. -/
def message (console : String) (timeout : Span) : ExchangeError → String
  | unreachable => "connect rcon " ++ console
  | rejected => "rcon authentication rejected by " ++ console
  | unreadable .noSize => "read rcon packet size"
  | unreadable .cutShort => "read rcon packet"
  | unreadable (.invalidSize n) => "invalid rcon packet size: " ++ Text.intText n
  | timedOut =>
    "rcon query to " ++ console ++ " timed out after " ++ Text.natText timeout.millis ++ "ms"

/-- The failure of a conversation with a console. -/
def failure (console : String) (timeout : Span) (e : ExchangeError) : Failure :=
  .internal (e.message console timeout)

end ExchangeError

end GameFleet.Console
