import LiosTunnel.Error

/-!
# The messages between a client and the helper

The shapes of `dto/protocol.rs`. A line on the socket is one of them in JSON, which is
`serde_json`'s; here a line that is written is the message, and one that is read is parsed by a
parameter.
-/

namespace LiosTunnel.Dto

def PROTOCOL_VERSION : ℕ := 2

/-- `ConnectParams`. -/
structure ConnectParams where
  profileJson : String
  user : String
  routeMode : String
  cidrs : List String
  captureDns : Bool
  tunAddress : String
  deriving DecidableEq, Repr

/-- `Request`. -/
inductive Request
  | hello (id : ℕ) (protocolVersion : ℕ)
  | connect (id : ℕ) (params : ConnectParams)
  | disconnect (id : ℕ)
  | getStatus (id : ℕ)
  deriving DecidableEq, Repr

/-- `ErrorKind`. -/
inductive ErrorKind
  | versionMismatch
  | unauthorized
  | secretNotPermitted
  | alreadyConnected
  | notConnected
  | authFailed
  | badRequest
  | internal
  deriving DecidableEq, Repr

/-- `StatsSnapshot`. -/
structure StatsSnapshot where
  bytesUp : ℕ
  bytesDown : ℕ
  activeFlows : ℕ
  flowsFailed : ℕ
  dnsQueries : ℕ
  deriving DecidableEq, Repr

/-- A line the helper writes: a `Response` or an `Event`. -/
inductive Line
  | ack (id : ℕ)
  | error (id : ℕ) (kind : ErrorKind) (message : Text)
  | state (state : String)
  | stats (snapshot : StatsSnapshot)
  deriving DecidableEq, Repr

end LiosTunnel.Dto
