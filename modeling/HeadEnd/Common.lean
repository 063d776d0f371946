import HeadEnd.Lib.Buffer

/-! Identifiers, addresses, times and the errors of the console, shared by every part of the
head-end. -/
namespace HeadEnd

abbrev Uuid := BitVec 128

def Uuid.nil : Uuid := 0

inductive IpAddr where
  | v4 (bits : UInt32)
  | v6 (bits : BitVec 128)
  deriving DecidableEq, Repr

structure SocketAddr where
  ip : IpAddr
  port : UInt16
  deriving DecidableEq, Repr

/-- The textual forms of the standard library: `Display` and `FromStr` of a
socket address. The program only ever prints addresses and parses them back. -/
structure AddrText where
  toText : SocketAddr → String
  parse : String → Option SocketAddr

/- Times are `Int` nanoseconds since the Unix epoch, UTC; time spans are `Nat`
   nanoseconds. Both cover chrono's `NaiveDateTime` and `DateTime<Utc>`, and
   the standard library's `Duration`. -/

def fromSecs (s : Nat) : Nat := s * 1000000000
def fromMillis (ms : Nat) : Nat := ms * 1000000

/-- Whole Unix seconds, rounded down. -/
def timestamp (t : Int) : Int := t / 1000000000

namespace Rpc

inductive RpcError where
  | io (text : String)
  | json (text : String)
  | methodNotFound (method : String)
  | invalidParams (text : String)
  | internal (text : String)
  | config (text : String)
  | clusterNotEnabled
  | deviceNotFound (text : String)
  | database (text : String)
  deriving DecidableEq, Repr

end Rpc

end HeadEnd
