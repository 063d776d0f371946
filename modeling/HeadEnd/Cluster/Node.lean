import HeadEnd.Common
import Mathlib.Data.Rat.Defs

/-! Node status and the record one node keeps about another. -/
namespace HeadEnd.Cluster

inductive NodeStatus where
  | starting | active | draining | suspect | dead
  deriving DecidableEq, Repr

def NodeStatus.code : NodeStatus → UInt8
  | .starting => 0x01
  | .active => 0x02
  | .draining => 0x03
  | .suspect => 0x04
  | .dead => 0x05

def NodeStatus.fromCode (code : UInt8) : Option NodeStatus :=
  match code with
  | 0x01 => some .starting
  | 0x02 => some .active
  | 0x03 => some .draining
  | 0x04 => some .suspect
  | 0x05 => some .dead
  | _ => none

@[simp] theorem NodeStatus.fromCode_code (s : NodeStatus) : fromCode s.code = some s := by
  cases s <;> rfl

/- `load_percent` is an f32 in the program; it is kept here as the rational that it stands
   for. -/
structure NodeInfo where
  nodeId : Uuid
  nodeName : String
  clusterAddr : SocketAddr
  backdoorPort : UInt16
  status : NodeStatus
  startedAt : Int
  lastHeartbeat : Int
  bucketCount : UInt32
  deviceCount : UInt32
  maxDeviceSuggested : UInt32
  loadPercent : ℚ
  deriving DecidableEq

namespace NodeInfo

def defaultMaxDevices : UInt32 := 1000

def newLocal (nodeId : Uuid) (nodeName : String) (clusterAddr : SocketAddr)
    (backdoorPort : UInt16) (now : Int) : NodeInfo :=
  { nodeId, nodeName, clusterAddr, backdoorPort
    status := .starting
    startedAt := now
    lastHeartbeat := now
    bucketCount := 0
    deviceCount := 0
    maxDeviceSuggested := defaultMaxDevices
    loadPercent := 0 }

def isAvailable (n : NodeInfo) : Bool := n.status = .active

def isReachable (n : NodeInfo) : Bool :=
  match n.status with
  | .starting | .active | .draining => true
  | .suspect | .dead => false

def updateHeartbeat (n : NodeInfo) (now : Int) : NodeInfo :=
  { n with lastHeartbeat := now }

/-- Whole milliseconds, and zero when the clock has gone backwards. -/
def timeSinceHeartbeat (n : NodeInfo) (now : Int) : Nat :=
  fromMillis ((now - n.lastHeartbeat).tdiv 1000000).toNat

theorem timeSinceHeartbeat_mono (n : NodeInfo) {t u : Int} (h : t ≤ u) :
    n.timeSinceHeartbeat t ≤ n.timeSinceHeartbeat u := by
  have hd : (t - n.lastHeartbeat).tdiv 1000000 ≤ (u - n.lastHeartbeat).tdiv 1000000 :=
    Int.tdiv_le_tdiv (by omega) (by omega)
  exact Nat.mul_le_mul_right _ (Int.toNat_le_toNat hd)

end NodeInfo

end HeadEnd.Cluster
