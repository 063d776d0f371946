import HeadEnd.Cluster.Payload
import HeadEnd.Database
import HeadEnd.Lib.Float32

/-! What a node knows about the others, and how messages and timeouts change it. -/
namespace HeadEnd.Cluster

structure ClusterConfig where
  nodeId : Uuid
  nodeName : String
  clusterAddr : SocketAddr
  backdoorPort : UInt16
  suspectTimeout : Nat
  deadTimeout : Nat

/-- Other nodes are filed under their own id, and the local node is not among
them. -/
structure MembershipList where
  localNode : NodeInfo
  nodes : Table NodeInfo
  seqCounter : UInt32
  config : ClusterConfig
  nodes_keyed : Keyed NodeInfo.nodeId nodes
  lookup_local : nodes.lookup localNode.nodeId = none

namespace MembershipList

def new (config : ClusterConfig) (now : Int) : MembershipList where
  localNode := NodeInfo.newLocal config.nodeId config.nodeName config.clusterAddr
    config.backdoorPort now
  nodes := ∅
  seqCounter := 0
  config := config
  nodes_keyed := keyed_empty
  lookup_local := rfl

def nextSeq (ml : MembershipList) : MembershipList := { ml with seqCounter := ml.seqCounter + 1 }

def localNodeId (ml : MembershipList) : Uuid := ml.localNode.nodeId

def getNode (ml : MembershipList) (nodeId : Uuid) : Option NodeInfo :=
  if nodeId = ml.localNode.nodeId then some ml.localNode else ml.nodes.lookup nodeId

/-- `l` lists the active nodes, self excluded, in the map's order: any order. -/
def ActiveNodes (ml : MembershipList) (l : List NodeInfo) : Prop :=
  (l.map NodeInfo.nodeId).Nodup ∧
    ∀ n, n ∈ l ↔ ml.nodes.lookup n.nodeId = some n ∧ n.isAvailable

def ReachableNodes (ml : MembershipList) (l : List NodeInfo) : Prop :=
  (l.map NodeInfo.nodeId).Nodup ∧
    ∀ n, n ∈ l ↔ ml.nodes.lookup n.nodeId = some n ∧ n.isReachable

/-- Change the entry of another node, if there is one. -/
def modify (ml : MembershipList) (nodeId : Uuid) (g : NodeInfo → NodeInfo)
    (hg : ∀ n, (g n).nodeId = n.nodeId) : MembershipList :=
  match h : ml.nodes.lookup nodeId with
  | none => ml
  | some node =>
    { ml with
      nodes := ml.nodes.insert nodeId (g node)
      nodes_keyed := ml.nodes_keyed.insert ((hg node).trans (ml.nodes_keyed nodeId node h))
      lookup_local := by
        have hne : ml.localNode.nodeId ≠ nodeId := by
          intro he
          rw [← he, ml.lookup_local] at h
          cases h
        rw [Finmap.lookup_insert_of_ne _ hne, ml.lookup_local] }

/-- Change the local node's own record. -/
def modifyLocal (ml : MembershipList) (g : NodeInfo → NodeInfo)
    (hg : ∀ n, (g n).nodeId = n.nodeId) : MembershipList :=
  { ml with
    localNode := g ml.localNode
    lookup_local := by rw [hg, ml.lookup_local] }

/-- Through `get_node_mut`, which also finds the local node. -/
def modifyAny (ml : MembershipList) (nodeId : Uuid) (g : NodeInfo → NodeInfo)
    (hg : ∀ n, (g n).nodeId = n.nodeId) : MembershipList :=
  if nodeId = ml.localNode.nodeId then ml.modifyLocal g hg else ml.modify nodeId g hg

def addOrUpdateNode (ml : MembershipList) (node : NodeInfo) (now : Int) : MembershipList :=
  if hlocal : node.nodeId = ml.localNode.nodeId then ml
  else if (ml.nodes.lookup node.nodeId).isSome then
    ml.modify node.nodeId
      (fun existing => { existing with
        nodeName := node.nodeName
        status := node.status
        bucketCount := node.bucketCount
        deviceCount := node.deviceCount
        loadPercent := node.loadPercent
        maxDeviceSuggested := node.maxDeviceSuggested
        lastHeartbeat := now })
      (fun _ => rfl)
  else
    { ml with
      nodes := ml.nodes.insert node.nodeId node
      nodes_keyed := ml.nodes_keyed.insert rfl
      lookup_local := by
        rw [Finmap.lookup_insert_of_ne _ (Ne.symm hlocal), ml.lookup_local] }

def updateHeartbeat (ml : MembershipList) (nodeId : Uuid) (now : Int) : MembershipList :=
  ml.modify nodeId (fun n => n.updateHeartbeat now) (fun _ => rfl)

def markSuspect (ml : MembershipList) (nodeId : Uuid) : MembershipList :=
  ml.modify nodeId (fun n => if n.status = .active then { n with status := .suspect } else n)
    (fun n => by split <;> rfl)

def markDead (ml : MembershipList) (nodeId : Uuid) : MembershipList :=
  ml.modify nodeId (fun n => { n with status := .dead }) (fun _ => rfl)

def removeNode (ml : MembershipList) (nodeId : Uuid) : MembershipList :=
  { ml with
    nodes := ml.nodes.erase nodeId
    nodes_keyed := ml.nodes_keyed.erase
    lookup_local := by
      by_cases hid : ml.localNode.nodeId = nodeId
      · rw [hid, Finmap.lookup_erase]
      · rw [Finmap.lookup_erase_ne hid, ml.lookup_local] }

/-- Silent for longer than the suspect timeout while Active. -/
def isSuspectCandidate (ml : MembershipList) (now : Int) (n : NodeInfo) : Bool :=
  n.status = .active && ml.config.suspectTimeout < n.timeSinceHeartbeat now

/-- Silent for longer than both timeouts together while Suspect. -/
def isDeadCandidate (ml : MembershipList) (now : Int) (n : NodeInfo) : Bool :=
  n.status = .suspect &&
    ml.config.suspectTimeout + ml.config.deadTimeout < n.timeSinceHeartbeat now

def candidates (ml : MembershipList) (p : NodeInfo → Bool) : Finset Uuid :=
  ml.nodes.keys.filter (fun id => (ml.nodes.lookup id).any p)

def getSuspectCandidates (ml : MembershipList) (now : Int) : Finset Uuid :=
  ml.candidates (ml.isSuspectCandidate now)

def getDeadCandidates (ml : MembershipList) (now : Int) : Finset Uuid :=
  ml.candidates (ml.isDeadCandidate now)

def setLocalStatus (ml : MembershipList) (status : NodeStatus) : MembershipList :=
  ml.modifyLocal (fun n => { n with status := status }) (fun _ => rfl)

/-- `device_count / max_device_suggested * 100`, in single precision. -/
def loadOf (maxDeviceSuggested : UInt32) (deviceCount : Nat) : ℚ :=
  if 0 < maxDeviceSuggested then
    Float32.mul
      (Float32.div (Float32.ofNat deviceCount) (Float32.ofNat maxDeviceSuggested.toNat)) 100
  else 0

def updateLocalStats (ml : MembershipList) (bucketCount deviceCount : UInt32) : MembershipList :=
  ml.modifyLocal
    (fun n => { n with
      bucketCount := bucketCount
      deviceCount := deviceCount
      loadPercent := loadOf n.maxDeviceSuggested deviceCount.toNat })
    (fun _ => rfl)

section Lookup
variable {ml : MembershipList} {id k : Uuid} {g : NodeInfo → NodeInfo}
  {hg : ∀ n, (g n).nodeId = n.nodeId}

theorem lookup_modify_self : (ml.modify id g hg).nodes.lookup id = (ml.nodes.lookup id).map g := by
  unfold modify
  split
  next h => rw [h]; rfl
  next node h => exact (Finmap.lookup_insert _).trans (congrArg (Option.map g) h).symm

theorem lookup_modify_of_ne (h : k ≠ id) :
    (ml.modify id g hg).nodes.lookup k = ml.nodes.lookup k := by
  unfold modify
  split
  next => rfl
  next => exact Finmap.lookup_insert_of_ne _ h

@[simp] theorem modify_config : (ml.modify id g hg).config = ml.config := by
  unfold modify
  split <;> rfl

theorem lookup_updateHeartbeat_of_ne {now : Int} (h : k ≠ id) :
    (ml.updateHeartbeat id now).nodes.lookup k = ml.nodes.lookup k := by
  unfold updateHeartbeat
  exact lookup_modify_of_ne h

@[simp] theorem updateHeartbeat_config {now : Int} :
    (ml.updateHeartbeat id now).config = ml.config := by
  unfold updateHeartbeat
  exact modify_config

theorem lookup_markDead_of_ne (h : k ≠ id) :
    (ml.markDead id).nodes.lookup k = ml.nodes.lookup k := by
  unfold markDead
  exact lookup_modify_of_ne h

@[simp] theorem markDead_config : (ml.markDead id).config = ml.config := by
  unfold markDead
  exact modify_config

theorem lookup_modifyAny_of_ne (h : k ≠ id) :
    (ml.modifyAny id g hg).nodes.lookup k = ml.nodes.lookup k := by
  unfold modifyAny
  split
  · rfl
  · exact lookup_modify_of_ne h

@[simp] theorem modifyAny_config : (ml.modifyAny id g hg).config = ml.config := by
  unfold modifyAny
  split
  · rfl
  · exact modify_config

theorem lookup_addOrUpdateNode_of_ne {node : NodeInfo} {now : Int} (h : k ≠ node.nodeId) :
    (ml.addOrUpdateNode node now).nodes.lookup k = ml.nodes.lookup k := by
  unfold addOrUpdateNode
  split
  · rfl
  · split
    · exact lookup_modify_of_ne h
    · exact Finmap.lookup_insert_of_ne _ h

@[simp] theorem addOrUpdateNode_config {node : NodeInfo} {now : Int} :
    (ml.addOrUpdateNode node now).config = ml.config := by
  unfold addOrUpdateNode
  split
  · rfl
  · split
    · exact modify_config
    · rfl

/-- Removing a node brings no entry back. -/
theorem lookup_of_lookup_removeNode {n : NodeInfo}
    (h : (ml.removeNode id).nodes.lookup k = some n) : ml.nodes.lookup k = some n := by
  by_cases hk : k = id
  · rw [hk, removeNode, Finmap.lookup_erase] at h
    cases h
  · rwa [removeNode, Finmap.lookup_erase_ne hk] at h

theorem mem_candidates {p : NodeInfo → Bool} :
    id ∈ ml.candidates p ↔ ∃ n, ml.nodes.lookup id = some n ∧ p n := by
  rw [candidates, Finset.mem_filter, Finmap.mem_keys, Finmap.mem_iff, Option.any_eq_true]
  constructor
  · exact fun h => h.2
  · intro h
    obtain ⟨n, hn, hp⟩ := h
    exact ⟨⟨n, hn⟩, n, hn, hp⟩

end Lookup

end MembershipList

end HeadEnd.Cluster
