import HeadEnd.Cluster.Join

/-! The list of seeds is kept as one text. A NODE_JOIN writes it, `cluster.join` appends to
it, and a node that starts reads it. -/
namespace HeadEnd
open Text

namespace Cluster

inductive SeedError where
  | invalidConfig (text : String)
  deriving DecidableEq, Repr

/-- The configuration with the seeds that the node contacts when it starts. -/
structure StartConfig extends ClusterConfig where
  clusterSeeds : List SocketAddr

namespace StartConfig

def pushSeed (T : AddrText) (c : StartConfig) (seed : String) : Except SeedError StartConfig :=
  match T.parse (trim seed) with
  | some addr => .ok { c with clusterSeeds := c.clusterSeeds ++ [addr] }
  | none => .error (.invalidConfig
      s!"Invalid seed address '{seed}': invalid socket address syntax")

def withSeeds (T : AddrText) (c : StartConfig) (seeds : String) : Except SeedError StartConfig :=
  if seeds.isEmpty then .ok c else (split ',' seeds).foldlM (pushSeed T) c

end StartConfig

/-- The list that `cluster.join` writes, from the one that it read. -/
def newSeeds (currentSeeds seedStr : String) : String :=
  if currentSeeds.isEmpty then seedStr
  else if (split ',' currentSeeds).any fun s => trim s == seedStr then currentSeeds
  else currentSeeds ++ "," ++ seedStr

/-- A text that stands for an address. -/
structure Seed (T : AddrText) where
  text : String
  addr : SocketAddr
  parses : T.parse text = some addr
  deriving DecidableEq

/-- A seed goes to the end of the list, unless its text is there already. -/
def addSeed {T : AddrText} (seeds : List (Seed T)) (seed : Seed T) : List (Seed T) :=
  if seed.text ∈ seeds.map Seed.text then seeds else seeds ++ [seed]

def Seed.ofAddr {T : AddrText} (hT : T.Lawful) (addr : SocketAddr) : Seed T :=
  ⟨T.toText addr, addr, hT.parse_toText addr⟩

section
variable {T : AddrText} {c : StartConfig} {current text : String} {seeds : List (Seed T)}

theorem Seed.field (hT : T.Lawful) (seed : Seed T) : Field ',' seed.text :=
  hT.field seed.text seed.addr seed.parses

theorem StartConfig.foldlM_pushSeed {pieces : List String} {addrs : List SocketAddr}
    (h : (pieces.map trim).map T.parse = addrs.map some) :
    pieces.foldlM (pushSeed T) c = .ok { c with clusterSeeds := c.clusterSeeds ++ addrs } := by
  induction pieces generalizing addrs c with
  | nil =>
    cases addrs with
    | nil =>
      rw [List.append_nil]
      rfl
    | cons addr addrs => cases h
  | cons piece pieces ih =>
    cases addrs with
    | nil => cases h
    | cons addr addrs =>
      obtain ⟨hfirst, hrest⟩ := List.cons.inj h
      have hpush : pushSeed T c piece =
          .ok { c with clusterSeeds := c.clusterSeeds ++ [addr] } := by
        simp only [pushSeed, hfirst]
      rw [List.foldlM_cons, hpush]
      refine (ih hrest).trans ?_
      simp

/-- The entries are read one by one, behind the seeds that are there. -/
theorem StartConfig.withSeeds_of_fields {addrs : List SocketAddr}
    (h : (fields ',' current).map T.parse = addrs.map some) :
    c.withSeeds T current = .ok { c with clusterSeeds := c.clusterSeeds ++ addrs } := by
  unfold fields at h
  unfold withSeeds
  split at h
  next hempty =>
    obtain rfl : addrs = [] := by simpa using h.symm
    rw [if_pos hempty, List.append_nil]
  next hne =>
    rw [if_neg hne, foldlM_pushSeed h]

/-- In terms of entries, `cluster.join` puts the seed at the end if it is not there. -/
theorem fields_newSeeds (htext : Field ',' text) :
    fields ',' (newSeeds current text) =
      if text ∈ fields ',' current then fields ',' current else fields ',' current ++ [text] := by
  by_cases hempty : current = ""
  · have hnew : newSeeds "" text = text := rfl
    have hnone : fields ',' "" = [] := rfl
    rw [hempty, hnew, hnone, fields_singleton htext]
    rfl
  · have hcurrent : fields ',' current = (split ',' current).map trim := by
      rw [fields, if_neg (by simpa using hempty)]
    have hany : (split ',' current).any (fun s => trim s == text) = true ↔
        text ∈ fields ',' current := by
      rw [hcurrent]
      simp
    rw [newSeeds, if_neg (by simpa using hempty)]
    by_cases hmem : text ∈ fields ',' current
    · rw [if_pos (hany.mpr hmem), if_pos hmem]
    · rw [if_neg (mt hany.mp hmem), if_neg hmem]
      exact fields_append hempty htext

theorem fields_newSeeds_seed (hT : T.Lawful) (seed : Seed T)
    (h : fields ',' current = seeds.map Seed.text) :
    fields ',' (newSeeds current seed.text) = (addSeed seeds seed).map Seed.text := by
  rw [fields_newSeeds (seed.field hT), h, addSeed]
  split
  next => rfl
  next => simp

/-- One join after another. -/
theorem fields_joins (hT : T.Lawful) (joins : List (Seed T))
    (h : fields ',' current = seeds.map Seed.text) :
    fields ',' (joins.foldl (fun current seed => newSeeds current seed.text) current) =
      (joins.foldl addSeed seeds).map Seed.text := by
  induction joins generalizing current seeds with
  | nil => exact h
  | cons seed joins ih => exact ih (fields_newSeeds_seed hT seed h)

theorem Seed.map_parse_text (seeds : List (Seed T)) :
    (seeds.map Seed.text).map T.parse = (seeds.map Seed.addr).map some := by
  rw [List.map_map, List.map_map]
  exact List.map_congr_left fun seed _ => seed.parses

end

/-- The peers' addresses, as the handler of a NODE_JOIN lists them. -/
def peerSeeds {T : AddrText} (hT : T.Lawful) (localNodeId : Uuid) (reachable : List NodeInfo) :
    List (Seed T) :=
  (reachable.filter fun n => n.nodeId ≠ localNodeId).map fun n => .ofAddr hT n.clusterAddr

theorem Survivor.seeds_of_handleNodeJoin {T : AddrText} (hT : T.Lawful) {s : Survivor}
    {nodeId : Uuid} {fromAddr : SocketAddr} {payload : ClusterPayload} {reachable : List NodeInfo}
    {now : Int} {r : Joined}
    (h : s.handleNodeJoin T nodeId fromAddr payload reachable now = .ok r) :
    r.seeds = String.intercalate ","
      ((peerSeeds hT s.membership.localNodeId reachable).map Seed.text) := by
  cases payload with
  | nodeJoin join =>
    have hlocal : (s.addJoined nodeId fromAddr join now).membership.localNodeId =
        s.membership.localNodeId :=
      congrArg NodeInfo.nodeId MembershipList.addOrUpdateNode_localNode
    have htexts : (peerSeeds hT s.membership.localNodeId reachable).map Seed.text =
        (reachable.filter fun n => n.nodeId ≠ s.membership.localNodeId).map
          fun n => T.toText n.clusterAddr := by
      rw [peerSeeds, List.map_map]
      rfl
    simp only [handleNodeJoin, hlocal] at h
    rw [htexts]
    split at h <;> exact congrArg Joined.seeds (Except.ok.inj h).symm
  | _ => cases h

theorem Survivor.fields_of_handleNodeJoin {T : AddrText} (hT : T.Lawful) {s : Survivor}
    {nodeId : Uuid} {fromAddr : SocketAddr} {payload : ClusterPayload} {reachable : List NodeInfo}
    {now : Int} {r : Joined}
    (h : s.handleNodeJoin T nodeId fromAddr payload reachable now = .ok r) :
    fields ',' r.seeds = (peerSeeds hT s.membership.localNodeId reachable).map Seed.text := by
  rw [seeds_of_handleNodeJoin hT h]
  refine fields_intercalate fun text htext => ?_
  obtain ⟨seed, -, rfl⟩ := List.mem_map.mp htext
  exact seed.field hT

theorem Survivor.localNodeId_of_handleNodeJoin {T : AddrText} {s : Survivor} {nodeId : Uuid}
    {fromAddr : SocketAddr} {payload : ClusterPayload} {reachable : List NodeInfo} {now : Int}
    {r : Joined} (h : s.handleNodeJoin T nodeId fromAddr payload reachable now = .ok r) :
    r.node.membership.localNodeId = s.membership.localNodeId := by
  cases payload with
  | nodeJoin join =>
    have hlocal : (s.addJoined nodeId fromAddr join now).membership.localNodeId =
        s.membership.localNodeId :=
      congrArg NodeInfo.nodeId MembershipList.addOrUpdateNode_localNode
    simp only [handleNodeJoin] at h
    split at h
    · exact (congrArg (fun r : Joined => r.node.membership.localNodeId)
        (Except.ok.inj h).symm).trans hlocal
    · exact (congrArg (fun r : Joined => r.node.membership.localNodeId)
        (Except.ok.inj h).symm).trans hlocal
  | _ => cases h

/-- What the handler of a NODE_JOIN stores, and what any joins with valid seeds make of it,
is accepted when the node starts: the peers come first, then the seeds that were joined, each
in its place. -/
theorem persisted_seeds_parse_back (T : AddrText) (hT : T.Lawful) (s : Survivor) (nodeId : Uuid)
    (fromAddr : SocketAddr) (payload : ClusterPayload) (reachable : List NodeInfo) (now : Int)
    (r : Joined) (hjoin : s.handleNodeJoin T nodeId fromAddr payload reachable now = .ok r)
    (joins : List (Seed T)) (c : StartConfig) :
    c.withSeeds T "" = .ok c ∧
      c.withSeeds T (joins.foldl (fun current seed => newSeeds current seed.text) r.seeds) =
        .ok { c with clusterSeeds := c.clusterSeeds ++
          (joins.foldl addSeed (peerSeeds hT s.membership.localNodeId reachable)).map Seed.addr }
    := by
  refine ⟨rfl, StartConfig.withSeeds_of_fields ?_⟩
  rw [fields_joins hT joins (Survivor.fields_of_handleNodeJoin hT hjoin), Seed.map_parse_text]

def seedA : Seed longText := .ofAddr longText_lawful ⟨.v4 0x0a000003, 7001⟩

namespace Survivor

def startConfig : StartConfig := { peerConfig with clusterSeeds := [] }

/-- Node 3 joins and is stored. Then two joins name the same seed. -/
theorem persisted_seeds_three :
    ∃ r, survivorOne.handleNodeJoin longText 3 movedAddr (.nodeJoin (joinOf "node-3"))
        [nodeThree] 0 = .ok r ∧
      startConfig.withSeeds longText
          (newSeeds (newSeeds r.seeds seedA.text) seedA.text) =
        .ok { startConfig with
          clusterSeeds := [⟨.v4 0x0a000002, 7001⟩, ⟨.v4 0x0a000003, 7001⟩] } := by
  have hremote : 3 ≠ survivorOne.membership.localNodeId := by decide
  obtain ⟨r, hr, -⟩ :=
    handleNodeJoin_eq longText movedAddr (joinOf "node-3") [nodeThree] 0 hremote
  have hparsed := (persisted_seeds_parse_back longText longText_lawful survivorOne 3
    movedAddr (.nodeJoin (joinOf "node-3")) [nodeThree] 0 r hr [seedA, seedA]
    startConfig).2
  have haddrs : ([seedA, seedA].foldl addSeed (peerSeeds longText_lawful
      survivorOne.membership.localNodeId [nodeThree])).map Seed.addr =
        [⟨.v4 0x0a000002, 7001⟩, ⟨.v4 0x0a000003, 7001⟩] := by
    decide +kernel
  refine ⟨r, hr, hparsed.trans ?_⟩
  rw [haddrs]
  rfl

end Survivor

end Cluster

end HeadEnd
