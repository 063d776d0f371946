import HeadEnd.Cluster.Seeds
import HeadEnd.ConfigKeys

/-! The list of seeds has two writers. `cluster.join` reads it and writes it back longer, in
two calls of the store, and many joins may be at it. The handler of a NODE_JOIN writes it
anew. -/
namespace HeadEnd.Cluster
open Transition Text

/-- What `cluster.join` checks, and sends, before it turns to the list; `param` is the
parameter `seed`, if it is there and a string. -/
def requestedSeed (T : AddrText) (clusterEnabled : Bool) (param : Option String)
    (sent : Except String Unit) : Except Rpc.RpcError (Seed T) :=
  if clusterEnabled then
    match param with
    | none => .error (.invalidParams "missing 'seed' (expected 'ip:port')")
    | some seedStr =>
      match h : T.parse seedStr with
      | none => .error (.invalidParams s!"'{seedStr}' is not a valid ip:port address")
      | some seedAddr =>
        match sent with
        | .ok () => .ok ⟨seedStr, seedAddr, h⟩
        | .error e => .error (.internal
            ("failed to send NODE_JOIN to " ++ T.toText seedAddr ++ ": " ++ e))
  else .error .clusterNotEnabled

theorem requestedSeed_text {T : AddrText} (seed : Seed T) :
    requestedSeed T true (some seed.text) (.ok ()) = .ok seed := by
  obtain ⟨text, addr, hparses⟩ := seed
  rw [requestedSeed, if_pos rfl]
  simp only
  split
  next hnone => cases hnone.symm.trans hparses
  next found hfound =>
    obtain rfl := Option.some.inj (hfound.symm.trans hparses)
    rfl

/-- The list as `cluster.join` reads it. -/
def currentSeeds (m : ConfigManager) : String :=
  (m.config.getConfigValue "cluster_seeds").getD ""

/-- A reachable node of the list other than the local one. -/
def MembershipList.Peer (ml : MembershipList) (n : NodeInfo) : Prop :=
  ml.nodes.lookup n.nodeId = some n ∧ n.isReachable ∧ n.nodeId ≠ ml.localNodeId

/-- What a NODE_JOIN is about to store, and the membership list it left. -/
structure Storing where
  members : MembershipList
  seeds : String

/-- A node and its store. `reads` has the joins between their two calls, each with the list
that it read; `storing` is there between the two halves of a NODE_JOIN; `returned` has the
seeds of the joins that returned. -/
structure SeedStore (T : AddrText) where
  node : Survivor
  manager : ConfigManager
  reads : List (Seed T × String)
  storing : Option Storing
  returned : List (Seed T)

inductive SeedEvent (T : AddrText) where
  | read (seed : Seed T)
  | write (seed : Seed T) (current : String)
  | nodeJoin (nodeId : Uuid) (fromAddr : SocketAddr) (payload : ClusterPayload)
      (reachable : List NodeInfo) (now : Int)
  | store
  | elsewhere (node : Survivor)

/-- The address that a join names. -/
def SeedEvent.requested {T : AddrText} : SeedEvent T → Option SocketAddr
  | .read seed => some seed.addr
  | _ => none

namespace SeedStore
variable {T : AddrText}

def start (T : AddrText) (node : Survivor) (manager : ConfigManager) : SeedStore T :=
  ⟨node, manager, [], none, []⟩

/-- The entries of the list that is stored. -/
def seeds (st : SeedStore T) : List String := fields ',' (currentSeeds st.manager)

/-- The calls of the store, one at a time, none of which fails. The server handles one
message after another. -/
inductive Step : SeedStore T → SeedEvent T → SeedStore T → Prop
  | read {st : SeedStore T} {param : Option String} {seed : Seed T} :
      requestedSeed T true param (.ok ()) = .ok seed →
      Step st (.read seed) { st with reads := (seed, currentSeeds st.manager) :: st.reads }
  | write {st : SeedStore T} {seed : Seed T} {current : String} {m : ConfigManager} :
      (seed, current) ∈ st.reads →
      st.manager.setConfigValue "cluster_seeds" (newSeeds current seed.text) (.ok ()) =
        (m, .ok ()) →
      Step st (.write seed current)
        { st with
          manager := m, reads := st.reads.erase (seed, current), returned := seed :: st.returned }
  | nodeJoin {st : SeedStore T} {nodeId : Uuid} {fromAddr : SocketAddr}
      {payload : ClusterPayload} {reachable : List NodeInfo} {now : Int} {r : Joined} :
      st.storing = none →
      st.node.handleNodeJoin T nodeId fromAddr payload reachable now = .ok r →
      r.node.membership.ReachableNodes reachable →
      Step st (.nodeJoin nodeId fromAddr payload reachable now)
        { st with node := r.node, storing := some ⟨r.node.membership, r.seeds⟩ }
  | store {st : SeedStore T} {joined : Storing} {m : ConfigManager} :
      st.storing = some joined →
      st.manager.call (.ok ()) (.setClusterSeeds (some joined.seeds)) = (m, .ok ()) →
      Step st .store { st with manager := m, storing := none }
  -- other messages, the failure detector, the NODE_JOIN that a join sends
  | elsewhere {st : SeedStore T} {node : Survivor} :
      Step st (.elsewhere node) { st with node := node }

/-- Every seed whose join returned is in the list, and no seed is there twice. -/
structure Kept (st : SeedStore T) : Prop where
  joined : ∀ seed ∈ st.returned, seed.text ∈ st.seeds
  nodup : st.seeds.Nodup

/-- A join writes what it made of a list with all other seeds that were joined by then. When
a NODE_JOIN stores its list, every seed that was joined by then is the address of a peer that
the node had at the NODE_JOIN, and no two of these peers have one address. -/
def InTime (st : SeedStore T) : SeedEvent T → Prop
  | .write seed current =>
    ∀ other ∈ st.returned, other.text ≠ seed.text → other.text ∈ fields ',' current
  | .store => ∀ joined ∈ st.storing,
    (∀ seed ∈ st.returned, ∃ n, joined.members.Peer n ∧ T.toText n.clusterAddr = seed.text) ∧
      ∀ n n', joined.members.Peer n → joined.members.Peer n' → n.clusterAddr = n'.clusterAddr →
        n = n'
  | _ => True

/-- The lists that were read and may be written back have no seed twice, and what is about to
be stored are the addresses of the peers. -/
structure Pending (st : SeedStore T) : Prop where
  reads_nodup : ∀ p ∈ st.reads, (fields ',' p.2).Nodup
  stores_peers : ∀ joined ∈ st.storing, ∃ peers : List NodeInfo, peers.Nodup ∧
    (∀ n, n ∈ peers ↔ joined.members.Peer n) ∧
      fields ',' joined.seeds = peers.map fun n => T.toText n.clusterAddr

section
variable {m n : ConfigManager} {st st' st'' : SeedStore T} {e : SeedEvent T} {value : String}

theorem currentSeeds_setConfigValue
    (h : m.setConfigValue "cluster_seeds" value (.ok ()) = (n, .ok ())) :
    currentSeeds n = value := by
  have hconfig : n.config.clusterSeeds = if value.isEmpty then none else some value := by
    obtain rfl : (m.setConfigValue "cluster_seeds" value (.ok ())).1 = n := congrArg Prod.fst h
    rfl
  have hget : n.config.getConfigValue "cluster_seeds" = n.config.clusterSeeds := rfl
  rw [currentSeeds, hget, hconfig]
  split
  next hempty => exact (String.isEmpty_iff.mp hempty).symm
  next => rfl

theorem currentSeeds_setClusterSeeds
    (h : m.call (.ok ()) (.setClusterSeeds (some value)) = (n, .ok ())) :
    currentSeeds n = value := by
  obtain rfl : (m.call (.ok ()) (.setClusterSeeds (some value))).1 = n := congrArg Prod.fst h
  rfl

theorem Step.det (h : Step st e st') (h' : Step st e st'') : st' = st'' := by
  cases h with
  | read _ =>
    cases h'
    rfl
  | write _ hset =>
    cases h' with
    | write _ hset' =>
      obtain ⟨rfl, -⟩ := Prod.mk.inj (hset.symm.trans hset')
      rfl
  | nodeJoin _ hr _ =>
    cases h' with
    | nodeJoin _ hr' _ =>
      obtain rfl := Except.ok.inj (hr.symm.trans hr')
      rfl
  | store hstoring hcall =>
    cases h' with
    | store hstoring' hcall' =>
      obtain rfl := Option.some.inj (hstoring.symm.trans hstoring')
      obtain ⟨rfl, -⟩ := Prod.mk.inj (hcall.symm.trans hcall')
      rfl
  | elsewhere =>
    cases h'
    rfl

/-- The peers are listed as they are in the list that the NODE_JOIN left. -/
theorem peers_of_handleNodeJoin (hT : T.Lawful) {node : Survivor} {nodeId : Uuid}
    {fromAddr : SocketAddr} {payload : ClusterPayload} {reachable : List NodeInfo} {now : Int}
    {r : Joined} (hr : node.handleNodeJoin T nodeId fromAddr payload reachable now = .ok r)
    (hreach : r.node.membership.ReachableNodes reachable) :
    ∃ peers : List NodeInfo, peers.Nodup ∧ (∀ n, n ∈ peers ↔ r.node.membership.Peer n) ∧
      fields ',' r.seeds = peers.map fun n => T.toText n.clusterAddr := by
  refine ⟨reachable.filter fun n => n.nodeId ≠ r.node.membership.localNodeId, ?_, fun n => ?_, ?_⟩
  · exact (List.Nodup.of_map _ hreach.1).filter _
  · rw [List.mem_filter, hreach.2, decide_eq_true_iff, and_assoc]
    rfl
  · rw [Survivor.localNodeId_of_handleNodeJoin hr, Survivor.fields_of_handleNodeJoin hT hr,
      peerSeeds, List.map_map]
    rfl

theorem Pending.step (hT : T.Lawful) (h : st.Pending) (hkept : st.Kept) (hstep : Step st e st') :
    st'.Pending := by
  cases hstep with
  | read _ => exact ⟨List.forall_mem_cons.mpr ⟨hkept.nodup, h.reads_nodup⟩, h.stores_peers⟩
  | write _ _ => exact ⟨fun p hp => h.reads_nodup p (List.mem_of_mem_erase hp), h.stores_peers⟩
  | nodeJoin _ hr hreach =>
    refine ⟨h.reads_nodup, fun joined hjoined => ?_⟩
    obtain rfl := Option.some.inj hjoined
    exact peers_of_handleNodeJoin hT hr hreach
  | store _ _ => exact ⟨h.reads_nodup, fun joined hjoined => by cases hjoined⟩
  | elsewhere => exact ⟨h.reads_nodup, h.stores_peers⟩

/-- A write puts the seed into the list that was read, and keeps that list's entries. -/
theorem mem_fields_newSeeds {current text other : String} (htext : Field ',' text) :
    other ∈ fields ',' (newSeeds current text) ↔ other = text ∨ other ∈ fields ',' current := by
  rw [fields_newSeeds htext]
  split
  next hmem =>
    refine ⟨.inr, fun h => ?_⟩
    cases h with
    | inl heq => exact heq ▸ hmem
    | inr hother => exact hother
  next => simp [or_comm]

theorem nodup_fields_newSeeds {current text : String} (htext : Field ',' text)
    (h : (fields ',' current).Nodup) : (fields ',' (newSeeds current text)).Nodup := by
  rw [fields_newSeeds htext]
  split
  next => exact h
  next hnew =>
    rw [← List.concat_eq_append]
    exact List.Nodup.concat hnew h

theorem toText_inj (hT : T.Lawful) {a b : SocketAddr} : T.toText a = T.toText b ↔ a = b := by
  refine ⟨fun h => ?_, congrArg T.toText⟩
  have hparse := congrArg T.parse h
  rw [hT.parse_toText, hT.parse_toText] at hparse
  exact Option.some.inj hparse

theorem kept_iff :
    st.Kept ↔ (∀ seed ∈ st.returned, seed.text ∈ st.seeds) ∧ st.seeds.Nodup :=
  ⟨fun h => ⟨h.joined, h.nodup⟩, fun h => ⟨h.1, h.2⟩⟩

/-- From a state in which nothing is lost, exactly the steps in time lead to one. -/
theorem kept_step_iff (hT : T.Lawful) (hpending : st.Pending) (hkept : st.Kept)
    (hstep : Step st e st') : st'.Kept ↔ st.InTime e := by
  cases hstep with
  | read _ => exact iff_of_true ⟨hkept.joined, hkept.nodup⟩ trivial
  | @write seed current m hread hset =>
    have hseeds : fields ',' (currentSeeds m) = fields ',' (newSeeds current seed.text) := by
      rw [currentSeeds_setConfigValue hset]
    have hmem : ∀ other, other ∈ fields ',' (currentSeeds m) ↔
        other = seed.text ∨ other ∈ fields ',' current := fun other => by
      rw [hseeds, mem_fields_newSeeds (seed.field hT)]
    constructor
    · intro h other hother hne
      have hin := (hmem other.text).mp (h.joined other (List.mem_cons_of_mem seed hother))
      exact hin.resolve_left hne
    · intro htime
      refine ⟨List.forall_mem_cons.mpr ⟨(hmem seed.text).mpr (.inl rfl), ?_⟩, ?_⟩
      · intro other hother
        refine (hmem other.text).mpr ?_
        by_cases heq : other.text = seed.text
        · exact .inl heq
        · exact .inr (htime other hother heq)
      · have hnodup := nodup_fields_newSeeds (seed.field hT) (hpending.reads_nodup _ hread)
        rw [← hseeds] at hnodup
        exact hnodup
  | nodeJoin _ _ _ => exact iff_of_true ⟨hkept.joined, hkept.nodup⟩ trivial
  | @store joined m hstoring hcall =>
    obtain ⟨peers, hnodup, hmem, hfields⟩ := hpending.stores_peers joined hstoring
    rw [kept_iff, SeedStore.seeds, currentSeeds_setClusterSeeds hcall, hfields]
    simp only [InTime, hstoring, Option.mem_some_iff, forall_eq', List.mem_map, hmem]
    refine and_congr_right fun _ => ?_
    rw [List.nodup_map_iff_inj_on hnodup]
    simp only [hmem, toText_inj hT]
    exact ⟨fun h n n' hn hn' => h n hn n' hn', fun h n hn n' hn' => h n n' hn hn'⟩
  | elsewhere => exact iff_of_true ⟨hkept.joined, hkept.nodup⟩ trivial

end

/-- Along a run no joined seed is ever lost and none is there twice exactly if every join
writes, and every NODE_JOIN stores, in time. -/
theorem joined_seeds_kept_iff (hT : T.Lawful) (node : Survivor) (manager : ConfigManager)
    (hnodup : (fields ',' (currentSeeds manager)).Nodup) {es : List (SeedEvent T)}
    {st : SeedStore T} (hrun : Run Step (start T node manager) es st) :
    (∀ es₁ es₂ u, es = es₁ ++ es₂ → Run Step (start T node manager) es₁ u → u.Kept) ↔
      Run (Guarded InTime Step) (start T node manager) es st := by
  have hpending : (start T node manager).Pending :=
    ⟨fun p hp => absurd hp List.not_mem_nil, fun joined hjoined => by cases hjoined⟩
  have hkept : (start T node manager).Kept :=
    ⟨fun seed hseed => absurd hseed List.not_mem_nil, hnodup⟩
  refine hrun.forall_good_iff_guarded_of_inv Pending ?_ ?_ ?_ hpending hkept
  · exact fun s e t u h h' => h.det h'
  · exact fun s e t hpending hkept hstep => hpending.step hT hkept hstep
  · exact fun s e t hpending hkept hstep => kept_step_iff hT hpending hkept hstep

/-- The state after a write, for a join that read `current`. -/
def written (st : SeedStore T) (seed : Seed T) (current : String) : SeedStore T :=
  { st with
    manager :=
      (st.manager.setConfigValue "cluster_seeds" (newSeeds current seed.text) (.ok ())).1
    reads := st.reads.erase (seed, current)
    returned := seed :: st.returned }

theorem step_written {st : SeedStore T} {seed : Seed T} {current : String}
    (h : (seed, current) ∈ st.reads) :
    Step st (.write seed current) (st.written seed current) :=
  .write h rfl

theorem seeds_written {st : SeedStore T} {seed : Seed T} {current : String} :
    (st.written seed current).seeds = fields ',' (newSeeds current seed.text) := by
  have hstored : currentSeeds (st.written seed current).manager = newSeeds current seed.text :=
    currentSeeds_setConfigValue (m := st.manager) rfl
  rw [seeds, hstored]

/- Node 1, which has no seeds, and a second one to join. -/
def idle : SeedStore longText :=
  start longText Survivor.survivorOne (ConfigManager.new ConfigManager.nodeConfig)

def seedB : Seed longText := .ofAddr longText_lawful ⟨.v4 0x0a000004, 7001⟩

theorem seeds_idle_nodup : idle.seeds.Nodup := List.nodup_nil

def seedThree : Seed longText := .ofAddr longText_lawful Survivor.nodeThree.clusterAddr

/-- Node 1 joins node 3, which answers with a NODE_JOIN of its own, and then another seed. -/
def twoJoins : List (SeedEvent longText) :=
  [.read seedThree, .write seedThree "",
    .nodeJoin 3 Survivor.movedAddr (.nodeJoin (Survivor.joinOf "node-3")) [Survivor.nodeThree] 0,
    .store, .read seedB, .write seedB seedThree.text]

theorem joined_seeds_kept_two :
    ∃ st, Run Step idle twoJoins st ∧
      st.Kept ∧ st.returned = [seedB, seedThree] ∧ st.seeds = [seedThree.text, seedB.text] := by
  have hremote : 3 ≠ Survivor.survivorOne.membership.localNodeId := by decide
  obtain ⟨⟨node, seeds, sent⟩, hr, -⟩ := Survivor.handleNodeJoin_eq longText Survivor.movedAddr
    (Survivor.joinOf "node-3") [Survivor.nodeThree] 0 hremote
  obtain rfl : seeds = seedThree.text := by
    have hlist : peerSeeds longText_lawful Survivor.survivorOne.membership.localNodeId
        [Survivor.nodeThree] = [seedThree] := rfl
    exact (Survivor.seeds_of_handleNodeJoin longText_lawful hr).trans
      (hlist ▸ String.intercalate_singleton)
  have hreach : node.membership.ReachableNodes [Survivor.nodeThree] :=
    Survivor.reachable_three (Survivor.nodes_of_handleNodeJoin hr)
  have hpeer : ∀ n, node.membership.Peer n → n = Survivor.nodeThree :=
    fun n hn => List.mem_singleton.mp ((hreach.2 n).mpr ⟨hn.1, hn.2.1⟩)
  have hthree : node.membership.Peer Survivor.nodeThree := by
    obtain ⟨hlookup, hreachable⟩ := (hreach.2 _).mp (List.mem_singleton_self _)
    refine ⟨hlookup, hreachable, ?_⟩
    rw [Survivor.localNodeId_of_handleNodeJoin hr]
    exact hremote
  -- the only peer is the node that was joined
  have hstored : (∀ seed ∈ [seedThree],
      ∃ n, node.membership.Peer n ∧ longText.toText n.clusterAddr = seed.text) ∧
        ∀ n n', node.membership.Peer n → node.membership.Peer n' →
          n.clusterAddr = n'.clusterAddr → n = n' := by
    refine ⟨fun seed hseed => ⟨_, hthree, ?_⟩, fun n n' hn hn' _ => ?_⟩
    · rw [List.mem_singleton.mp hseed]
      rfl
    · rw [hpeer n hn, hpeer n' hn']
  have hlisted : ∀ other ∈ [seedThree], other.text ≠ seedB.text →
      other.text ∈ fields ',' seedThree.text := by
    intro other hother _
    rw [fields_singleton (seedThree.field longText_lawful), List.mem_singleton.mp hother]
    exact List.mem_singleton_self _
  have hrun : Run (Guarded InTime Step) idle twoJoins _ :=
    .cons ⟨trivial, .read (requestedSeed_text seedThree)⟩
      (.cons ⟨fun other hother => absurd hother List.not_mem_nil, step_written List.mem_cons_self⟩
        (.cons ⟨trivial, .nodeJoin rfl hr hreach⟩
          (.cons ⟨fun joined hjoined => Option.mem_some_iff.mp hjoined ▸ hstored, .store rfl rfl⟩
            (.cons ⟨trivial, .read (requestedSeed_text seedB)⟩
              (.single ⟨hlisted, step_written List.mem_cons_self⟩)))))
  have hkept := (joined_seeds_kept_iff longText_lawful _ _ seeds_idle_nodup
    hrun.of_guarded).mpr hrun
  refine ⟨_, hrun.of_guarded, hkept _ [] _ (List.append_nil _).symm hrun.of_guarded, rfl, ?_⟩
  rw [seeds_written]
  decide +kernel

/-- Two joins name different seeds, and both read the empty list. The one that writes last
has never seen the other's seed, and both have returned. -/
theorem joined_seed_lost :
    ¬ ∀ (T : AddrText), T.Lawful → ∀ (node : Survivor) (manager : ConfigManager),
      (fields ',' (currentSeeds manager)).Nodup → ∀ (es : List (SeedEvent T)) (st : SeedStore T),
        (es.filterMap SeedEvent.requested).Nodup →
          Run Step (start T node manager) es st → st.Kept := by
  intro h
  have hne : seedA.text ≠ seedB.text := by
    intro htext
    have hparse := congrArg longText.parse htext
    rw [seedA.parses, seedB.parses] at hparse
    exact absurd hparse (by decide)
  have hother : (seedB, "") ≠ (seedA, "") := fun heq =>
    hne (congrArg (fun p => p.1.text) heq.symm)
  have hrun : Run Step idle [.read seedA, .read seedB, .write seedA "", .write seedB ""] _ :=
    .cons (.read (requestedSeed_text seedA)) (.cons (.read (requestedSeed_text seedB))
      (.cons (step_written (List.mem_cons_of_mem _ List.mem_cons_self))
        (.single (step_written ((List.mem_erase_of_ne hother).mpr List.mem_cons_self)))))
  have hkept := h longText longText_lawful _ _ seeds_idle_nodup _ _ (by decide) hrun
  have hmem := hkept.joined seedA (List.mem_cons_of_mem _ List.mem_cons_self)
  have hnew : newSeeds "" seedB.text = seedB.text := rfl
  rw [seeds_written, hnew, fields_singleton (seedB.field longText_lawful)] at hmem
  exact hne (List.mem_singleton.mp hmem)

end SeedStore

end HeadEnd.Cluster
