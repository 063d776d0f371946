import HeadEnd.Lib.RwLock

/-! The two locks that the tasks of a node share, and the order in which the handlers
take them. Most take the membership first; the handlers of a dead node take the device
manager first when they update the node's own statistics. -/
namespace HeadEnd.Cluster
open Transition HeadEnd.RwLock

inductive Lock where
  | membership | deviceManager
  deriving DecidableEq, Repr

/-- One cluster server and one failure detector; RPC calls and backdoor handlers come in
any number. -/
inductive NodeTask where
  | server
  | detector
  | rpc (call : Nat)
  | backdoor (handler : Nat)
  deriving DecidableEq, Repr

def locked (lock : Lock) (mode : Mode) : List (LockAction Lock) :=
  [.acquire lock mode, .release lock]

/-- `handle_status_request` -/
def statusRequest : List (LockAction Lock) :=
  [.acquire .membership .write, .acquire .deviceManager .read,
    .release .deviceManager, .release .membership]

/-- `handle_node_join` up to the answer: the new member, then its address. -/
def addMember : List (LockAction Lock) := locked .membership .write ++ locked .membership .read

/-- The active nodes, then the redistribution among them. -/
def redistribution : List (LockAction Lock) :=
  locked .membership .read ++ locked .deviceManager .write

/-- The statistics of the local node, with both locks held. -/
def syncStats : List (LockAction Lock) :=
  [.acquire .deviceManager .read, .acquire .membership .write,
    .release .membership, .release .deviceManager]

/-- `handle_node_dead`: mark, redistribute, update the statistics, remove. -/
def nodeDead : List (LockAction Lock) :=
  locked .membership .write ++ redistribution ++ syncStats ++ locked .membership .write

/-- `handle_dead_node`: as before, with the sequence number and the targets of the
broadcast after the mark. -/
def deadNode : List (LockAction Lock) :=
  locked .membership .write ++ locked .membership .write ++ locked .membership .read ++
    redistribution ++ syncStats ++ locked .membership .write

/-- `cluster.status` -/
def clusterStatus : List (LockAction Lock) :=
  [.acquire .membership .read, .acquire .deviceManager .read,
    .release .deviceManager, .release .membership]

/- Every way through the handlers. An unknown node ends `handle_node_join` before the answer
   and `handle_dead_node` after the mark; a failed database call ends `handle_node_dead` after
   the mark or after the redistribution. -/
def programs : NodeTask → List (List (LockAction Lock))
  | .server =>
    [statusRequest, addMember ++ statusRequest, addMember, nodeDead, locked .membership .write,
      locked .membership .write ++ redistribution]
  | .detector => [deadNode, locked .membership .write]
  | .rpc _ => [clusterStatus]
  | .backdoor _ => [locked .deviceManager .write]

def allPrograms : List (List (LockAction Lock)) :=
  programs .server ++ programs .detector ++ programs (.rpc 0) ++ programs (.backdoor 0)

theorem programs_subset (i : NodeTask) : programs i ⊆ allPrograms := by
  cases i with
  | server => decide
  | detector => decide
  | rpc call =>
    have hsame : programs (.rpc call) = programs (.rpc 0) := rfl
    rw [hsame]
    decide
  | backdoor handler =>
    have hsame : programs (.backdoor handler) = programs (.backdoor 0) := rfl
    rw [hsame]
    decide

theorem programs_balanced (i : NodeTask) (program : List (LockAction Lock))
    (h : program ∈ programs i) (k : Lock) : heldAfter k program = none := by
  have hall : ∀ program ∈ allPrograms,
      heldAfter .membership program = none ∧ heldAfter .deviceManager program = none := by decide
  cases k with
  | membership => exact (hall program (programs_subset i h)).1
  | deviceManager => exact (hall program (programs_subset i h)).2

/-- The task holds the device manager and is to acquire the membership. -/
def heading (t : Worker Lock) : Bool :=
  (t.held .deviceManager).isSome &&
    (t.next == some (.acquire .membership .read) || t.next == some (.acquire .membership .write))

/-- A task with the membership asks only to read the device manager, one with the device
manager reads it if it asks for the membership, and only by acquiring the device manager
does a task come to head for the membership. -/
def disciplined (t : Worker Lock) : Bool :=
  match t.next with
  | none => true
  | some (.acquire .membership _) =>
    (t.held .membership).isNone && t.held .deviceManager != some .write && !heading t.advance
  | some (.acquire .deviceManager m) =>
    (t.held .deviceManager).isNone && ((t.held .membership).isNone || m == .read)
  | some (.release _) => !heading t.advance

theorem programs_disciplined :
    ∀ program ∈ allPrograms, ∀ pc < program.length, disciplined ⟨program, pc⟩ = true := by
  decide

abbrev Locks := State NodeTask Lock

variable {s t : Locks} {i j : NodeTask} {k : Lock} {m n : Mode}

theorem disciplined_task (h : s.Consistent programs) (i : NodeTask) :
    disciplined (s.task i) = true := by
  have hnone : (s.task i).next = none → disciplined (s.task i) = true := by
    intro hnext
    rw [disciplined, hnext]
  by_cases hpc : (s.task i).pc < (s.task i).program.length
  · cases h.program i with
    | inl hnil => simp [hnil] at hpc
    | inr hmem => exact programs_disciplined _ (programs_subset i hmem) _ hpc
  · exact hnone (List.getElem?_eq_none (not_lt.mp hpc))

theorem reads_of_membership (h : s.Consistent programs) (hheld : (s.task i).held .membership ≠ none)
    (hnext : (s.task i).next = some (.acquire k m)) : k = .deviceManager ∧ m = .read := by
  have hd := disciplined_task h i
  rw [disciplined, hnext] at hd
  cases k with
  | membership => simp_all
  | deviceManager => simp_all

theorem heading_of_deviceManager (h : s.Consistent programs)
    (hheld : (s.task i).held .deviceManager = some n)
    (hnext : (s.task i).next = some (.acquire k m)) :
    k = .membership ∧ n = .read ∧ heading (s.task i) = true := by
  have hd := disciplined_task h i
  rw [disciplined, hnext] at hd
  cases k with
  | membership =>
    cases n with
    | read => cases m <;> simp [heading, hheld, hnext]
    | write => simp [hheld] at hd
  | deviceManager => simp [hheld] at hd

theorem not_heading_advance (h : s.Consistent programs)
    (hnext : ∀ m, (s.task i).next ≠ some (.acquire .deviceManager m))
    (hsome : (s.task i).next ≠ none) :
    heading (s.task i).advance = false := by
  have hd := disciplined_task h i
  rw [disciplined] at hd
  obtain ⟨a, ha⟩ := Option.ne_none_iff_exists'.mp hsome
  rw [ha] at hd hnext
  cases a with
  | acquire l n =>
    cases l with
    | membership => simp_all
    | deviceManager => simp at hnext
  | release l => simpa using hd

/-- No writer of these has a task before it that holds the device manager, or is queued for
it, and then heads for the membership. -/
def ClearAhead (s : Locks) (ahead : List (NodeTask × Mode)) : Prop :=
  ∀ front w back, ahead = front ++ (w, .write) :: back →
    (∀ y, heading (s.task y) = false) ∧ ∀ y n, (y, n) ∈ front → heading (s.task y).advance = false

theorem clearAhead_nil : ClearAhead s [] := by
  intro front w back h
  simp at h

/-- A task that holds the membership asks for the device manager only if the queue is
clear. -/
def Unobstructed (s : Locks) : Event NodeTask Lock → Prop
  | .ask i => (s.task i).held .membership ≠ none →
      ∀ m, (s.task i).next = some (.acquire .deviceManager m) →
        ClearAhead s (s.queue .deviceManager)
  | _ => True

/-- It is then clear ahead of every task that holds the membership. -/
def Clear (s : Locks) : Prop :=
  ∀ i m ahead behind, s.queue .deviceManager = ahead ++ (i, m) :: behind →
    (s.task i).held .membership ≠ none → ClearAhead s ahead

theorem clear_idle : Clear State.idle := by
  intro i m ahead behind hqueue
  simp [State.idle] at hqueue

theorem heading_update {task : Worker Lock} (hall : ∀ y, heading (s.task y) = false)
    (htask : heading task = false) (y : NodeTask) :
    heading (Function.update s.task i task y) = false := by
  by_cases hy : y = i
  · rw [hy, Function.update_self]
    exact htask
  · rw [Function.update_of_ne hy]
    exact hall y

/-- A task outside the queue may move on as long as it does not come to head for the
membership with the device manager held. -/
theorem Clear.update_task (h : Clear s) {task : Worker Lock}
    (hout : ∀ m, (i, m) ∉ s.queue .deviceManager) (hheading : heading task = false)
    (htask : t.task = Function.update s.task i task)
    (hqueue : t.queue .deviceManager = s.queue .deviceManager) : Clear t := by
  intro x m ahead behind hx hheld front w back hahead
  rw [hqueue] at hx
  have hmem : ∀ e ∈ ahead, e ∈ s.queue .deviceManager := by
    intro e he
    rw [hx]
    exact List.mem_append_left _ he
  have hne : ∀ y n, (y, n) ∈ s.queue .deviceManager → y ≠ i := fun y n hy heq => hout n (heq ▸ hy)
  have hxi : x ≠ i := hne x m (State.mem_queue_of_eq hx)
  rw [htask, Function.update_of_ne hxi] at hheld
  obtain ⟨hall, hfront⟩ := h x m ahead behind hx hheld front w back hahead
  refine ⟨fun y => ?_, fun y n hy => ?_⟩
  · rw [htask]
    exact heading_update hall hheading y
  · have hyi : y ≠ i := hne y n (hmem _ (by rw [hahead]; exact List.mem_append_left _ hy))
    rw [htask, Function.update_of_ne hyi]
    exact hfront y n hy

theorem Clear.ask (h : Clear s) (hask : (s.task i).held .membership ≠ none →
      ClearAhead s (s.queue .deviceManager)) :
    Clear { s with
      queue := Function.update s.queue .deviceManager (s.queue .deviceManager ++ [(i, m)]) } := by
  intro x n ahead behind hx hheld
  dsimp only at hx hheld
  rw [Function.update_self] at hx
  cases List.eq_nil_or_concat behind with
  | inl hnil =>
    -- the task that has just joined the queue
    rw [hnil] at hx
    obtain ⟨rfl, hlast⟩ := List.append_inj' hx rfl
    cases hlast
    exact hask hheld
  | inr hsnoc =>
    obtain ⟨init, last, rfl⟩ := hsnoc
    rw [List.concat_eq_append, ← List.cons_append, ← List.append_assoc] at hx
    obtain ⟨hold, -⟩ := List.append_inj' hx rfl
    exact h x n ahead init hold hheld

/-- The head of the queue was ahead of all others, so it does not head for the
membership if a writer stands behind it. -/
theorem Clear.enter (h : Clear s) (hs : s.Consistent programs) {rest : List (NodeTask × Mode)}
    (hqueue : s.queue .deviceManager = (i, m) :: rest) :
    Clear ⟨Function.update s.task i (s.task i).advance,
      Function.update s.queue .deviceManager rest⟩ := by
  have hnodup := hs.nodup .deviceManager
  rw [hqueue, List.map_cons, List.nodup_cons] at hnodup
  have hne : ∀ y n, (y, n) ∈ rest → y ≠ i :=
    fun y n hy heq => hnodup.1 (List.mem_map.mpr ⟨(y, n), hy, heq⟩)
  intro x n ahead behind hx hheld front w back hahead
  dsimp only at hx hheld ⊢
  rw [Function.update_self] at hx
  have hxi : x ≠ i := hne x n (by rw [hx]; exact List.mem_append_right _ List.mem_cons_self)
  rw [Function.update_of_ne hxi] at hheld
  have hold : s.queue .deviceManager = ((i, m) :: ahead) ++ (x, n) :: behind := by
    rw [hqueue, hx, List.cons_append]
  obtain ⟨hall, hfront⟩ := h x n _ behind hold hheld ((i, m) :: front) w back (by rw [hahead]; rfl)
  refine ⟨fun y => ?_, fun y n hy => ?_⟩
  · exact heading_update hall (hfront i m List.mem_cons_self) y
  · have hyi : y ≠ i := hne y n (by
      rw [hx, hahead]
      exact List.mem_append_left _ (List.mem_append_left _ hy))
    rw [Function.update_of_ne hyi]
    exact hfront y n (List.mem_cons_of_mem _ hy)

theorem Clear.step {e : Event NodeTask Lock} (h : Clear s) (hs : s.Consistent programs)
    (hstep : Guarded Unobstructed (State.Step programs) s e t) : Clear t := by
  obtain ⟨hguard, hone⟩ := hstep
  cases hone with
  | @start i program hnext =>
    have hout : ¬ s.Waits i := hs.not_waits (by simp [hnext])
    exact h.update_task (fun m hmem => hout ⟨_, m, hmem⟩) rfl rfl rfl
  | @ask i k m hnext hwaits =>
    cases k with
    | membership =>
      intro x n ahead behind hx
      dsimp only at hx
      rw [Function.update_of_ne (by simp)] at hx
      exact h x n ahead behind hx
    | deviceManager => exact h.ask fun hheld => hguard hheld m hnext
  | @enter i k m rest hqueue hshared =>
    cases k with
    | membership =>
      have hmem := State.mem_queue_of_head hqueue
      have hnext := hs.next i .membership m hmem
      have hlocks : Lock.deviceManager ≠ .membership := by decide
      have hout : ∀ n, (i, n) ∉ s.queue .deviceManager := by
        intro n hn
        have hlock := (hs.lock_eq hmem hn).1
        cases hlock
      exact h.update_task hout (not_heading_advance hs (by simp [hnext]) (by simp [hnext])) rfl
        (Function.update_of_ne hlocks rest s.queue)
    | deviceManager => exact h.enter hs hqueue
  | @leave i k hnext =>
    have hout : ¬ s.Waits i := hs.not_waits (by simp [hnext])
    exact h.update_task (fun m hmem => hout ⟨_, m, hmem⟩)
      (not_heading_advance hs (by simp [hnext]) (by simp [hnext])) rfl rfl

/-- Whoever holds the membership is freed: either nobody with the device manager waits, or
only readers are ahead, whom the readers of the device manager do not hold up. -/
theorem freed_of_membership (hs : s.Consistent programs) (h : Clear s)
    (hheld : (s.task i).held .membership ≠ none) : s.Freed i := by
  by_cases hwaits : s.Waits i
  · obtain ⟨k, m, hmem⟩ := hwaits
    obtain ⟨rfl, rfl⟩ := reads_of_membership hs hheld (hs.next i k m hmem)
    obtain ⟨ahead, behind, hqueue⟩ := List.append_of_mem hmem
    refine hs.freed_of_ahead hqueue fun j n hj hstand => ?_
    by_cases hy : ∃ y, (s.task y).held .deviceManager ≠ none ∧ s.Waits y
    · obtain ⟨y, hyheld, k', m', hymem⟩ := hy
      obtain ⟨n', hn'⟩ := Option.ne_none_iff_exists'.mp hyheld
      obtain ⟨-, rfl, hheading⟩ := heading_of_deviceManager hs hn' (hs.next y k' m' hymem)
      have hread : n = .read := by
        cases n with
        | read => rfl
        | write =>
          obtain rfl := hs.exclusive j y .deviceManager .read hj hn'
          rw [hj] at hn'
          cases hn'
      obtain ⟨e, he, hne⟩ := hstand
      have heread : e.2 = .read := by
        cases List.mem_append.mp he with
        | inl hahead =>
          cases hmode : e.2 with
          | read => rfl
          | write =>
            obtain ⟨front, back, rfl⟩ := List.append_of_mem hahead
            have hclear := (h i .read _ behind hqueue hheld front e.1 back (by rw [← hmode])).1 y
            rw [hheading] at hclear
            cases hclear
        | inr hself => rw [List.mem_singleton.mp hself]
      exact absurd ⟨heread, hread⟩ hne
    · exact State.freed_of_not_waits fun hj' => hy ⟨j, by simp [hj], hj'⟩
  · exact State.freed_of_not_waits hwaits

theorem freed (hs : s.Consistent programs) (h : Clear s) (i : NodeTask) : s.Freed i := by
  have hmembership : ∀ i m, (i, m) ∈ s.queue .membership → s.Freed i := by
    intro i m hmem
    exact hs.freed_of_holders hmem fun j n hj => freed_of_membership hs h (by simp [hj])
  have hholder : ∀ i n, (s.task i).held .deviceManager = some n → s.Freed i := by
    intro i n hheld
    by_cases hwaits : s.Waits i
    · obtain ⟨k, m, hmem⟩ := hwaits
      obtain ⟨rfl, -, -⟩ := heading_of_deviceManager hs hheld (hs.next i k m hmem)
      exact hmembership i m hmem
    · exact State.freed_of_not_waits hwaits
  by_cases hwaits : s.Waits i
  · obtain ⟨k, m, hmem⟩ := hwaits
    cases k with
    | membership => exact hmembership i m hmem
    | deviceManager => exact hs.freed_of_holders hmem hholder
  · exact State.freed_of_not_waits hwaits

/-- If no task that holds the membership ever asks for the device manager behind a writer
that is itself behind a dead node's handler on its way to the membership, then no tasks
wait for each other in a circle, and while one waits another can go on. -/
theorem locks_never_stuck {es : List (Event NodeTask Lock)}
    (hrun : Run (Guarded Unobstructed (State.Step programs)) State.idle es s) :
    (∀ i, ¬ Relation.TransGen s.WaitsFor i i) ∧ ((∃ i, s.Waits i) → s.Proceeds programs) := by
  have hinv : s.Consistent programs ∧ Clear s :=
    hrun.invariant (fun s => s.Consistent programs ∧ Clear s)
      (fun _ _ _ hs hone => ⟨hs.1.step hone.2, hs.2.step hs.1 hone⟩)
      ⟨State.consistent_idle, clear_idle⟩
  have hfreed := freed hinv.1 hinv.2
  refine ⟨State.not_cycle hfreed, fun hwaits => ?_⟩
  obtain ⟨i, hi⟩ := hwaits
  exact hinv.1.proceeds_of_freed programs_balanced (hfreed i) hi

theorem not_waits_of_queues (hm : i ∉ (s.queue .membership).map Prod.fst)
    (hd : i ∉ (s.queue .deviceManager).map Prod.fst) : ¬ s.Waits i := by
  intro hwaits
  obtain ⟨k, m, hmem⟩ := hwaits
  cases k with
  | membership => exact hm (List.mem_map_of_mem hmem)
  | deviceManager => exact hd (List.mem_map_of_mem hmem)

/-- The cluster server has the membership and waits for a backdoor handler to release the
device manager. -/
theorem locks_never_stuck_server :
    ∃ es s, Run (Guarded Unobstructed (State.Step programs)) State.idle es s ∧
      s.WaitsFor .server (.backdoor 0) ∧ s.Proceeds programs := by
  have hrun : ∃ es s, Run (Guarded Unobstructed (State.Step programs)) State.idle es s ∧
      s.WaitsFor .server (.backdoor 0) := by
    refine ⟨[.start (.backdoor 0) (locked .deviceManager .write), .ask (.backdoor 0),
      .enter (.backdoor 0), .start .server statusRequest, .ask .server, .enter .server,
      .ask .server], _,
      .cons ⟨trivial, .start rfl (by decide)⟩ <|
      .cons ⟨fun hheld => ?_, .ask rfl (not_waits_of_queues (by decide) (by decide))⟩ <|
      .cons ⟨trivial, .enter (k := .deviceManager) rfl ?_⟩ <|
      .cons ⟨trivial, .start rfl (by decide)⟩ <|
      .cons ⟨fun hheld => ?_, .ask rfl (not_waits_of_queues (by decide) (by decide))⟩ <|
      .cons ⟨trivial, .enter (k := .membership) rfl ?_⟩ <|
      .single ⟨fun hheld => ?_, .ask rfl (not_waits_of_queues (by decide) (by decide))⟩, ?_⟩
    · exact absurd rfl hheld
    · intro j n hj
      cases j with
      | backdoor handler => cases handler <;> cases hj
      | _ => cases hj
    · exact absurd rfl hheld
    · intro j n hj
      cases j with
      | backdoor handler => cases handler <;> cases hj
      | _ => cases hj
    · exact fun _ _ => clearAhead_nil
    · exact ⟨.deviceManager, .read, [], [], rfl, .inr ⟨.write, rfl, by simp [Mode.Compatible]⟩⟩
  obtain ⟨es, s, hrun, hwaits⟩ := hrun
  exact ⟨es, s, hrun, hwaits, (locks_never_stuck hrun).2 ⟨.server, hwaits.waits⟩⟩

/-- The detector, with the device manager, waits for the server; the server, with the
membership, is behind a backdoor handler; and that one waits for the detector. -/
def stuck : Locks where
  task
    | .detector => ⟨deadNode, 11⟩
    | .server => ⟨statusRequest, 1⟩
    | .backdoor 0 => ⟨locked .deviceManager .write, 0⟩
    | _ => ⟨[], 0⟩
  queue
    | .membership => [(.detector, .write)]
    | .deviceManager => [(.backdoor 0, .write), (.server, .read)]

/-- The detector gets to the point where it is to acquire the membership. -/
theorem detector_reached : ∃ es, Run (State.Step programs) State.idle es
    { State.idle with task := Function.update State.idle.task .detector ⟨deadNode, 11⟩ } := by
  have honce : ∀ n k m, deadNode[n]? = some (.acquire k m) →
      heldAfter k (deadNode.take n) = none := by
    have hall : ∀ n < deadNode.length, ∀ k ∈ [Lock.membership, .deviceManager],
        ∀ m ∈ [Mode.read, .write], deadNode[n]? = some (.acquire k m) →
          heldAfter k (deadNode.take n) = none := by decide
    intro n k m hn
    obtain ⟨hlt, -⟩ := List.getElem?_eq_some_iff.mp hn
    exact hall n hlt k (by cases k <;> simp) m (by cases m <;> simp) hn
  exact State.exists_run_alone (fun _ => rfl) (fun _ _ _ => rfl) rfl (by decide) honce (by decide)

theorem stuck_reached : ∃ es, Run (State.Step programs) State.idle es stuck := by
  obtain ⟨es, hdetector⟩ := detector_reached
  have hrest : ∃ s, Run (State.Step programs)
      { State.idle with task := Function.update State.idle.task .detector ⟨deadNode, 11⟩ }
      [.start .server statusRequest, .ask .server, .enter .server,
        .start (.backdoor 0) (locked .deviceManager .write), .ask (.backdoor 0), .ask .server,
        .ask .detector] s ∧ s = stuck := by
    refine ⟨_, .cons (.start rfl (by decide)) <|
      .cons (.ask rfl (not_waits_of_queues (by decide) (by decide))) <|
      .cons (.enter (k := .membership) rfl ?_) <| .cons (.start rfl (by decide)) <|
      .cons (.ask rfl (not_waits_of_queues (by decide) (by decide))) <|
      .cons (.ask rfl (not_waits_of_queues (by decide) (by decide))) <|
      .single (.ask rfl (not_waits_of_queues (by decide) (by decide))), ?_⟩
    · intro j n hj
      cases j <;> cases hj
    · rw [stuck, State.mk.injEq]
      constructor
      · funext i
        cases i with
        | server => rfl
        | detector => rfl
        | rpc call => rfl
        | backdoor handler =>
          cases handler with
          | zero => rfl
          | succ handler => rfl
      · funext k
        cases k <;> rfl
  obtain ⟨s, hrun, rfl⟩ := hrest
  exact ⟨_, hdetector.append hrun⟩

theorem stuck_waits : stuck.WaitsFor .detector .server ∧ stuck.WaitsFor .server (.backdoor 0) ∧
    stuck.WaitsFor (.backdoor 0) .detector := by
  refine ⟨⟨.membership, .write, [], [], rfl, .inr ⟨.write, by decide, ?_⟩⟩,
    ⟨.deviceManager, .read, [(.backdoor 0, .write)], [], rfl, .inl ⟨.write, List.mem_cons_self⟩⟩,
    ⟨.deviceManager, .write, [], [(.server, .read)], rfl, .inr ⟨.read, by decide, ?_⟩⟩⟩
  · simp [Mode.Compatible]
  · simp [Mode.Compatible]

theorem stuck_next (i : NodeTask) : (stuck.task i).next = none ∨
    ∃ k m, (stuck.task i).next = some (.acquire k m) ∧ (i, m) ∈ stuck.queue k := by
  cases i with
  | server => exact .inr ⟨.deviceManager, .read, by decide⟩
  | detector => exact .inr ⟨.membership, .write, by decide⟩
  | rpc call => exact .inl rfl
  | backdoor handler =>
    cases handler with
    | zero => exact .inr ⟨.deviceManager, .write, by decide⟩
    | succ handler => exact .inl rfl

theorem stuck_not_proceeds : ¬ stuck.Proceeds programs := by
  intro hproceeds
  obtain ⟨e, t, hstep, hother⟩ := hproceeds
  cases hstep with
  | start => exact hother _ _ rfl
  | @ask i k m hnext hwaits =>
    cases stuck_next i with
    | inl hnone => simp [hnone] at hnext
    | inr hqueued =>
      obtain ⟨l, n, -, hmem⟩ := hqueued
      exact hwaits ⟨l, n, hmem⟩
  | @enter i k m rest hqueue hshared =>
    cases k with
    | membership =>
      cases hqueue
      have hread := (hshared .server .write (by decide)).2
      cases hread
    | deviceManager =>
      cases hqueue
      have hread := (hshared .detector .read (by decide)).1
      cases hread
  | @leave i k hnext =>
    cases stuck_next i with
    | inl hnone => simp [hnone] at hnext
    | inr hqueued =>
      obtain ⟨l, n, hacquire, -⟩ := hqueued
      simp [hacquire] at hnext

/-- The locks can come to a state in which three tasks wait for each other and none of the
tasks can go on. -/
theorem locks_stuck : ∃ es s, Run (State.Step programs) State.idle es s ∧
    (∃ i, s.Waits i ∧ Relation.TransGen s.WaitsFor i i) ∧ ¬ s.Proceeds programs := by
  obtain ⟨es, hrun⟩ := stuck_reached
  obtain ⟨hserver, hhandler, hdetector⟩ := stuck_waits
  exact ⟨es, stuck, hrun, ⟨.detector, hserver.waits,
    .tail (.tail (.single hserver) hhandler) hdetector⟩, stuck_not_proceeds⟩

end HeadEnd.Cluster
