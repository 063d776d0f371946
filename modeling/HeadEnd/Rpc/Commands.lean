import HeadEnd.Rpc.Handler

/-! The lines that an operator types at the console, the requests they stand for, and what the
server makes of those. -/
namespace HeadEnd.Rpc
open Cluster Text

def parseU64 (s : String) : Option Int := (parseUnsigned (2 ^ 64) s).map Int.ofNat

/-- `FromStr` of `i64`. Behind a minus sign there are only digits. -/
def parseI64 (s : String) : Option Int :=
  match s.toList with
  | '-' :: digits =>
    if digits.head? = some '+' then none
    else (parseUnsigned (2 ^ 63 + 1) (String.ofList digits)).map fun n : Nat => -(n : Int)
  | _ => (parseUnsigned (2 ^ 63) s).map Int.ofNat

structure ListArgs where
  limit : Int
  offset : Int
  deviceId : Option String

/-- The options of a listing. A value that is no number counts as the default, and a word
that is no option, or an option without a value, as the device. -/
def readArgs (parse : String → Option Int) (limit : Int) : List String → ListArgs → ListArgs
  | [], args => args
  | [word], args => { args with deviceId := some word }
  | word :: value :: rest, args =>
    if word = "--limit" then
      readArgs parse limit rest { args with limit := (parse value).getD limit }
    else if word = "--offset" then
      readArgs parse limit rest { args with offset := (parse value).getD 0 }
    else readArgs parse limit (value :: rest) { args with deviceId := some word }

def optField (name : String) (value : Option String) : List (String × Json) :=
  (value.map fun v => (name, Json.str v)).toList

def deviceListParams (rest : List String) : Json :=
  let args := readArgs parseU64 100 rest ⟨100, 0, none⟩
  .obj [("limit", .int args.limit), ("offset", .int args.offset)]

def schedulerParams (rest : List String) : Json :=
  let args := readArgs parseI64 20 rest ⟨20, 0, none⟩
  .obj (optField "device_id" args.deviceId ++
    [("limit", .int args.limit), ("offset", .int args.offset)])

/-- A number, a list with commas, or else one device. -/
def delegateParams (selector : String) (target : Option String) : Json :=
  let field : String × Json := match parseUnsigned (2 ^ 64) selector with
    | some n => ("count", .int n)
    | none =>
      if ',' ∈ selector.toList then ("device_ids", .arr ((split ',' selector).map .str))
      else ("device_id", .str selector)
  .obj (field :: optField "target_node_id" target)

/-- The method and the parameters that the words of a line stand for. -/
def commandOf : List String → Option (String × Json)
  | ["version"] => some ("system.version", .obj [])
  | ["config", "list"] => some ("config.list", .obj [])
  | ["config", "get", key] => some ("config.get", .obj [("key", .str key)])
  | ["config", "set", key, value] =>
    some ("config.set", .obj [("key", .str key), ("value", .str value)])
  | ["config", "propagate", key, value] =>
    some ("config.propagate", .obj [("key", .str key), ("value", .str value)])
  | ["cluster", "peers"] => some ("cluster.peers", .obj [])
  | ["cluster", "status"] => some ("cluster.status", .obj [])
  | ["cluster", "join", seed] => some ("cluster.join", .obj [("seed", .str seed)])
  | "device" :: "list" :: rest => some ("device.list", deviceListParams rest)
  | ["device", "info", uuid] => some ("device.info", .obj [("device_id", .str uuid)])
  | "device" :: "delegate" :: selector :: rest =>
    some ("device.delegate", delegateParams selector rest.head?)
  | "scheduler" :: "upcoming" :: rest => some ("scheduler.upcoming", schedulerParams rest)
  | "scheduler" :: "history" :: rest => some ("scheduler.history", schedulerParams rest)
  | _ => none

/-- The fields of a map come in the order of their names. -/
def requestJson (id : Nat) (method : String) (params : Json) : Json :=
  .obj [("id", .int id), ("jsonrpc", .str "2.0"), ("method", .str method), ("params", params)]

def parseCommand (input : String) (id : Nat) : Option Json :=
  (commandOf (words input)).map fun command => requestJson id command.1 command.2

section Arguments
variable {parse : String → Option Int} {limit : Int} {good : Int → Prop}

/-- The numbers are the ones of the start, the default, or what was read. -/
theorem readArgs_range (hparse : ∀ s n, parse s = some n → good n) (hlimit : good limit)
    (hzero : good 0) (rest : List String) {args : ListArgs}
    (h : good args.limit ∧ good args.offset) :
    good (readArgs parse limit rest args).limit ∧ good (readArgs parse limit rest args).offset := by
  have hget : ∀ value default, good default → good ((parse value).getD default) := by
    intro value default hdefault
    cases hvalue : parse value with
    | none => exact hdefault
    | some n => exact hparse value n hvalue
  fun_induction readArgs parse limit rest args with
  | case1 args => exact h
  | case2 word args => exact h
  | case3 value rest args ih => exact ih ⟨hget _ _ hlimit, h.2⟩
  | case4 value rest args _ ih => exact ih ⟨h.1, hget _ _ hzero⟩
  | case5 word value rest args _ _ ih => exact ih h

end Arguments

theorem parseU64_range {s : String} {n : Int} (h : parseU64 s = some n) : 0 ≤ n ∧ n < 2 ^ 64 := by
  obtain ⟨k, hk, rfl⟩ := Option.map_eq_some_iff.mp h
  have hlt := lt_of_parseUnsigned hk
  rw [Int.ofNat_eq_natCast]
  omega

theorem parseI64_range {s : String} {n : Int} (h : parseI64 s = some n) :
    -2 ^ 63 ≤ n ∧ n < 2 ^ 63 := by
  unfold parseI64 at h
  split at h
  next digits _ =>
    split_ifs at h
    obtain ⟨k, hk, rfl⟩ := Option.map_eq_some_iff.mp h
    have hlt := lt_of_parseUnsigned hk
    omega
  next =>
    obtain ⟨k, hk, rfl⟩ := Option.map_eq_some_iff.mp h
    have hlt := lt_of_parseUnsigned hk
    rw [Int.ofNat_eq_natCast]
    omega

theorem deviceListArgs_range (rest : List String) :
    (0 ≤ (readArgs parseU64 100 rest ⟨100, 0, none⟩).limit ∧
      (readArgs parseU64 100 rest ⟨100, 0, none⟩).limit < 2 ^ 64) ∧
    (0 ≤ (readArgs parseU64 100 rest ⟨100, 0, none⟩).offset ∧
      (readArgs parseU64 100 rest ⟨100, 0, none⟩).offset < 2 ^ 64) :=
  @readArgs_range parseU64 100 (fun n => 0 ≤ n ∧ n < 2 ^ 64) (fun _ _ => parseU64_range)
    (by decide) (by decide) rest _ ⟨by decide, by decide⟩

theorem schedulerArgs_range (rest : List String) :
    (-2 ^ 63 ≤ (readArgs parseI64 20 rest ⟨20, 0, none⟩).limit ∧
      (readArgs parseI64 20 rest ⟨20, 0, none⟩).limit < 2 ^ 63) ∧
    (-2 ^ 63 ≤ (readArgs parseI64 20 rest ⟨20, 0, none⟩).offset ∧
      (readArgs parseI64 20 rest ⟨20, 0, none⟩).offset < 2 ^ 63) :=
  @readArgs_range parseI64 20 (fun n => -2 ^ 63 ≤ n ∧ n < 2 ^ 63) (fun _ _ => parseI64_range)
    (by decide) (by decide) rest _ ⟨by decide, by decide⟩

theorem exact_deviceListParams (rest : List String) (depth : Nat) :
    (deviceListParams rest).exact (depth + 2) = true := by
  obtain ⟨⟨hl, hl'⟩, ho, ho'⟩ := deviceListArgs_range rest
  simp only [deviceListParams, Json.exact, List.all_cons, List.all_nil, Bool.and_true,
    Bool.and_eq_true, decide_eq_true_eq]
  omega

theorem all_optField {p : String × Json → Bool} {name : String} {value : Option String}
    (h : ∀ v, p (name, .str v) = true) : (optField name value).all p = true := by
  cases value with
  | none => rfl
  | some v => simp [optField, h]

theorem exact_schedulerParams (rest : List String) (depth : Nat) :
    (schedulerParams rest).exact (depth + 2) = true := by
  obtain ⟨⟨hl, hl'⟩, ho, ho'⟩ := schedulerArgs_range rest
  simp only [schedulerParams, Json.exact, List.all_append, List.all_cons, List.all_nil,
    Bool.and_true, Bool.and_eq_true, decide_eq_true_eq]
  exact ⟨all_optField fun v => Json.exact_str v _, by omega, by omega⟩

theorem exact_delegateParams (selector : String) (target : Option String) (depth : Nat) :
    (delegateParams selector target).exact (depth + 2) = true := by
  simp only [delegateParams, Json.exact, List.all_cons, Bool.and_eq_true]
  refine ⟨?_, all_optField fun v => Json.exact_str v _⟩
  split
  next n hn =>
    have hlt := lt_of_parseUnsigned hn
    exact Json.exact_int (by omega) _
  next =>
    split_ifs
    · simp [Json.exact, Json.exact_str]
    · exact Json.exact_str _ _

/-- What the console sends is exact: strings, and numbers of 64 bits. -/
theorem exact_of_commandOf {words : List String} {method : String} {params : Json}
    (h : commandOf words = some (method, params)) (depth : Nat) :
    params.exact (depth + 2) = true := by
  unfold commandOf at h
  split at h
  all_goals cases h
  case h_9 rest => exact exact_deviceListParams _ _
  case h_11 selector rest => exact exact_delegateParams _ _ _
  case h_12 rest => exact exact_schedulerParams _ _
  case h_13 rest => exact exact_schedulerParams _ _
  all_goals simp [Json.exact]

theorem ordered_schedulerParams (rest : List String) :
    (schedulerParams rest).ordered = schedulerParams rest := by
  rw [schedulerParams]
  cases (readArgs parseI64 20 rest ⟨20, 0, none⟩).deviceId with
  | none =>
    exact Json.ordered_obj ["limit", "offset"] rfl (by decide) (by simp [optField, Json.ordered])
  | some d =>
    exact Json.ordered_obj ["device_id", "limit", "offset"] rfl (by decide)
      (by simp [optField, Json.ordered])

theorem ordered_delegateParams (selector : String) (target : Option String) :
    (delegateParams selector target).ordered = delegateParams selector target := by
  have hobj : ∀ name v, name < "target_node_id" → v.ordered = v →
      (Json.obj ((name, v) :: optField "target_node_id" target)).ordered =
        .obj ((name, v) :: optField "target_node_id" target) := by
    intro name v hname hv
    cases target with
    | none =>
      exact Json.ordered_obj [name] rfl (List.pairwise_singleton _ _) (by simp [optField, hv])
    | some t =>
      exact Json.ordered_obj [name, "target_node_id"] rfl (List.pairwise_pair.mpr hname)
        (by simp [optField, hv, Json.ordered])
  rw [delegateParams]
  split
  next n _ => exact hobj _ _ (by decide) rfl
  next =>
    split_ifs
    · refine hobj _ _ (by decide) (congrArg Json.arr ?_)
      rw [Json.orderedItems_eq_map, List.map_map]
      rfl
    · exact hobj _ _ (by decide) rfl

/-- The console lists the parameters in the order of a map. -/
theorem ordered_of_commandOf {words : List String} {method : String} {params : Json}
    (h : commandOf words = some (method, params)) : params.ordered = params := by
  unfold commandOf at h
  split at h
  all_goals cases h
  case h_3 => exact Json.ordered_obj ["key"] rfl (by decide) (by simp [Json.ordered])
  case h_4 | h_5 =>
    exact Json.ordered_obj ["key", "value"] rfl (by decide) (by simp [Json.ordered])
  case h_8 => exact Json.ordered_obj ["seed"] rfl (by decide) (by simp [Json.ordered])
  case h_9 => exact Json.ordered_obj ["limit", "offset"] rfl (by decide) (by simp [Json.ordered])
  case h_10 => exact Json.ordered_obj ["device_id"] rfl (by decide) (by simp [Json.ordered])
  case h_11 => exact ordered_delegateParams _ _
  case h_12 | h_13 => exact ordered_schedulerParams _
  all_goals rfl

theorem fromValue_requestJson {words : List String} {id : Nat} {method : String} {params : Json}
    (h : commandOf words = some (method, params)) :
    JsonRpcRequest.fromValue (requestJson id method params) =
      some ⟨"2.0", method, params, .int id⟩ := by
  simp [JsonRpcRequest.fromValue, requestJson, Json.lookup, Json.asStr, ordered_of_commandOf h,
    Json.ordered]

section Selector
variable {e : Setting} {selector : String} {target : Option String} {snapshot : List Uuid}

/-- The field that says which devices are meant is not hidden by the other one. -/
theorem get_selected {field name : String} {v : Json} (h : name ≠ "target_node_id") :
    (Json.obj ((field, v) :: optField "target_node_id" target)).get name =
      if field = name then some v else none := by
  cases target with
  | none => simp only [Json.get, optField, Json.lookup, Option.map_none, Option.toList_none,
      Option.none_or]
  | some target => simp only [Json.get, optField, Json.lookup, Option.map_some,
      Option.toList_some, if_neg h.symm, Option.none_or]

theorem resolve_count {n : Nat} (h : parseUnsigned (2 ^ 64) selector = some n) :
    resolveDeviceIds e (delegateParams selector target) snapshot =
      if n = 0 then .error (.invalidParams "count must be > 0")
      else if (snapshot.take n).isEmpty then .error (.internal "no owned devices to delegate")
      else .ok (snapshot.take n) := by
  have hcount := Json.asU64_natCast (lt_of_parseUnsigned h)
  rw [resolveDeviceIds, strParam, u64Param, delegateParams, h]
  dsimp only
  rw [get_selected (by decide), get_selected (by decide), get_selected (by decide),
    if_neg (by decide), if_neg (by decide), if_pos rfl, Option.bind_some, hcount]
  rfl

theorem resolve_list (h : parseUnsigned (2 ^ 64) selector = none)
    (hcomma : ',' ∈ selector.toList) :
    resolveDeviceIds e (delegateParams selector target) snapshot = (do
      let ids ← (split ',' selector).mapM fun s => parseUuid e s!"invalid UUID '{s}': " s
      if ids.isEmpty then .error (.invalidParams "device_ids is empty") else return ids) := by
  rw [resolveDeviceIds, delegateParams, h]
  dsimp only
  rw [if_pos hcomma, get_selected (by decide), if_pos rfl, Option.bind_some]
  simp only [Json.asArray, List.mapM_map]
  rfl

theorem resolve_one (h : parseUnsigned (2 ^ 64) selector = none)
    (hcomma : ',' ∉ selector.toList) :
    resolveDeviceIds e (delegateParams selector target) snapshot = (do
      let id ← parseUuid e "invalid device_id UUID: " selector
      return [id]) := by
  rw [resolveDeviceIds, strParam, delegateParams, h]
  dsimp only
  rw [if_neg hcomma, get_selected (by decide), get_selected (by decide), if_neg (by decide),
    if_pos rfl, Option.bind_some]
  rfl

end Selector

section Understood
variable {α β : Type} {e : Setting} {s : Node}

/-- The errors of a request that does not fit the server: it cannot be read, there is no such
method, or a parameter is missing or of another type. -/
def RpcError.malformed : RpcError → Bool
  | json _ | methodNotFound _ => true
  | invalidParams text => decide (text ∈ ["missing 'key'", "missing 'value' (must be a string)",
      "missing 'value'", "missing 'device_id'", "missing 'seed' (expected 'ip:port')",
      "device_ids must be strings", "device_ids is empty",
      "provide 'device_id', 'device_ids', or 'count'"])
  | _ => false

def Understood (result : Except RpcError α) : Prop :=
  ∀ err, result = .error err → err.malformed = false

theorem understood_ok (a : α) : Understood (.ok a : Except RpcError α) := fun _ h => by cases h

theorem understood_error {err : RpcError} (h : err.malformed = false) :
    Understood (.error err : Except RpcError α) := by
  intro err' heq
  cases heq
  exact h

theorem understood_bind {x : Except RpcError α} {f : α → Except RpcError β} (hx : Understood x)
    (hf : ∀ a, x = .ok a → Understood (f a)) : Understood (x >>= f) := by
  cases x with
  | error err => exact understood_error (hx err rfl)
  | ok a => exact hf a rfl

theorem understood_mapM {f : α → Except RpcError β} {xs : List α} (h : ∀ x ∈ xs, Understood (f x)) :
    Understood (xs.mapM f) := by
  induction xs with
  | nil => exact understood_ok _
  | cons x xs ih =>
    rw [List.mapM_cons]
    refine understood_bind (h x List.mem_cons_self) fun _ _ => ?_
    refine understood_bind (ih fun y hy => h y (List.mem_cons_of_mem _ hy)) fun _ _ => ?_
    exact understood_ok _

theorem head_append {a b : String} {ch : Char} (h : a.toList.head? = some ch) :
    (a ++ b).toList.head? = some ch := by
  rw [String.toList_append, List.head?_append, h, Option.some_or]

/-- The texts of the other errors begin with another letter. -/
theorem malformed_of_head {text : String} {ch : Char} (h : text.toList.head? = some ch)
    (hch : ch ∉ ['m', 'd', 'p']) : (RpcError.invalidParams text).malformed = false := by
  refine decide_eq_false fun hmem => hch ?_
  simp only [List.mem_cons, List.not_mem_nil, or_false] at hmem
  obtain rfl | rfl | rfl | rfl | rfl | rfl | rfl | rfl := hmem
  all_goals
    obtain rfl := Option.some.inj h
    decide

theorem understood_parseUuid {note text : String} (h : note.toList.head? = some 'i') :
    Understood (parseUuid e note text) := by
  unfold parseUuid
  split
  next => exact understood_ok _
  next => exact understood_error (malformed_of_head (head_append h) (by decide))

theorem mapM_ne_nil {f : α → Except RpcError β} {xs : List α} {ys : List β}
    (h : xs.mapM f = .ok ys) (hne : xs ≠ []) : ys ≠ [] := by
  cases xs with
  | nil => exact absurd rfl hne
  | cons x xs =>
    rw [List.mapM_cons] at h
    cases hx : f x with
    | error err =>
      rw [hx] at h
      cases h
    | ok y =>
      cases hxs : xs.mapM f with
      | error err =>
        rw [hx, hxs] at h
        cases h
      | ok ys' =>
        rw [hx, hxs] at h
        cases h
        exact List.cons_ne_nil _ _

theorem understood_resolve {selector : String} {target : Option String} {snapshot : List Uuid} :
    Understood (resolveDeviceIds e (delegateParams selector target) snapshot) := by
  cases hn : parseUnsigned (2 ^ 64) selector with
  | some n =>
    rw [resolve_count hn]
    split_ifs
    · exact understood_error (malformed_of_head rfl (by decide))
    · exact understood_error rfl
    · exact understood_ok _
  | none =>
    by_cases hcomma : ',' ∈ selector.toList
    · rw [resolve_list hn hcomma]
      refine understood_bind (understood_mapM fun s _ => understood_parseUuid ?_) fun ids hids => ?_
      · exact head_append (head_append rfl)
      · -- a text with commas has pieces
        have hne : ids ≠ [] := by
          refine mapM_ne_nil hids ?_
          simp [split, List.splitOn_ne_nil]
        rw [if_neg (by simpa using hne)]
        exact understood_ok _
    · rw [resolve_one hn hcomma]
      exact understood_bind (understood_parseUuid rfl) fun _ _ => understood_ok _

theorem understood_target {params : Json} {ml : MembershipList} :
    Understood (Node.delegationTargetParam e params ml) := by
  unfold Node.delegationTargetParam
  split
  next => exact understood_ok _
  next =>
    refine understood_bind (understood_parseUuid rfl) fun id _ => ?_
    split
    next => exact understood_error rfl
    next => exact understood_ok _

theorem understood_delegation {selector : String} {target : Option String} {ml : MembershipList} :
    Understood (s.delegation e (delegateParams selector target) ml) := by
  unfold Node.delegation
  refine understood_bind understood_target fun _ _ => ?_
  refine understood_bind understood_resolve fun _ _ => ?_
  split
  next => exact understood_error rfl
  next =>
    refine understood_bind (understood_mapM fun id _ => ?_) fun _ _ => understood_ok _
    split
    next => exact understood_error rfl
    next => exact understood_ok _

theorem understood_deviceDelegate {selector : String} {target : Option String} :
    Understood (s.deviceDelegate e (delegateParams selector target)).result := by
  unfold Node.deviceDelegate
  split
  next => exact understood_error rfl
  next ml _ =>
    split
    next err herr => exact understood_error (understood_delegation err herr)
    next =>
      split
      next => exact understood_error rfl
      next =>
        split
        next => exact understood_error rfl
        next => exact understood_ok _

theorem understood_deviceInfo {uuid : String} :
    Understood (s.deviceInfo e (.obj [("device_id", .str uuid)])) := by
  unfold Node.deviceInfo
  refine understood_bind (understood_ok uuid) fun text _ => ?_
  refine understood_bind (understood_parseUuid rfl) fun id _ => ?_
  split
  next => exact understood_ok _
  next err _ =>
    refine understood_error ?_
    unfold deviceError
    split_ifs
    · rfl
    · rfl

theorem understood_configGet {key : String} :
    Understood (s.configGet (.obj [("key", .str key)])) := by
  unfold Node.configGet
  refine understood_bind (understood_ok key) fun key' _ => ?_
  split
  next => exact understood_ok _
  next => exact understood_error (malformed_of_head (head_append rfl) (by decide))

theorem understood_configSet {key value : String} :
    Understood (s.configSet e (.obj [("key", .str key), ("value", .str value)])).result := by
  unfold Node.configSet
  split
  next h => cases h
  next =>
    split
    next => exact understood_ok _
    next => exact understood_error rfl

theorem understood_configPropagate {key value : String} :
    Understood (s.configPropagate e (.obj [("key", .str key), ("value", .str value)])).result := by
  unfold Node.configPropagate
  split
  next h => cases h
  next =>
    split
    next => exact understood_error rfl
    next => exact understood_ok _

theorem malformed_requestedSeed {T : AddrText} {seed : String} {sent : Except String Unit}
    {err : RpcError} (h : requestedSeed T true (some seed) sent = .error err) :
    err.malformed = false := by
  rw [requestedSeed, if_pos rfl] at h
  split at h
  next =>
    cases h
    exact malformed_of_head (head_append (head_append rfl)) (by decide)
  next =>
    split at h
    next => cases h
    next =>
      cases h
      rfl

theorem understood_clusterJoin {seed : String} :
    Understood (s.clusterJoin e (.obj [("seed", .str seed)])).result := by
  unfold Node.clusterJoin
  split
  next => exact understood_error rfl
  next ml _ =>
    dsimp only
    split
    next err herr => exact understood_error (malformed_requestedSeed herr)
    next => exact understood_ok _

theorem understood_clusterPeers : Understood (s.clusterPeers e) := by
  unfold Node.clusterPeers
  split
  next => exact understood_error rfl
  next => exact understood_ok _

theorem understood_clusterStatus : Understood (s.clusterStatus e) := by
  unfold Node.clusterStatus
  split
  next => exact understood_error rfl
  next => exact understood_ok _

theorem understood_command {words : List String} {method : String} {params id : Json}
    (h : commandOf words = some (method, params)) :
    Understood (dispatch e s ⟨"2.0", method, params, id⟩).result := by
  unfold commandOf at h
  split at h
  all_goals cases h
  case h_1 => exact understood_ok _
  case h_2 => exact understood_ok _
  case h_3 => exact understood_configGet
  case h_4 => exact understood_configSet
  case h_5 => exact understood_configPropagate
  case h_6 => exact understood_clusterPeers
  case h_7 => exact understood_clusterStatus
  case h_8 => exact understood_clusterJoin
  case h_9 => exact understood_ok _
  case h_10 => exact understood_deviceInfo
  case h_11 => exact understood_deviceDelegate
  case h_12 => exact understood_ok _
  case h_13 => exact understood_ok _

/-- The console and the server agree on the methods and on the names and types of their
parameters: if the console takes a line for a command, the server reads the request, and its
answer is none of the errors of a request that does not fit. -/
theorem parseCommand_understood {line : String} {id : Nat} {v : Json}
    (h : parseCommand line id = some v) :
    ∃ req, JsonRpcRequest.fromValue v = some req ∧ req.id = .int id ∧
      ∀ e s, Understood (dispatch e s req).result := by
  obtain ⟨⟨method, params⟩, hcommand, rfl⟩ := Option.map_eq_some_iff.mp h
  exact ⟨_, fromValue_requestJson hcommand, rfl, fun e s => understood_command hcommand⟩

theorem parseCommand_understood_join :
    ∃ v, parseCommand "cluster  join 10.0.0.2:6570" 3 = some v ∧
      ∃ req, JsonRpcRequest.fromValue v = some req ∧ req.id = .int 3 ∧
        ∀ e s, Understood (dispatch e s req).result := by
  obtain ⟨v, hv⟩ : ∃ v, parseCommand "cluster  join 10.0.0.2:6570" 3 = some v := ⟨_, rfl⟩
  exact ⟨v, hv, parseCommand_understood hv⟩

end Understood

section Words
variable {d : Uuid} {ch : Char}

theorem digitChar_plain {k : Nat} (h : k < 16) :
    isWhite (Nat.digitChar k) = false ∧ Nat.digitChar k ≠ ',' := by
  decide +revert

theorem mem_uuidText (h : ch ∈ (uuidText d).toList) : isWhite ch = false ∧ ch ≠ ',' := by
  have hdigits : ∀ start stop, ch ∈ (hexDigits d start stop).toList →
      isWhite ch = false ∧ ch ≠ ',' := by
    intro start stop hmem
    rw [hexDigits, String.toList_ofList] at hmem
    obtain ⟨i, -, rfl⟩ := List.mem_map.mp hmem
    exact digitChar_plain (Nat.mod_lt _ (by decide))
  have hdash : isWhite '-' = false ∧ '-' ≠ ',' := by decide
  simp only [toList_uuidText, List.mem_append, List.mem_cons] at h
  obtain h | rfl | h | rfl | h | rfl | h | rfl | h := h
  · exact hdigits _ _ h
  · exact hdash
  · exact hdigits _ _ h
  · exact hdash
  · exact hdigits _ _ h
  · exact hdash
  · exact hdigits _ _ h
  · exact hdash
  · exact hdigits _ _ h

theorem dash_mem_uuidText (d : Uuid) : '-' ∈ (uuidText d).toList := by
  rw [toList_uuidText]
  simp

theorem parseUnsigned_of_mem {bound : Nat} {text : String} (h : ch ∈ text.toList)
    (hdigit : ch.isDigit = false) (hplus : ch ≠ '+') : parseUnsigned bound text = none := by
  have hall : ∀ digits : List Char, ch ∈ digits → digits.all Char.isDigit = false := by
    intro digits hmem
    rw [List.all_eq_false]
    exact ⟨ch, hmem, by simp [hdigit]⟩
  unfold parseUnsigned
  dsimp only
  split
  next rest hrest =>
    rw [hrest] at h
    rw [hall rest (List.mem_of_ne_of_mem hplus h)]
    simp
  next =>
    rw [hall _ h]
    simp

theorem words_delegate {selector : String} (hne : selector ≠ "")
    (h : ∀ ch ∈ selector.toList, isWhite ch = false) :
    words ("device delegate " ++ selector) = ["device", "delegate", selector] := by
  have hline : "device delegate " ++ selector =
      String.intercalate (String.singleton ' ') ["device", "delegate", selector] := by
    rw [String.intercalate_cons_cons, String.intercalate_cons_cons]
    simp [← String.toList_inj]
  rw [hline]
  refine words_intercalate (by decide) fun x hx => ?_
  simp only [List.mem_cons, List.not_mem_nil, or_false] at hx
  obtain rfl | rfl | rfl := hx
  · exact ⟨by decide, by simp [isWhite]⟩
  · exact ⟨by decide, by simp [isWhite]⟩
  · exact ⟨hne, h⟩

theorem exists_parseStr_digits {digits : List Char} (hlen : digits.length = 32)
    (h : ∀ ch ∈ digits, ch.isDigit = true) : ∃ d, parseStr (String.ofList digits) = some d := by
  have hvalues : ∀ digits : List Char, (∀ ch ∈ digits, ch.isDigit = true) →
      ∃ values, digits.mapM hexValue = some values := by
    intro digits h
    induction digits with
    | nil => exact ⟨[], rfl⟩
    | cons ch digits ih =>
      obtain ⟨values, hrest⟩ := ih fun c hc => h c (List.mem_cons_of_mem _ hc)
      have hch : '0' ≤ ch ∧ ch ≤ '9' := by
        simpa [Char.isDigit, Char.le_def] using h ch List.mem_cons_self
      refine ⟨(ch.toNat - 48) :: values, ?_⟩
      rw [List.mapM_cons, hexValue, if_pos hch, hrest]
      rfl
  obtain ⟨values, hvalues⟩ := hvalues digits h
  refine ⟨BitVec.ofNat 128 (ofDigits 16 values), ?_⟩
  rw [parseStr, String.toList_ofList, if_pos hlen, parseSimple, hvalues]
  rfl

end Words

/-- The devices that a line asks to be delegated, if it is such a command. -/
def selected (e : Setting) (snapshot : List Uuid) (line : String) :
    Option (Except RpcError (List Uuid)) :=
  (commandOf (words line)).bind fun command =>
    if command.1 = "device.delegate" then some (resolveDeviceIds e command.2 snapshot) else none

section Selected
variable {e : Setting} {snapshot : List Uuid} {selector : String}

theorem selected_delegate (hne : selector ≠ "") (h : ∀ ch ∈ selector.toList, isWhite ch = false) :
    selected e snapshot ("device delegate " ++ selector) =
      some (resolveDeviceIds e (delegateParams selector none) snapshot) := by
  rw [selected, words_delegate hne h]
  rfl

theorem selected_count {n : Nat} (hne : selector ≠ "")
    (h : ∀ ch ∈ selector.toList, isWhite ch = false)
    (hparse : parseUnsigned (2 ^ 64) selector = some n) (hn : 0 < n) (hsnapshot : snapshot ≠ []) :
    selected e snapshot ("device delegate " ++ selector) = some (.ok (snapshot.take n)) := by
  have htake : (snapshot.take n).isEmpty = false := by
    rw [List.isEmpty_eq_false_iff, Ne, List.take_eq_nil_iff]
    exact fun hnil => hnil.elim (Nat.ne_of_gt hn) hsnapshot
  rw [selected_delegate hne h, resolve_count hparse, if_neg (Nat.ne_of_gt hn), htake]
  rfl

theorem uuidText_ne_empty (d : Uuid) : uuidText d ≠ "" := by
  intro hempty
  have hdash := dash_mem_uuidText d
  rw [hempty] at hdash
  cases hdash

theorem selected_one (d : Uuid) :
    selected e snapshot ("device delegate " ++ uuidText d) = some (.ok [d]) := by
  rw [selected_delegate (uuidText_ne_empty d) fun ch hch => (mem_uuidText hch).1,
    resolve_one (parseUnsigned_of_mem (dash_mem_uuidText d) (by decide) (by decide))
      fun hcomma => (mem_uuidText hcomma).2 rfl, parseUuid, parseStr_uuidText]
  rfl

theorem mem_uuidList {ds : List Uuid} {ch : Char}
    (h : ch ∈ (String.intercalate (String.singleton ',') (ds.map uuidText)).toList) :
    isWhite ch = false := by
  induction ds with
  | nil => cases h
  | cons d ds ih =>
    cases ds with
    | nil => exact (mem_uuidText (by simpa using h)).1
    | cons d' ds =>
      rw [List.map_cons, List.map_cons, String.intercalate_cons_cons, String.toList_append,
        String.toList_append, String.toList_singleton, List.mem_append, List.mem_append,
        List.mem_singleton] at h
      obtain (h | rfl) | h := h
      · exact (mem_uuidText h).1
      · decide
      · exact ih h

theorem mapM_parseUuid (note : String → String) (ds : List Uuid) :
    ((ds.map uuidText).mapM fun s => parseUuid e (note s) s) = .ok ds := by
  induction ds with
  | nil => rfl
  | cons d ds ih =>
    have hd : parseUuid e (note (uuidText d)) (uuidText d) = .ok d := by
      rw [parseUuid, parseStr_uuidText]
    rw [List.map_cons, List.mapM_cons, hd, ih]
    rfl

theorem selected_list {ds : List Uuid} (hds : 2 ≤ ds.length) :
    selected e snapshot
      ("device delegate " ++ String.intercalate (String.singleton ',') (ds.map uuidText)) =
        some (.ok ds) := by
  have hne : ds ≠ [] := List.ne_nil_of_length_pos (Nat.lt_of_lt_of_le (by decide) hds)
  have hcomma :
      ',' ∈ (String.intercalate (String.singleton ',') (ds.map uuidText)).toList := by
    match ds, hds with
    | d :: d' :: ds, _ => simp [String.intercalate_cons_cons]
  have hempty : String.intercalate (String.singleton ',') (ds.map uuidText) ≠ "" := by
    intro hempty
    rw [hempty] at hcomma
    cases hcomma
  have hsplit : split ',' (String.intercalate (String.singleton ',') (ds.map uuidText)) =
      ds.map uuidText := by
    refine split_intercalate (by simpa using hne) fun x hx hmem => ?_
    obtain ⟨d, -, rfl⟩ := List.mem_map.mp hx
    exact (mem_uuidText hmem).2 rfl
  rw [selected_delegate hempty fun ch hch => mem_uuidList hch,
    resolve_list (parseUnsigned_of_mem hcomma (by decide) (by decide)) hcomma, hsplit,
    mapM_parseUuid fun s => s!"invalid UUID '{s}': "]
  simp only [bind, Except.bind, List.isEmpty_eq_false_iff.mpr hne]
  rfl

/-- What is selected for a delegation: the device whose id is typed, the devices of a list, or
as many devices as are typed. But an id without hyphens, if its digits are decimal ones and it
begins with enough zeros, is a number as well, and then it counts as that. -/
theorem delegate_selector (hsnapshot : snapshot ≠ []) :
    (∀ d, selected e snapshot ("device delegate " ++ uuidText d) = some (.ok [d])) ∧
    (∀ ds : List Uuid, 2 ≤ ds.length → selected e snapshot
      ("device delegate " ++ String.intercalate (String.singleton ',') (ds.map uuidText)) =
        some (.ok ds)) ∧
    (∀ n, 0 < n → n < 2 ^ 64 → selected e snapshot ("device delegate " ++ toString n) =
      some (.ok (snapshot.take n))) ∧
    ∀ digits : List Char, digits.length = 32 → (∀ ch ∈ digits, ch.isDigit = true) →
      0 < ofDigits 10 (digits.map fun ch => ch.toNat - 48) →
      ofDigits 10 (digits.map fun ch => ch.toNat - 48) < 2 ^ 64 →
      (∃ d, parseStr (String.ofList digits) = some d) ∧
        selected e snapshot ("device delegate " ++ String.ofList digits) =
          some (.ok (snapshot.take (ofDigits 10 (digits.map fun ch => ch.toNat - 48)))) := by
  have hword : ∀ digits : List Char, digits ≠ [] → (∀ ch ∈ digits, ch.isDigit = true) →
      String.ofList digits ≠ "" ∧ ∀ ch ∈ (String.ofList digits).toList, isWhite ch = false := by
    intro digits hne hdigits
    refine ⟨fun hempty => hne ?_, fun ch hch => ?_⟩
    · simpa using congrArg String.toList hempty
    · exact isWhite_of_isDigit (hdigits ch (by simpa using hch))
  refine ⟨fun d => selected_one d, fun ds hds => selected_list hds, fun n hn hlt => ?_,
    fun digits hlen hdigits hpos hlt => ?_⟩
  · have htext : toString n = String.ofList (Nat.toDigits 10 n) := Nat.toString_eq_ofList_toDigits
    obtain ⟨hne, hwhite⟩ := hword (Nat.toDigits 10 n) Nat.toDigits_ne_nil
      fun ch hch => Nat.isDigit_of_mem_toDigits (by decide) (by decide) hch
    rw [← htext] at hne hwhite
    exact selected_count hne hwhite (parseUnsigned_toString hlt) hn hsnapshot
  · have hnonempty : digits ≠ [] := List.ne_nil_of_length_pos (by omega)
    obtain ⟨hne, hwhite⟩ := hword digits hnonempty hdigits
    have hparse := @parseUnsigned_digits (2 ^ 64) digits hdigits hnonempty
    rw [if_pos hlt] at hparse
    exact ⟨exists_parseStr_digits hlen hdigits,
      selected_count hne hwhite hparse hpos hsnapshot⟩

end Selected

theorem delegate_selector_zeros :
    (∃ d, parseStr (String.ofList (List.replicate 31 '0' ++ ['1'])) = some d) ∧
      selected calmSetting [9, 10]
        ("device delegate " ++ String.ofList (List.replicate 31 '0' ++ ['1'])) =
          some (.ok [9]) := by
  have hdigits : (List.replicate 31 '0' ++ ['1']).all Char.isDigit = true := rfl
  exact (delegate_selector (by decide)).2.2.2 _ rfl (List.all_eq_true.mp hdigits) (by decide)
    (by decide)

end HeadEnd.Rpc
