import Kdbus.Endpoint

/-!
# The life of an endpoint

`kdbus_ep_new` checks a custom endpoint's name, allocates the endpoint, sets up its node,
draws the endpoint's id from the bus's counter `ep_seq_last`, links the node under the bus's,
and for a custom endpoint creates the user its transactions are accounted on.  When the node
goes away, `kdbus_ep_release` disconnects the endpoint's connections one by one, and
`kdbus_ep_free` checks with `BUG_ON` that none is left.  The functions these call in
`names.c`, `node.c`, `connection.c`, `policy.c` and `domain.c` are not part of this excerpt:
what they return is an input (`EpNewEnv`, the `disconnect` of `kdbusEpRelease`).  The reference
counts of `node.c` are not modelled.

* **`runEpNew_ids`** — over any sequence of endpoint creations on one bus, whatever fails,
  the endpoints created have strictly increasing ids, all above the counter's start, and the
  counter advances once for each call that got as far as the allocation: a rejected name or a
  failed allocation draws no id, a failed link or user lookup burns one.
* **`kdbusEpNew_custom_narrows`** — a custom endpoint allows `TALK` and `OWN` only where a
  default endpoint of the same bus does, whatever database it is later given.
* **`kdbusEpRelease_drains`** — as long as a disconnect takes its connection off the list,
  releasing an endpoint ends, disconnects its connections once each in list order and leaves
  the list empty, so freeing it does not hit the `BUG_ON`.
-/

namespace Kdbus

/-! ## The model -/

/-- `KDBUS_MAKE_ACCESS_GROUP`. -/
def kdbusMakeAccessGroup : Nat := 1 <<< 0

/-- `KDBUS_MAKE_ACCESS_WORLD`. -/
def kdbusMakeAccessWorld : Nat := 1 <<< 1

/-- `S_IRUSR`. -/
def sIrusr : Nat := 0o400

/-- `S_IWUSR`. -/
def sIwusr : Nat := 0o200

/-- `S_IRGRP`. -/
def sIrgrp : Nat := 0o40

/-- `S_IWGRP`. -/
def sIwgrp : Nat := 0o20

/-- `S_IROTH`. -/
def sIroth : Nat := 0o4

/-- `S_IWOTH`. -/
def sIwoth : Nat := 0o2

/-- `struct kdbus_node`, as far as `kdbus_ep_new` sets it: its owner and its mode. -/
structure KdbusNode where
  uid : Nat
  gid : Nat
  mode : Nat
deriving DecidableEq

/-- `struct kdbus_ep` as `kdbus_ep_new` sets it up: the fields the checks read, the node, the
endpoint's id on the bus, the user its transactions are accounted on (`NULL` on a bus's default
endpoint) and its connections. -/
structure KdbusEpObj extends KdbusEp where
  node : KdbusNode
  id : Nat
  user : Option Nat
  connList : List KdbusConn

/-- What the functions `kdbus_ep_new` calls outside this excerpt return. -/
structure EpNewEnv where
  /-- `kdbus_verify_uid_prefix(name, bus->domain->user_namespace, uid)`. -/
  verifyUidPrefix : Int
  /-- Whether `kzalloc(sizeof(*e), GFP_KERNEL)` fails. -/
  kzallocFails : Bool
  /-- The database `kdbus_policy_db_init` sets up. -/
  policyDbInit : KdbusPolicyDb
  /-- `kdbus_node_link(&e->node, &bus->node, name)`. -/
  nodeLink : Int
  /-- `kdbus_domain_get_user(bus->domain, INVALID_UID)`: a user, or `ERR_PTR(err)`. -/
  domainGetUser : Except Int Nat
  /-- `IS_ERR` holds of a pointer exactly when it carries a negative errno. -/
  domainGetUser_neg : ∀ err, domainGetUser = .error err → err < 0

/-- The mode `kdbus_ep_new` gives the endpoint's node for the `KDBUS_MAKE_ACCESS_*` flags. -/
def kdbusEpNodeMode (access : Nat) : Nat :=
  let mode := sIrusr ||| sIwusr
  let mode := if access &&& (kdbusMakeAccessGroup ||| kdbusMakeAccessWorld) ≠ 0 then
    mode ||| sIrgrp ||| sIwgrp else mode
  if access &&& kdbusMakeAccessWorld ≠ 0 then mode ||| sIroth ||| sIwoth else mode

/-- The endpoint as `kdbus_ep_new` has set it up when it links the node, with id `id`. -/
def kdbusEpNewInit (env : EpNewEnv) (bus : KdbusBus) (id access uid gid : Nat)
    (isCustom : Bool) : KdbusEpObj :=
  { hasPolicy := isCustom, policyDb := env.policyDbInit, bus := bus,
    node := ⟨uid, gid, kdbusEpNodeMode access⟩, id := id, user := none, connList := [] }

/-- `kdbus_ep_new(bus, name, access, uid, gid, is_custom)` with `bus->ep_seq_last` at
`epSeqLast`: the endpoint or `ERR_PTR(ret)`, and the counter after the call.  The name is read
only by the functions whose results `env` holds.  `atomic64_inc_return` wraps at `2 ^ 64`. -/
def kdbusEpNew (env : EpNewEnv) (bus : KdbusBus) (epSeqLast : Nat) (access uid gid : Nat)
    (isCustom : Bool) : Except Int KdbusEpObj × Nat :=
  if isCustom ∧ env.verifyUidPrefix < 0 then (.error env.verifyUidPrefix, epSeqLast)
  else if env.kzallocFails then (.error (-enomem), epSeqLast)
  else
    let id := (epSeqLast + 1) % 2 ^ 64
    let e := kdbusEpNewInit env bus id access uid gid isCustom
    if env.nodeLink < 0 then (.error env.nodeLink, id)
    else if isCustom then
      match env.domainGetUser with
      | .error err => (.error err, id)
      | .ok user => (.ok { e with user := some user }, id)
    else (.ok e, id)

/-- Whether a call gets past the name check and the allocation, and so draws an id. -/
def EpNewEnv.allocates (env : EpNewEnv) (isCustom : Bool) : Bool :=
  !(isCustom && decide (env.verifyUidPrefix < 0)) && !env.kzallocFails

/-- One call of `kdbus_ep_new` on a bus: what the functions it calls return, and its
arguments. -/
structure EpNewCall where
  env : EpNewEnv
  access : Nat
  uid : Nat
  gid : Nat
  isCustom : Bool

/-- Calls of `kdbus_ep_new` on one bus, one after another from `ep_seq_last = epSeqLast`: each
call's result, and the counter after the last.  The counter is atomic, so concurrent calls
behave as some such sequence. -/
def runEpNew (bus : KdbusBus) : Nat → List EpNewCall → List (Except Int KdbusEpObj) × Nat
  | epSeqLast, [] => ([], epSeqLast)
  | epSeqLast, c :: calls =>
    let r := kdbusEpNew c.env bus epSeqLast c.access c.uid c.gid c.isCustom
    let rs := runEpNew bus r.2 calls
    (r.1 :: rs.1, rs.2)

/-! ## One call -/

section Step

variable {env : EpNewEnv} {bus : KdbusBus} {seq access uid gid : Nat} {isCustom : Bool}

/-- A call draws the next id exactly when it allocates. -/
lemma kdbusEpNew_snd :
    (kdbusEpNew env bus seq access uid gid isCustom).2 =
      if env.allocates isCustom then (seq + 1) % 2 ^ 64 else seq := by
  unfold kdbusEpNew EpNewEnv.allocates
  cases isCustom <;> cases env.kzallocFails <;> by_cases hv : env.verifyUidPrefix < 0 <;>
    simp [hv] <;> split_ifs <;> (try split) <;> rfl

/-- **Everything one call can do**: fail the name check of a custom endpoint, fail the
allocation, or, having drawn its id, fail to link, or end as the user lookup does for a
custom endpoint, or succeed for a default one. -/
lemma kdbusEpNew_cases :
    (isCustom = true ∧ env.verifyUidPrefix < 0 ∧
        (kdbusEpNew env bus seq access uid gid isCustom).1 = .error env.verifyUidPrefix) ∨
    (¬(isCustom = true ∧ env.verifyUidPrefix < 0) ∧ env.kzallocFails = true ∧
        (kdbusEpNew env bus seq access uid gid isCustom).1 = .error (-enomem)) ∨
    (env.allocates isCustom ∧ env.nodeLink < 0 ∧
        (kdbusEpNew env bus seq access uid gid isCustom).1 = .error env.nodeLink) ∨
    (env.allocates isCustom ∧ 0 ≤ env.nodeLink ∧ isCustom = true ∧
        (kdbusEpNew env bus seq access uid gid isCustom).1 = env.domainGetUser.map fun user =>
          { kdbusEpNewInit env bus ((seq + 1) % 2 ^ 64) access uid gid isCustom with
            user := some user }) ∨
    (env.allocates isCustom ∧ 0 ≤ env.nodeLink ∧ isCustom = false ∧
        (kdbusEpNew env bus seq access uid gid isCustom).1 =
          .ok (kdbusEpNewInit env bus ((seq + 1) % 2 ^ 64) access uid gid isCustom)) := by
  have hal : ¬(isCustom = true ∧ env.verifyUidPrefix < 0) → env.kzallocFails = false →
      env.allocates isCustom := fun h₁ h₂ => by cases isCustom <;> simp_all [EpNewEnv.allocates]
  unfold kdbusEpNew
  split_ifs with h₁ h₂ h₃ h₄
  · exact .inl ⟨h₁.1, h₁.2, rfl⟩
  · exact .inr (.inl ⟨h₁, h₂, rfl⟩)
  · exact .inr (.inr (.inl ⟨hal h₁ (by simpa using h₂), h₃, rfl⟩))
  · refine .inr (.inr (.inr (.inl ⟨hal h₁ (by simpa using h₂), not_lt.mp h₃, h₄, ?_⟩)))
    split <;> simp_all [Except.map]
  · exact .inr (.inr (.inr (.inr ⟨hal h₁ (by simpa using h₂), not_lt.mp h₃,
      by simpa using h₄, rfl⟩)))

/-- An endpoint a call creates is the one it set up, with a user exactly when it is custom. -/
lemma kdbusEpNew_ok {e : KdbusEpObj}
    (h : (kdbusEpNew env bus seq access uid gid isCustom).1 = .ok e) :
    env.allocates isCustom ∧ ∃ user : Option Nat, user.isSome = isCustom ∧
      e = { kdbusEpNewInit env bus ((seq + 1) % 2 ^ 64) access uid gid isCustom with user } := by
  rcases @kdbusEpNew_cases env bus seq access uid gid isCustom with
    ⟨-, -, h'⟩ | ⟨-, -, h'⟩ | ⟨-, -, h'⟩ | ⟨ha, -, hc, h'⟩ | ⟨ha, -, hc, h'⟩ <;>
    rw [h'] at h
  · cases h
  · cases h
  · cases h
  · -- a custom endpoint takes the user the lookup returned
    cases hu : env.domainGetUser <;> simp only [hu, Except.map] at h <;> cases h
    exact ⟨ha, _, by simp [hc], rfl⟩
  · cases h
    exact ⟨ha, none, by simp [hc], rfl⟩

/-- **One call on the counter**, when it does not wrap: the counter advances by one exactly
when the call allocates, and an endpoint the call creates carries the new value. -/
lemma kdbusEpNew_step (hlt : seq + 1 < 2 ^ 64) :
    (kdbusEpNew env bus seq access uid gid isCustom).2 =
        seq + (if env.allocates isCustom then 1 else 0) ∧
      ∀ e, (kdbusEpNew env bus seq access uid gid isCustom).1 = .ok e →
        e.id = seq + 1 ∧ (kdbusEpNew env bus seq access uid gid isCustom).2 = seq + 1 := by
  rw [kdbusEpNew_snd, Nat.mod_eq_of_lt hlt]
  refine ⟨by split <;> rfl, fun e he => ?_⟩
  obtain ⟨ha, -, -, rfl⟩ := kdbusEpNew_ok he
  exact ⟨Nat.mod_eq_of_lt hlt, if_pos ha⟩

end Step

/-! ## Custom endpoints narrow the bus -/

/-- **A custom endpoint allows only what a default endpoint of its bus allows.**  Take a custom
endpoint and a default endpoint that `kdbus_ep_new` created on the same bus, and whatever
database `kdbus_ep_policy_set` later puts into the custom one.  The custom endpoint allows
`TALK` exactly when its database does not deny it and the default endpoint allows it, and the
same holds for `OWN`. -/
theorem kdbusEpNew_custom_narrows (env env' : EpNewEnv) (bus : KdbusBus)
    (seq seq' access access' uid uid' gid gid' : Nat) {c d : KdbusEpObj}
    (hc : (kdbusEpNew env bus seq access uid gid true).1 = .ok c)
    (hd : (kdbusEpNew env' bus seq' access' uid' gid' false).1 = .ok d)
    (db : KdbusPolicyDb) (connSrc connDst conn : KdbusConn) (name : CString) :
    (kdbusEpPolicyCheckTalkAccess { c.toKdbusEp with policyDb := db } connSrc connDst = 0 ↔
      0 ≤ db.checkTalkAccess connSrc connDst ∧
        kdbusEpPolicyCheckTalkAccess d.toKdbusEp connSrc connDst = 0) ∧
    (kdbusEpPolicyCheckOwnAccess { c.toKdbusEp with policyDb := db } conn name = 0 ↔
      0 ≤ db.checkOwnAccess conn.cred name ∧
        kdbusEpPolicyCheckOwnAccess d.toKdbusEp conn name = 0) := by
  obtain ⟨-, _, -, rfl⟩ := kdbusEpNew_ok hc
  obtain ⟨-, _, -, rfl⟩ := kdbusEpNew_ok hd
  -- without its database, the custom endpoint checks what the default one does
  have h := kdbusEpPolicyCheck_narrows { (kdbusEpNewInit env bus ((seq + 1) % 2 ^ 64) access uid
    gid true).toKdbusEp with policyDb := db } connSrc connDst conn name
  exact ⟨h.1.trans (and_congr (imp_iff_right rfl) Iff.rfl),
    h.2.trans (and_congr (imp_iff_right rfl) Iff.rfl)⟩

/-- A custom and a default endpoint on one bus, the custom one later given a database that
denies everything. -/
theorem kdbusEpNew_custom_narrows_denying_db :
    let db : KdbusPolicyDb := ⟨fun _ _ => 0, fun _ _ => 0, fun _ _ => 0⟩
    let env : EpNewEnv := ⟨0, false, db, 0, .ok 7, fun _ h => (by cases h)⟩
    let deny : KdbusPolicyDb := ⟨fun _ _ => -1, fun _ _ => -1, fun _ _ => -1⟩
    let conn : KdbusConn := ⟨⟨0, 0, 0⟩, false, []⟩
    let name : CString := ⟨[97], by decide⟩
    ∃ c d, (kdbusEpNew env ⟨db⟩ 0 0 0 0 true).1 = .ok c ∧
      (kdbusEpNew env ⟨db⟩ 1 0 0 0 false).1 = .ok d ∧
      (kdbusEpPolicyCheckTalkAccess { c.toKdbusEp with policyDb := deny } conn conn = 0 ↔
        0 ≤ deny.checkTalkAccess conn conn ∧
          kdbusEpPolicyCheckTalkAccess d.toKdbusEp conn conn = 0) ∧
      (kdbusEpPolicyCheckOwnAccess { c.toKdbusEp with policyDb := deny } conn name = 0 ↔
        0 ≤ deny.checkOwnAccess conn.cred name ∧
          kdbusEpPolicyCheckOwnAccess d.toKdbusEp conn name = 0) := by
  intro db env deny conn name
  exact ⟨_, _, rfl, rfl,
    kdbusEpNew_custom_narrows env env ⟨db⟩ 0 1 0 0 0 0 0 0 rfl rfl deny conn conn conn name⟩

/-! ## Endpoint ids -/

/-- **Endpoint ids are unique on a bus.**  Run any calls of `kdbus_ep_new` on one bus from
`ep_seq_last = seq`, whatever their arguments and whatever fails, as long as the counter does
not wrap.  The counter ends advanced once for each call that got past the name check and the
allocation; the endpoints created have strictly increasing ids, in the order they were created;
and each id lies above `seq` and at most at the final counter.  So a rejected name or a failed
allocation draws no id, while a failed link or user lookup burns one. -/
theorem runEpNew_ids (bus : KdbusBus) (seq : Nat) (calls : List EpNewCall)
    (h : seq + calls.length < 2 ^ 64) :
    (runEpNew bus seq calls).2 = seq + (calls.filter fun c => c.env.allocates c.isCustom).length ∧
    (((runEpNew bus seq calls).1.filterMap Except.toOption).map (·.id)).Pairwise (· < ·) ∧
    ∀ e ∈ (runEpNew bus seq calls).1.filterMap Except.toOption,
      seq < e.id ∧ e.id ≤ (runEpNew bus seq calls).2 := by
  induction calls generalizing seq with
  | nil => simp [runEpNew]
  | cons c calls ih =>
    simp only [List.length_cons] at h
    obtain ⟨hs, hid⟩ := @kdbusEpNew_step c.env bus seq c.access c.uid c.gid c.isCustom (by omega)
    obtain ⟨ih₁, ih₂, ih₃⟩ := ih (kdbusEpNew c.env bus seq c.access c.uid c.gid c.isCustom).2
      (by rw [hs]; split <;> omega)
    have hf : (List.filter (fun c => c.env.allocates c.isCustom) (c :: calls)).length =
        (if c.env.allocates c.isCustom then 1 else 0) +
          (calls.filter fun c => c.env.allocates c.isCustom).length := by
      rw [List.filter_cons]; split <;> simp [*, Nat.add_comm]
    simp only [runEpNew]
    refine ⟨by rw [ih₁, hf, hs]; omega, ?_⟩
    cases hr : (kdbusEpNew c.env bus seq c.access c.uid c.gid c.isCustom).1 with
    | error err =>
      -- a failed call adds no endpoint
      simp only [List.filterMap_cons, Except.toOption]
      exact ⟨ih₂, fun e he => ⟨by have := (ih₃ e he).1; omega, (ih₃ e he).2⟩⟩
    | ok e₀ =>
      -- the new endpoint's id is below every later one
      obtain ⟨h₁, h₂⟩ := hid e₀ hr
      simp only [List.filterMap_cons, Except.toOption, List.map_cons, List.pairwise_cons,
        List.mem_map, List.mem_cons, forall_eq_or_imp]
      refine ⟨⟨fun _ ⟨e', he', hid'⟩ => ?_, ih₂⟩, ⟨by omega, ?_⟩, fun e he => ?_⟩
      · rw [← hid', h₁, ← h₂]; exact (ih₃ e' he').1
      · rw [h₁, ih₁, h₂]; omega
      · have := (ih₃ e he).1; exact ⟨by omega, (ih₃ e he).2⟩

/-- Four calls on a fresh bus: a default endpoint, a custom one whose name is rejected, a
custom one whose link fails, and a custom one that is created. -/
theorem runEpNew_ids_four :
    let db : KdbusPolicyDb := ⟨fun _ _ => 0, fun _ _ => 0, fun _ _ => 0⟩
    let env : EpNewEnv := ⟨0, false, db, 0, .ok 7, fun _ h => (by cases h)⟩
    let calls : List EpNewCall :=
      [⟨env, 0, 0, 0, false⟩, ⟨{ env with verifyUidPrefix := -1 }, 0, 0, 0, true⟩,
        ⟨{ env with nodeLink := -17 }, 0, 0, 0, true⟩, ⟨env, 1, 0, 0, true⟩]
    0 + calls.length < 2 ^ 64 ∧
    (runEpNew ⟨db⟩ 0 calls).2 =
      0 + (calls.filter fun c => c.env.allocates c.isCustom).length ∧
    (((runEpNew ⟨db⟩ 0 calls).1.filterMap Except.toOption).map (·.id)).Pairwise (· < ·) ∧
    ∀ e ∈ (runEpNew ⟨db⟩ 0 calls).1.filterMap Except.toOption,
      0 < e.id ∧ e.id ≤ (runEpNew ⟨db⟩ 0 calls).2 := by
  intro db env calls
  exact ⟨by decide, runEpNew_ids ⟨db⟩ 0 calls (by decide)⟩

/-- In that run the rejected name draws no id and the failed link burns id `2`. -/
example :
    let db : KdbusPolicyDb := ⟨fun _ _ => 0, fun _ _ => 0, fun _ _ => 0⟩
    let env : EpNewEnv := ⟨0, false, db, 0, .ok 7, fun _ h => (by cases h)⟩
    (((runEpNew ⟨db⟩ 0
        [⟨env, 0, 0, 0, false⟩, ⟨{ env with verifyUidPrefix := -1 }, 0, 0, 0, true⟩,
          ⟨{ env with nodeLink := -17 }, 0, 0, 0, true⟩, ⟨env, 1, 0, 0, true⟩]).1.filterMap
        Except.toOption).map (·.id)) = [1, 3] := rfl

/-! ## Releasing an endpoint -/

/-- The loop of `kdbus_ep_release`, for at most `fuel` rounds: under `ep->lock` take the first
connection of `ep->conn_list`; if there is none, stop; otherwise take a reference, drop the
lock and disconnect it.  `kdbus_conn_disconnect` is in `connection.c`: `disconnect conn list`
is what is left of the list, read again under the lock.  The connections disconnected, in
order, and the list the loop stopped at; `none` when the fuel runs out. -/
def kdbusEpReleaseLoop (disconnect : KdbusConn → List KdbusConn → List KdbusConn) :
    Nat → List KdbusConn → Option (List KdbusConn × List KdbusConn)
  | 0, _ => none
  | _ + 1, [] => some ([], [])
  | fuel + 1, conn :: conns =>
    (kdbusEpReleaseLoop disconnect fuel (disconnect conn (conn :: conns))).map
      fun (done, rest) => (conn :: done, rest)

/-- `kdbus_ep_release(&ep->node, was_active)`: the connections disconnected and the endpoint
after the loop. -/
def kdbusEpRelease (disconnect : KdbusConn → List KdbusConn → List KdbusConn) (fuel : Nat)
    (ep : KdbusEpObj) : Option (List KdbusConn × KdbusEpObj) :=
  (kdbusEpReleaseLoop disconnect fuel ep.connList).map
    fun (done, rest) => (done, { ep with connList := rest })

/-- `kdbus_ep_free(&ep->node)`: `BUG_ON(!list_empty(&ep->conn_list))` stops the kernel
(`none`); what follows releases the database, the bus and the user in `policy.c`, `bus.c` and
`domain.c`. -/
def kdbusEpFree (ep : KdbusEpObj) : Option Unit :=
  if ep.connList ≠ [] then none else some ()

section Release

variable {disconnect : KdbusConn → List KdbusConn → List KdbusConn}

/-- **The drain loop ends with the list empty.**  When each disconnect takes its connection off
the list and adds none, a loop with more rounds than connections stops at the empty list, having
disconnected a sublist of the connections, in order; all of them when each disconnect takes off
its own connection only. -/
lemma kdbusEpReleaseLoop_drains
    (hd : ∀ conn conns, (disconnect conn (conn :: conns)).Sublist conns) :
    ∀ fuel (conns : List KdbusConn), conns.length < fuel →
      ∃ done, kdbusEpReleaseLoop disconnect fuel conns = some (done, []) ∧ done.Sublist conns ∧
        ((∀ conn conns, disconnect conn (conn :: conns) = conns) → done = conns)
  | 0, _, h => absurd h (Nat.not_lt_zero _)
  | _ + 1, [], _ => ⟨[], rfl, List.Sublist.slnil, fun _ => rfl⟩
  | fuel + 1, conn :: conns, h => by
    have hs := hd conn conns
    obtain ⟨done, hl, hsub, hexact⟩ := kdbusEpReleaseLoop_drains hd fuel
      (disconnect conn (conn :: conns)) (hs.length_le.trans_lt (Nat.lt_of_succ_lt_succ h))
    refine ⟨conn :: done, by simp [kdbusEpReleaseLoop, hl], (hsub.trans hs).cons₂ conn,
      fun hx => ?_⟩
    rw [hexact hx, hx]

/-- **Releasing an endpoint drains it.**  Suppose `kdbus_conn_disconnect` takes the connection
it is given off the endpoint's list and adds none; other connections may leave at the same
time, and none joins an endpoint whose node is going away.  Then `kdbus_ep_release` ends within
one round more than the endpoint has connections.  It disconnects a sublist of them, once each
and in list order, all of them when each disconnect takes off only its own connection.  It
leaves the list empty and the endpoint otherwise as it was, so the `BUG_ON` of `kdbus_ep_free`
does not fire. -/
theorem kdbusEpRelease_drains (disconnect : KdbusConn → List KdbusConn → List KdbusConn)
    (hd : ∀ conn conns, (disconnect conn (conn :: conns)).Sublist conns) (ep : KdbusEpObj)
    (fuel : Nat) (hfuel : ep.connList.length < fuel) :
    ∃ done ep', kdbusEpRelease disconnect fuel ep = some (done, ep') ∧
      ep' = { ep with connList := [] } ∧ kdbusEpFree ep' = some () ∧
      done.Sublist ep.connList ∧
      ((∀ conn conns, disconnect conn (conn :: conns) = conns) → done = ep.connList) := by
  obtain ⟨done, hl, hsub, hexact⟩ := kdbusEpReleaseLoop_drains hd fuel ep.connList hfuel
  exact ⟨done, _, by simp [kdbusEpRelease, hl], rfl, rfl, hsub, hexact⟩

end Release

/-- A default endpoint with two connections, released with four rounds of fuel by disconnects
that each take off the first connection. -/
theorem kdbusEpRelease_drains_two :
    let db : KdbusPolicyDb := ⟨fun _ _ => 0, fun _ _ => 0, fun _ _ => 0⟩
    let conn : KdbusConn := ⟨⟨0, 0, 0⟩, false, []⟩
    let ep : KdbusEpObj := { kdbusEpNewInit ⟨0, false, db, 0, .ok 7, fun _ h => (by cases h)⟩
      ⟨db⟩ 1 0 0 0 false with connList := [conn, { conn with privileged := true }] }
    let disconnect : KdbusConn → List KdbusConn → List KdbusConn := fun _ l => l.tail
    (∀ conn conns, (disconnect conn (conn :: conns)).Sublist conns) ∧ ep.connList.length < 4 ∧
    ∃ done ep', kdbusEpRelease disconnect 4 ep = some (done, ep') ∧
      ep' = { ep with connList := [] } ∧ kdbusEpFree ep' = some () ∧
      done.Sublist ep.connList ∧
      ((∀ conn conns, disconnect conn (conn :: conns) = conns) → done = ep.connList) := by
  intro db conn ep disconnect
  have hd : ∀ conn conns, (disconnect conn (conn :: conns)).Sublist conns :=
    fun _ conns => List.Sublist.refl conns
  exact ⟨hd, by decide, kdbusEpRelease_drains disconnect hd ep 4 (by decide)⟩

end Kdbus
