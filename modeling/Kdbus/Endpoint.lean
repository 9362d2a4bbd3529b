import Kdbus.Item
import Kdbus.Connection

/-!
# The policy checks of `endpoint.c`

A custom endpoint (`ep->has_policy`) carries its own policy database, checked before the
bus-wide one.  The databases themselves live in `policy.c`, which is not part of this
excerpt: `KdbusPolicyDb` has one field per query the endpoint makes of a database, each
returning `0` or a negative errno, and every theorem below holds for every database.  The
locks the checks take do not change what they return and are not modelled.

* **`kdbusEpPolicyCheck_hides_eperm`** — on a custom endpoint a denial by the endpoint's own
  database with `-EPERM` is reported as `-ENOENT` by the see, notification, source-names and
  talk checks, and no visibility check returns `-EPERM`: a hidden name cannot be told apart
  from a name that does not exist.
* **`kdbusEpPolicyCheckSrcNames_exists`** — the loop of `kdbus_ep_policy_check_src_names`
  allows exactly when some owned name is visible, in any order of the names, and otherwise
  returns `-ENOENT` for no names or the denial of one of them.
* **`kdbusEpPolicyCheck_narrows`** — a custom endpoint allows `TALK` and `OWN` exactly when its
  own database does not deny and the bus's default endpoint allows: it only narrows the bus
  policy.
-/

namespace Kdbus

/-! ## The model -/

/-- The queries of `policy.c` the endpoint checks make of a policy database. -/
structure KdbusPolicyDb where
  /-- `kdbus_policy_check_see_access_unlocked(db, cred, name)`. -/
  checkSeeAccessUnlocked : Cred → CString → Int
  /-- `kdbus_policy_check_talk_access(db, conn_src, conn_dst)`. -/
  checkTalkAccess : KdbusConn → KdbusConn → Int
  /-- `kdbus_policy_check_own_access(db, cred, name)`. -/
  checkOwnAccess : Cred → CString → Int

/-- `struct kdbus_bus`, as far as the endpoint checks read it. -/
structure KdbusBus where
  policyDb : KdbusPolicyDb

/-- `struct kdbus_ep`, as far as the checks read it. -/
structure KdbusEp where
  hasPolicy : Bool
  policyDb : KdbusPolicyDb
  bus : KdbusBus

/-- `KDBUS_SRC_ID_KERNEL`. -/
def kdbusSrcIdKernel : Nat := 0

/-- What the notification check reads of a `struct kdbus_kmsg`: `msg.src_id`, `notify_type`
and `notify_name`. -/
structure KdbusKmsg where
  srcId : Nat
  notifyType : Nat
  notifyName : CString

/-- `kdbus_ep_policy_check_see_access_unlocked(ep, conn, name)`. -/
def kdbusEpPolicyCheckSeeAccessUnlocked (ep : KdbusEp) (conn : KdbusConn) (name : CString) :
    Int :=
  if !ep.hasPolicy then 0 else
  let ret := ep.policyDb.checkSeeAccessUnlocked conn.cred name
  if ret = -eperm then -enoent else ret

/-- `kdbus_ep_policy_check_see_access(ep, conn, name)`: the unlocked check, under the
database's and the connection's locks. -/
def kdbusEpPolicyCheckSeeAccess (ep : KdbusEp) (conn : KdbusConn) (name : CString) : Int :=
  kdbusEpPolicyCheckSeeAccessUnlocked ep conn name

/-- `kdbus_ep_policy_check_notification(ep, conn, kmsg)`. -/
def kdbusEpPolicyCheckNotification (ep : KdbusEp) (conn : KdbusConn) (kmsg : KdbusKmsg) : Int :=
  if !ep.hasPolicy then 0
  else if kmsg.srcId ≠ kdbusSrcIdKernel then 0
  else if kmsg.notifyType = ItemType.nameAdd.code ∨ kmsg.notifyType = ItemType.nameRemove.code ∨
      kmsg.notifyType = ItemType.nameChange.code then
    kdbusEpPolicyCheckSeeAccess ep conn kmsg.notifyName
  else -enoent

/-- The `list_for_each_entry` loop of `kdbus_ep_policy_check_src_names` over the rest of
`conn_src->names_list`, with `ret` as it stands: each name's check in turn, leaving the loop
at the first that allows. -/
def checkSrcNamesLoop (ep : KdbusEp) (connDst : KdbusConn) : List CString → Int → Int
  | [], ret => ret
  | name :: names, _ =>
    let ret := kdbusEpPolicyCheckSeeAccessUnlocked ep connDst name
    if ret = 0 then ret else checkSrcNamesLoop ep connDst names ret

/-- `kdbus_ep_policy_check_src_names(ep, conn_src, conn_dst)`. -/
def kdbusEpPolicyCheckSrcNames (ep : KdbusEp) (connSrc connDst : KdbusConn) : Int :=
  if !ep.hasPolicy then 0 else checkSrcNamesLoop ep connDst connSrc.namesList (-enoent)

/-- `kdbus_ep_policy_check_talk_access(ep, conn_src, conn_dst)`. -/
def kdbusEpPolicyCheckTalkAccess (ep : KdbusEp) (connSrc connDst : KdbusConn) : Int :=
  let epRet : Int :=
    if ep.hasPolicy then
      let ret := ep.policyDb.checkTalkAccess connSrc connDst
      if ret = -eperm then -enoent else ret
    else 0
  if epRet < 0 then epRet
  else if connSrc.privileged then 0
  else if connSrc.cred.fsuid = connDst.cred.uid then 0
  else ep.bus.policyDb.checkTalkAccess connSrc connDst

/-- `kdbus_ep_policy_check_own_access(ep, conn, name)`. -/
def kdbusEpPolicyCheckOwnAccess (ep : KdbusEp) (conn : KdbusConn) (name : CString) : Int :=
  let epRet := if ep.hasPolicy then ep.policyDb.checkOwnAccess conn.cred name else 0
  if epRet < 0 then epRet
  else if conn.privileged then 0
  else ep.bus.policyDb.checkOwnAccess conn.cred name

/-! ## No `-EPERM` leaks -/

variable {ep : KdbusEp} {conn connSrc connDst : KdbusConn} {name : CString}

/-- The mapping the custom endpoint applies to its database's answers never yields
`-EPERM`. -/
lemma hideEperm_ne (ret : Int) : (if ret = -eperm then -(enoent : Int) else ret) ≠ -eperm := by
  split_ifs <;> simp_all [eperm, enoent]

lemma kdbusEpPolicyCheckSeeAccessUnlocked_ne_eperm :
    kdbusEpPolicyCheckSeeAccessUnlocked ep conn name ≠ -eperm := by
  unfold kdbusEpPolicyCheckSeeAccessUnlocked
  split_ifs
  · simp [eperm]
  · exact hideEperm_ne _

/-- A loop over some names returns one name's check: the first that allows, or else the
last. -/
lemma checkSrcNamesLoop_denial {names : List CString} (hn : names ≠ []) (ret : Int) :
    ∃ name ∈ names, kdbusEpPolicyCheckSeeAccessUnlocked ep connDst name =
      checkSrcNamesLoop ep connDst names ret := by
  induction names generalizing ret with
  | nil => exact absurd rfl hn
  | cons n names ih =>
    simp only [checkSrcNamesLoop]
    split_ifs
    · exact ⟨n, by simp, rfl⟩
    · by_cases hm : names = []
      · subst hm; exact ⟨n, by simp, rfl⟩
      · obtain ⟨k, hk, h⟩ := ih hm _
        exact ⟨k, List.mem_cons_of_mem n hk, h⟩

/-- The see-check of a custom endpoint reports its database's `-EPERM` as `-ENOENT`. -/
lemma kdbusEpPolicyCheckSeeAccessUnlocked_of_eperm (hp : ep.hasPolicy = true)
    (h : ep.policyDb.checkSeeAccessUnlocked conn.cred name = -eperm) :
    kdbusEpPolicyCheckSeeAccessUnlocked ep conn name = -enoent := by
  simp [kdbusEpPolicyCheckSeeAccessUnlocked, hp, h]

/-- On a custom endpoint the source-names check returns `-ENOENT` for a source without names,
and otherwise the see-check of one of its names. -/
lemma kdbusEpPolicyCheckSrcNames_denial (hp : ep.hasPolicy = true) (connSrc connDst : KdbusConn) :
    (connSrc.namesList = [] ∧ kdbusEpPolicyCheckSrcNames ep connSrc connDst = -enoent) ∨
    ∃ m ∈ connSrc.namesList, kdbusEpPolicyCheckSeeAccessUnlocked ep connDst m =
      kdbusEpPolicyCheckSrcNames ep connSrc connDst := by
  by_cases hn : connSrc.namesList = []
  · exact .inl ⟨hn, by simp [kdbusEpPolicyCheckSrcNames, hp, hn, checkSrcNamesLoop]⟩
  · refine .inr ?_
    simpa [kdbusEpPolicyCheckSrcNames, hp] using
      @checkSrcNamesLoop_denial ep connDst _ hn (-enoent)

/-- **The checks of a custom endpoint hide its denials.**  When the endpoint's own database
denies seeing a name with `-EPERM`, seeing it returns `-ENOENT`, and so does a kernel
notification about it.  When the database denies every name a source owns with `-EPERM`, the
source-names check returns `-ENOENT`, as for a source that owns no name.  When the database
denies `TALK` with `-EPERM`, the talk check returns `-ENOENT`, whatever the source's privileges
and `fsuid` and whatever the bus-wide policy.  And no visibility check ever returns `-EPERM`.
So a denial by the endpoint's policy looks like a name that does not exist. -/
theorem kdbusEpPolicyCheck_hides_eperm (ep : KdbusEp) (hp : ep.hasPolicy = true)
    (conn connSrc connDst : KdbusConn) (name : CString) (kmsg : KdbusKmsg) :
    (ep.policyDb.checkSeeAccessUnlocked conn.cred name = -eperm →
      kdbusEpPolicyCheckSeeAccessUnlocked ep conn name = -enoent ∧
        kdbusEpPolicyCheckSeeAccess ep conn name = -enoent) ∧
    (kmsg.srcId = kdbusSrcIdKernel →
      ep.policyDb.checkSeeAccessUnlocked conn.cred kmsg.notifyName = -eperm →
        kdbusEpPolicyCheckNotification ep conn kmsg = -enoent) ∧
    ((∀ n ∈ connSrc.namesList, ep.policyDb.checkSeeAccessUnlocked connDst.cred n = -eperm) →
      kdbusEpPolicyCheckSrcNames ep connSrc connDst = -enoent) ∧
    (ep.policyDb.checkTalkAccess connSrc connDst = -eperm →
      kdbusEpPolicyCheckTalkAccess ep connSrc connDst = -enoent) ∧
    kdbusEpPolicyCheckSeeAccessUnlocked ep conn name ≠ -eperm ∧
    kdbusEpPolicyCheckSeeAccess ep conn name ≠ -eperm ∧
    kdbusEpPolicyCheckNotification ep conn kmsg ≠ -eperm ∧
    kdbusEpPolicyCheckSrcNames ep connSrc connDst ≠ -eperm := by
  refine ⟨fun h => ⟨kdbusEpPolicyCheckSeeAccessUnlocked_of_eperm hp h,
    kdbusEpPolicyCheckSeeAccessUnlocked_of_eperm hp h⟩, fun hk h => ?_, fun h => ?_,
    fun ht => by simp [kdbusEpPolicyCheckTalkAccess, hp, ht, enoent],
    kdbusEpPolicyCheckSeeAccessUnlocked_ne_eperm, kdbusEpPolicyCheckSeeAccessUnlocked_ne_eperm,
    ?_, ?_⟩
  · -- a kernel notification is hidden whatever its type
    unfold kdbusEpPolicyCheckNotification
    simp only [hp, hk, Bool.not_true, Bool.false_eq_true, if_false, ne_eq, not_true_eq_false]
    split_ifs
    exacts [kdbusEpPolicyCheckSeeAccessUnlocked_of_eperm hp h, rfl]
  · -- no name, or the loop returns the see-check of one of them
    rcases kdbusEpPolicyCheckSrcNames_denial hp connSrc connDst with ⟨-, h'⟩ | ⟨m, hm, h'⟩
    · exact h'
    · exact h' ▸ kdbusEpPolicyCheckSeeAccessUnlocked_of_eperm hp (h m hm)
  · unfold kdbusEpPolicyCheckNotification
    split_ifs <;> first | exact kdbusEpPolicyCheckSeeAccessUnlocked_ne_eperm | simp [eperm, enoent]
  · rcases kdbusEpPolicyCheckSrcNames_denial hp connSrc connDst with ⟨-, h'⟩ | ⟨m, -, h'⟩
    · simp [h', eperm, enoent]
    · exact h' ▸ kdbusEpPolicyCheckSeeAccessUnlocked_ne_eperm

/-- A custom endpoint whose database denies everything with `-EPERM`, a privileged source
owning one name, and a name-change notification from the kernel: every check reports
`-ENOENT`. -/
theorem kdbusEpPolicyCheck_hides_eperm_denying_db :
    let db : KdbusPolicyDb := ⟨fun _ _ => -1, fun _ _ => -1, fun _ _ => -1⟩
    let ep : KdbusEp := ⟨true, db, ⟨db⟩⟩
    let name : CString := ⟨[97], by decide⟩
    let conn : KdbusConn := ⟨⟨0, 0, 0⟩, true, [name]⟩
    let kmsg : KdbusKmsg := ⟨kdbusSrcIdKernel, ItemType.nameAdd.code, name⟩
    ep.hasPolicy = true ∧ db.checkSeeAccessUnlocked conn.cred name = -eperm ∧
    db.checkTalkAccess conn conn = -eperm ∧
    (ep.policyDb.checkSeeAccessUnlocked conn.cred name = -eperm →
      kdbusEpPolicyCheckSeeAccessUnlocked ep conn name = -enoent ∧
        kdbusEpPolicyCheckSeeAccess ep conn name = -enoent) ∧
    (kmsg.srcId = kdbusSrcIdKernel →
      ep.policyDb.checkSeeAccessUnlocked conn.cred kmsg.notifyName = -eperm →
        kdbusEpPolicyCheckNotification ep conn kmsg = -enoent) ∧
    ((∀ n ∈ conn.namesList, ep.policyDb.checkSeeAccessUnlocked conn.cred n = -eperm) →
      kdbusEpPolicyCheckSrcNames ep conn conn = -enoent) ∧
    (ep.policyDb.checkTalkAccess conn conn = -eperm →
      kdbusEpPolicyCheckTalkAccess ep conn conn = -enoent) ∧
    kdbusEpPolicyCheckSeeAccessUnlocked ep conn name ≠ -eperm ∧
    kdbusEpPolicyCheckSeeAccess ep conn name ≠ -eperm ∧
    kdbusEpPolicyCheckNotification ep conn kmsg ≠ -eperm ∧
    kdbusEpPolicyCheckSrcNames ep conn conn ≠ -eperm := by
  intro db ep name conn kmsg
  exact ⟨rfl, by decide, by decide, kdbusEpPolicyCheck_hides_eperm ep rfl conn conn conn name kmsg⟩

/-! ## The source-names loop is an existential -/

/-- Started from a denial, the loop allows exactly when one of the names is visible. -/
lemma checkSrcNamesLoop_eq_zero_iff (names : List CString) {ret : Int} (hr : ret ≠ 0) :
    checkSrcNamesLoop ep connDst names ret = 0 ↔
    ∃ name ∈ names, kdbusEpPolicyCheckSeeAccessUnlocked ep connDst name = 0 := by
  induction names generalizing ret with
  | nil => simpa [checkSrcNamesLoop] using hr
  | cons n names ih =>
    simp only [checkSrcNamesLoop, List.mem_cons, exists_eq_or_imp]
    split_ifs with h
    · simp [h]
    · simp [ih h, h]

/-- **`kdbus_ep_policy_check_src_names` allows exactly when some owned name is visible.**  On a
custom endpoint it returns `0` exactly when the see-check allows one of the source's names;
`-ENOENT` when the source owns no name; and otherwise the denial of one of its names.  So
whether it allows does not depend on the order of `names_list`.  On a default endpoint it
allows every pair of connections. -/
theorem kdbusEpPolicyCheckSrcNames_exists (ep : KdbusEp) (connSrc connDst : KdbusConn) :
    (ep.hasPolicy = true →
      (kdbusEpPolicyCheckSrcNames ep connSrc connDst = 0 ↔
        ∃ name ∈ connSrc.namesList, kdbusEpPolicyCheckSeeAccessUnlocked ep connDst name = 0) ∧
      (connSrc.namesList = [] → kdbusEpPolicyCheckSrcNames ep connSrc connDst = -enoent) ∧
      (connSrc.namesList ≠ [] → ∃ name ∈ connSrc.namesList,
        kdbusEpPolicyCheckSeeAccessUnlocked ep connDst name =
          kdbusEpPolicyCheckSrcNames ep connSrc connDst) ∧
      ∀ names : List CString, names.Perm connSrc.namesList →
        (kdbusEpPolicyCheckSrcNames ep { connSrc with namesList := names } connDst = 0 ↔
          kdbusEpPolicyCheckSrcNames ep connSrc connDst = 0)) ∧
    (ep.hasPolicy = false → kdbusEpPolicyCheckSrcNames ep connSrc connDst = 0) := by
  have henoent : -(enoent : Int) ≠ 0 := by simp [enoent]
  refine ⟨fun hp => ⟨?_, fun hn => ?_, fun hn => ?_, fun names hperm => ?_⟩,
    fun hp => by simp [kdbusEpPolicyCheckSrcNames, hp]⟩
  · simpa [kdbusEpPolicyCheckSrcNames, hp] using checkSrcNamesLoop_eq_zero_iff _ henoent
  · simp [kdbusEpPolicyCheckSrcNames, hp, hn, checkSrcNamesLoop]
  · simpa [kdbusEpPolicyCheckSrcNames, hp] using checkSrcNamesLoop_denial hn (-enoent)
  · simp only [kdbusEpPolicyCheckSrcNames, hp, Bool.not_true, Bool.false_eq_true, if_false,
      checkSrcNamesLoop_eq_zero_iff _ henoent, hperm.mem_iff]

theorem kdbusEpPolicyCheckSrcNames_exists_two_names :
    let db : KdbusPolicyDb :=
      ⟨fun _ name => if name.chars = [98] then 0 else -1, fun _ _ => 0, fun _ _ => 0⟩
    let ep : KdbusEp := ⟨true, db, ⟨db⟩⟩
    let src : KdbusConn := ⟨⟨0, 0, 0⟩, false, [⟨[97], by decide⟩, ⟨[98], by decide⟩]⟩
    kdbusEpPolicyCheckSrcNames ep src src = 0 ∧
    (kdbusEpPolicyCheckSrcNames ep src src = 0 ↔
      ∃ name ∈ src.namesList, kdbusEpPolicyCheckSeeAccessUnlocked ep src name = 0) :=
  ⟨by decide, ((kdbusEpPolicyCheckSrcNames_exists _ _ _).1 rfl).1⟩

/-! ## A custom endpoint narrows the bus policy -/

/-- The same endpoint without a database of its own: what the bus's default endpoint checks. -/
def KdbusEp.withoutPolicy (ep : KdbusEp) : KdbusEp := { ep with hasPolicy := false }

/-- A check that returns the first of two answers when it is negative, and the second
otherwise, allows exactly when both do. -/
lemma ite_neg_eq_zero_iff (x r : Int) : (if x < 0 then x else r) = 0 ↔ 0 ≤ x ∧ r = 0 := by
  split_ifs <;> omega

/-- Hiding `-EPERM` keeps a denial a denial. -/
lemma hideEperm_neg_iff (ret : Int) :
    (if ret = -eperm then -(enoent : Int) else ret) < 0 ↔ ret < 0 := by
  split_ifs with h <;> simp [h, eperm, enoent]

/-- **A custom endpoint only narrows what the bus allows.**  A custom endpoint allows `TALK`
exactly when its own database does not deny it and the bus's default endpoint allows it: the
source's privileges and `fsuid` do not get past the endpoint's database.  The same holds for
`OWN`.  So whatever two connections may do through a custom endpoint, they may do through the
bus's default endpoint. -/
theorem kdbusEpPolicyCheck_narrows (ep : KdbusEp) (connSrc connDst conn : KdbusConn)
    (name : CString) :
    (kdbusEpPolicyCheckTalkAccess ep connSrc connDst = 0 ↔
      (ep.hasPolicy = true → 0 ≤ ep.policyDb.checkTalkAccess connSrc connDst) ∧
        kdbusEpPolicyCheckTalkAccess ep.withoutPolicy connSrc connDst = 0) ∧
    (kdbusEpPolicyCheckOwnAccess ep conn name = 0 ↔
      (ep.hasPolicy = true → 0 ≤ ep.policyDb.checkOwnAccess conn.cred name) ∧
        kdbusEpPolicyCheckOwnAccess ep.withoutPolicy conn name = 0) := by
  have hide := hideEperm_neg_iff (ep.policyDb.checkTalkAccess connSrc connDst)
  cases hp : ep.hasPolicy <;>
    simp only [kdbusEpPolicyCheckTalkAccess, kdbusEpPolicyCheckOwnAccess, KdbusEp.withoutPolicy,
      hp, if_true, if_false, Bool.false_eq_true, lt_irrefl, false_implies, true_and, true_implies,
      ite_neg_eq_zero_iff]
  simp only [← not_lt, hide, iff_self, and_true]

end Kdbus
