import Kdbus.Metadata.Blob

/-!
# What `kdbus_meta_append` returns

`kdbus_meta_append` returns the value of the last block it ran, `0` when it ran none, and stops
at the first negative one.  The producers return `0` or `-ENOMEM`.  The scratch page of the
`exe`, `cmdline` and `cgroup` blocks can fail with `-ENOMEM` too.  `task_cgroup_path` and
`security_secid_to_secctx` pass their errors on, except `-EOPNOTSUPP` from the latter.
`copy_from_user` in `kdbus_meta_append_cmdline` passes on the number of bytes it could not copy.

* `AppendRet` — the values a call can return while a task is current.
* `BlockRet` — what a block can return, and that it does not fail when no allocation fails and
  the task's lookups succeed.  `blockRet_metaBlocks`: every block of `metadata.c` meets it.
* **`kdbusMetaAppend_ret`** — every call returns one of the values of `AppendRet`.  No other
  errno can come out of it, and a positive value is always a count of bytes `copy_from_user`
  left uncopied.
* **`kdbusMetaAppend_progress`** — when no allocation fails and the task's lookups succeed, a
  call from a connection never fails and attaches every compiled-in category it asks for.
-/

namespace Kdbus

/-- The values `kdbus_meta_append` can return while `task` is current: `0`, `-ENOMEM`, the
error of `task_cgroup_path`, an error of `security_secid_to_secctx` other than `-EOPNOTSUPP`,
or the count `copy_from_user` returns for the clamped argument area. -/
def AppendRet (task : Task) (r : Int) : Prop :=
  r = 0 ∨ r = -enomem ∨ (∃ e, task.cgroupPath = .error e ∧ r = -(e : Nat)) ∨
    (∃ e, task.secctx = .error e ∧ (e : Nat) ≠ eopnotsupp ∧ r = -(e : Nat)) ∨
    ∃ a, task.args = some a ∧ r = ((min a.uncopied (min a.args.length pageSize) : Nat) : Int)

/-- The lookups of the task that a call needs to succeed: `task_cgroup_path` resolves, and
`security_secid_to_secctx` fails at most with `-EOPNOTSUPP`. -/
def Task.Resolves (task : Task) : Prop :=
  (∀ e, task.cgroupPath ≠ .error e) ∧ ∀ e, task.secctx = .error e → (e : Nat) = eopnotsupp

/-! ## The item writer and the producers -/

/-- `kdbus_meta_append_item` fails only with `-ENOMEM`, and only when an allocation fails. -/
lemma kdbusMetaAppendItem_error_of_fails (slab : Slab) (w : World) (e : Nat) {r : Int}
    (h : (kdbusMetaAppendItem slab w e).2 = .error r) :
    r = -enomem ∧ ∃ n, slab.fails n = true := by
  unfold kdbusMetaAppendItem at h
  dsimp only at h
  split_ifs at h with h₁ h₂ h₃ h₄ <;> simp only [Except.error.injEq, reduceCtorEq] at h
  · exact ⟨h.symm, _, h₁.2⟩
  · exact ⟨h.symm, _, h₃.2⟩
  · exact ⟨h.symm, _, h₄.2⟩

/-- A producer returns `0`, or `-ENOMEM` when an allocation fails. -/
lemma Producer.run_ret (slab : Slab) (w : World) (p : Producer) :
    (p.run slab w).2 = 0 ∨ ((p.run slab w).2 = -enomem ∧ ∃ n, slab.fails n = true) := by
  rw [Producer.run_eq]
  split_ifs
  · exact .inl rfl
  · unfold emit
    rcases hk : kdbusMetaAppendItem slab w (kdbusItemSize p.item.payload.length) with
      ⟨w', r | off⟩
    · exact .inr (kdbusMetaAppendItem_error_of_fails slab w _ (congrArg Prod.snd hk))
    · cases p <;> exact .inl rfl

/-! ## What a block returns -/

/-- What a block can return while `task` is current; and, when no allocation fails and `ok`
holds, that it does not fail. -/
def BlockRet (task : Task) (ok : Prop) (f : Slab → World → World × Int) : Prop :=
  ∀ slab w, AppendRet task (f slab w).2 ∧ ((∀ n, slab.fails n = false) → ok → 0 ≤ (f slab w).2)

namespace BlockRet

variable {task : Task} {P Q : Prop} {f g : Slab → World → World × Int}

lemma mono (hf : BlockRet task P f) (h : Q → P) : BlockRet task Q f := fun slab w =>
  (hf slab w).imp_right fun hp hs hq => hp hs (h hq)

/-- A block that runs nothing and returns `r`. -/
lemma const {r : Int} (hr : AppendRet task r) : BlockRet task (0 ≤ r) fun _ w => (w, r) :=
  fun _ _ => ⟨hr, fun _ h => h⟩

lemma run (p : Producer) : BlockRet task True fun slab w => p.run slab w := by
  intro slab w
  beta_reduce
  rcases p.run_ret slab w with h | ⟨h, n, hn⟩ <;> rw [h]
  · exact ⟨.inl rfl, fun _ _ => le_refl 0⟩
  · exact ⟨.inr (.inl rfl), fun hs _ => absurd hn (by simp [hs])⟩

/-- A scratch page first: `__get_free_page` failing is `-ENOMEM`. -/
lemma freePage (hf : BlockRet task P f) :
    BlockRet task P fun slab w =>
      match getFreePage slab w with
      | (w, false) => (w, -enomem)
      | (w, true) => f slab w := by
  intro slab w
  beta_reduce
  cases h : slab.fails w.allocs <;> simp only [getFreePage, h, Bool.not_true, Bool.not_false]
  · exact hf slab w.attempt
  · exact ⟨.inr (.inl rfl), fun hs _ => absurd h (by simp [hs])⟩

/-- Two blocks one after the other, stopping at a negative return. -/
lemma seq (hf : BlockRet task P f) (hg : BlockRet task Q g) :
    BlockRet task (P ∧ Q) fun slab w =>
      match f slab w with
      | (w, r) => if r < 0 then (w, r) else g slab w := by
  intro slab w
  beta_reduce
  obtain ⟨hr₁, hp₁⟩ := hf slab w
  rcases h : f slab w with ⟨w', r⟩
  rw [h] at hr₁ hp₁
  dsimp only
  split_ifs with hr
  · exact ⟨hr₁, fun hs ⟨hp, _⟩ => absurd (hp₁ hs hp) (not_le.mpr hr)⟩
  · exact ⟨(hg slab w').1, fun hs ⟨_, hq⟩ => (hg slab w').2 hs hq⟩

end BlockRet

lemma blockRet_exe (task : Task) : BlockRet task True fun slab => kdbusMetaAppendExe slab task := by
  unfold kdbusMetaAppendExe
  cases task.exePath with
  | none => exact (BlockRet.const (.inl rfl)).mono fun _ => le_refl 0
  | unresolvable => exact ((BlockRet.const (.inl rfl)).freePage).mono fun _ => le_refl 0
  | path p => exact (BlockRet.run (.data .exe p.bytes)).freePage

/-- The command line block returns the uncopied count when `copy_from_user` faults. -/
lemma blockRet_cmdline (task : Task) :
    BlockRet task True fun slab => kdbusMetaAppendCmdline slab task := by
  unfold kdbusMetaAppendCmdline
  refine BlockRet.freePage ?_
  cases h : task.args with
  | none => exact (BlockRet.const (.inl rfl)).mono fun _ => le_refl 0
  | some a =>
    by_cases hr : min a.uncopied (min a.args.length pageSize) = 0 <;>
      simp only [hr, if_true, if_false]
    · exact BlockRet.run (.data .cmdline (a.args.take (min a.args.length pageSize)))
    · exact (BlockRet.const (.inr (.inr (.inr (.inr ⟨a, h, rfl⟩))))).mono fun _ =>
        Int.natCast_nonneg _

lemma blockRet_cgroup (task : Task) :
    BlockRet task (∀ e, task.cgroupPath ≠ .error e) fun slab => kdbusMetaAppendCgroup slab task := by
  unfold kdbusMetaAppendCgroup
  refine BlockRet.freePage ?_
  cases h : task.cgroupPath with
  | error e =>
    exact (BlockRet.const (.inr (.inr (.inl ⟨e, h, rfl⟩)))).mono fun hc => absurd rfl (hc e)
  | ok path => exact (BlockRet.run (.str .cgroup path)).mono fun _ => trivial

lemma blockRet_seclabel (task : Task) :
    BlockRet task (∀ e, task.secctx = .error e → (e : Nat) = eopnotsupp)
      fun slab => kdbusMetaAppendSeclabel slab task := by
  unfold kdbusMetaAppendSeclabel
  cases h : task.secctx with
  | error e =>
    by_cases he : (e : Nat) = eopnotsupp <;> simp only [he, if_true, if_false]
    · exact (BlockRet.const (.inl rfl)).mono fun _ => le_refl 0
    · exact (BlockRet.const (.inr (.inr (.inr (.inl ⟨e, h, he, rfl⟩))))).mono fun hl =>
        absurd (hl e rfl) he
  | ok label =>
    by_cases hl : label.length > 0 <;> simp only [hl, if_true, if_false]
    · exact (BlockRet.run (.data .seclabel label)).mono fun _ => trivial
    · exact (BlockRet.const (.inl rfl)).mono fun _ => le_refl 0

/-- **Every block of `kdbus_meta_append` meets `BlockRet`**, and fails only for want of memory
or for a lookup of the task that does not resolve. -/
lemma blockRet_metaBlocks (cfg : Config) (task : Task) (conn : KdbusConn) :
    ∀ b ∈ metaBlocks cfg task conn, BlockRet task task.Resolves b.2 :=
  metaBlocks_forall (P := fun _ f => BlockRet task task.Resolves f)
    ((BlockRet.run (.timestamp task)).mono fun _ => trivial)
    ((BlockRet.run (.cred task)).mono fun _ => trivial)
    ((BlockRet.run (.srcNames conn)).mono fun _ => trivial)
    (((BlockRet.run (.str .tidComm task.groupLeaderComm)).seq
      (BlockRet.run (.str .pidComm task.comm))).mono fun _ => ⟨trivial, trivial⟩)
    ((blockRet_exe task).mono fun _ => trivial)
    ((blockRet_cmdline task).mono fun _ => trivial)
    ((BlockRet.run (.data .caps (capsPayload cfg task))).mono fun _ => trivial)
    (fun _ => (blockRet_cgroup task).mono And.left)
    (fun _ => (BlockRet.run (.data .audit (auditPayload task))).mono fun _ => trivial)
    (fun _ => (blockRet_seclabel task).mono And.right)

/-! ## What a call returns -/

/-- The blocks keep `AppendRet`: the call's value is the last block's.  When memory suffices
and `ok` holds, no block fails, so the call's value stays non-negative. -/
lemma attachBlocks_ret {task : Task} {ok : Prop} {slab : Slab} {which : BitVec 64}
    {blocks : List (Category × (Slab → World → World × Int))}
    (hb : ∀ b ∈ blocks, BlockRet task ok b.2) (w : World) :
    AppendRet task (attachBlocks slab which blocks w 0).2 ∧
      ((∀ n, slab.fails n = false) → ok → 0 ≤ (attachBlocks slab which blocks w 0).2) :=
  attachBlocks_inv (fun _ r => AppendRet task r ∧ ((∀ n, slab.fails n = false) → ok → 0 ≤ r))
    (fun b hb' w _ _ _ _ _ => ⟨fun _ => hb b hb' slab w, fun _ => hb b hb' slab w⟩)
    (le_refl 0) ⟨.inl rfl, fun _ _ => le_refl 0⟩

/-- **What `kdbus_meta_append` returns.**  On any snapshot, for any connection and mask, a call
returns `0`, `-ENOMEM`, the error of `task_cgroup_path`, an error of
`security_secid_to_secctx` other than `-EOPNOTSUPP`, or the count of bytes `copy_from_user`
left uncopied in the clamped argument area.  So every negative value is one of those errnos,
and the only positive one is that count (`kdbusMetaAppend_cmdline_fault`). -/
theorem kdbusMetaAppend_ret (cfg : Config) (slab : Slab) (task : Task) (w : World)
    (conn : Option KdbusConn) (which : BitVec 64) :
    AppendRet task (kdbusMetaAppend cfg slab task w conn which).2 :=
  kdbusMetaAppend_rec (P := fun r => AppendRet task r.2) (.inl rfl) fun c _ =>
    (attachBlocks_ret (blockRet_metaBlocks cfg task c) w).1

/-- When no allocation fails and the task's lookups resolve, a call from a connection does not
fail. -/
lemma kdbusMetaAppend_nonneg (cfg : Config) {slab : Slab} {task : Task} (w : World)
    (conn : KdbusConn) (which : BitVec 64) (hs : ∀ n, slab.fails n = false) (ht : task.Resolves) :
    0 ≤ (kdbusMetaAppend cfg slab task w (some conn) which).2 :=
  kdbusMetaAppend_rec (P := fun r => 0 ≤ r.2) (le_refl 0) fun c _ =>
    (attachBlocks_ret (blockRet_metaBlocks cfg task c) w).2 hs ht

/-- **With memory to spare a call succeeds.**  When no allocation fails, the task's cgroup path
resolves and `security_secid_to_secctx` fails at most with `-EOPNOTSUPP`, a call from a
connection returns a non-negative value on any snapshot and for any mask, and every
compiled-in category that the mask asks for is attached afterwards. -/
theorem kdbusMetaAppend_progress (cfg : Config) (slab : Slab) (task : Task) (w : World)
    (conn : KdbusConn) (which : BitVec 64) (hs : ∀ n, slab.fails n = false)
    (ht : task.Resolves) :
    0 ≤ (kdbusMetaAppend cfg slab task w (some conn) which).2 ∧
    ∀ c ∈ compiledCategories cfg, which.getLsbD c.index →
      (kdbusMetaAppend cfg slab task w (some conn) which).1.meta.attached.getLsbD c.index :=
  ⟨kdbusMetaAppend_nonneg cfg w conn which hs ht,
    kdbusMetaAppend_covers cfg slab task which w conn (kdbusMetaAppend_nonneg cfg w conn which hs ht)⟩

/-- A call for every category, on a fresh snapshot with an allocator that never fails, for a
task whose cgroup path is `/` and that has no security module. -/
theorem kdbusMetaAppend_progress_all :
    let cfg : Config := ⟨true, true, true, 40⟩
    let slab : Slab := ⟨fun _ => false, fun _ _ => 0⟩
    (∀ n, slab.fails n = false) ∧ (sampleTask 10 0).Resolves ∧
    0 ≤ (kdbusMetaAppend cfg slab (sampleTask 10 0) ⟨KdbusMeta.zero, 0⟩
      (some ⟨⟨0, 0, 0⟩, false, []⟩) (-1#64)).2 ∧
    ∀ c ∈ compiledCategories cfg, (-1#64 : BitVec 64).getLsbD c.index →
      (kdbusMetaAppend cfg slab (sampleTask 10 0) ⟨KdbusMeta.zero, 0⟩
        (some ⟨⟨0, 0, 0⟩, false, []⟩) (-1#64)).1.meta.attached.getLsbD c.index := by
  intro cfg slab
  have hs : ∀ n, slab.fails n = false := fun _ => rfl
  have ht : (sampleTask 10 0).Resolves :=
    ⟨fun e h => (by cases h), fun e h => (by cases h; rfl)⟩
  exact ⟨hs, ht, kdbusMetaAppend_progress cfg slab _ _ _ _ hs ht⟩

end Kdbus
