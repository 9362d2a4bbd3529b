import Kdbus.Metadata.Producers

/-!
# `kdbus_meta_append`

`kdbus_meta_append` runs one block per category that `which` asks for and `meta->attached`
lacks; a block runs its producer, stops the call on a negative return, and otherwise marks the
category attached.  Everything below is about whole runs: any sequence of calls, with any
masks, connections, tasks and allocator behaviour.

* `BlockSpec` — what the call needs of a block: it keeps the attached categories, keeps the
  blob laid out, and does not see the allocator's contents.  `blockSpec_metaBlocks`: every block
  of `metadata.c` meets it, whatever the task and the kernel build.
* **`runAppend_eq_of_fails_eq`** — two runs whose allocators fail at the same attempts end in
  the same snapshot, whatever the fresh `kmalloc` memory holds, and the buffer is zero after
  `meta->size`.
* **`kdbusMetaAppend_idempotent`** — a call whose compiled-in categories are attached does
  nothing; a second call with the mask of a call that did not fail does nothing; and over any
  run, `meta->attached` only gains bits, each of them asked for by some call.
-/

namespace Kdbus

/-! ## Category bits -/

lemma Category.index_lt (c : Category) : c.index < 64 := by cases c <;> decide

@[simp] lemma Category.getLsbD_bit (c : Category) (i : Nat) :
    c.bit.getLsbD i = decide (i = c.index) := by
  simp only [Category.bit, BitVec.getLsbD_shiftLeft, BitVec.getLsbD_one]
  by_cases h : i = c.index
  · subst h; simp [c.index_lt]
  · simp [h]; omega

/-- A block's guard tests one bit of the mask. -/
lemma and_bit_eq_zero_iff (x : BitVec 64) (c : Category) :
    x &&& c.bit = 0 ↔ x.getLsbD c.index = false := by
  constructor
  · intro h; simpa using congrArg (fun y => y.getLsbD c.index) h
  · intro h; ext j; by_cases hj : (j : Nat) = c.index <;> simp [hj, h]

lemma and_bit_ne_zero_iff (x : BitVec 64) (c : Category) :
    x &&& c.bit ≠ 0 ↔ x.getLsbD c.index := by
  rw [Ne, and_bit_eq_zero_iff, Bool.not_eq_false]

@[simp] lemma World.attach_meta_attached (w : World) (c : Category) :
    (w.attach c).meta.attached = w.meta.attached ||| c.bit := rfl

@[simp] lemma World.attach_meta_srcNames (w : World) (c : Category) :
    (w.attach c).meta.srcNames = w.meta.srcNames := rfl

/-- The categories the kernel build has blocks for, in order. -/
def compiledCategories (cfg : Config) : List Category :=
  [.timestamp, .creds, .names, .comm, .exe, .cmdline, .caps] ++
  (if cfg.cgroups then [.cgroup] else []) ++ (if cfg.auditsyscall then [.audit] else []) ++
  (if cfg.security then [.seclabel] else [])

lemma metaBlocks_map_fst (cfg : Config) (task : Task) (conn : KdbusConn) :
    (metaBlocks cfg task conn).map Prod.fst = compiledCategories cfg := by
  unfold metaBlocks compiledCategories; split_ifs <;> rfl

/-! ## Blocks -/

/-- What `kdbus_meta_append` needs of a block's producer: it keeps the attached categories,
does not see the allocator's contents on a laid-out snapshot, and keeps the blob laid out. -/
structure BlockSpec (f : Slab → World → World × Int) : Prop where
  attached : ∀ slab w, (f slab w).1.meta.attached = w.meta.attached
  cleared : ∀ slab w items, Layout w.meta items → f slab w = f slab.cleared w
  layout : ∀ slab w items, Layout w.meta items → ∃ items', Layout (f slab w).1.meta items'

namespace BlockSpec

variable {f g : Slab → World → World × Int}

lemma const (r : Int) : BlockSpec fun _ w => (w, r) :=
  ⟨fun _ _ => rfl, fun _ _ _ _ => rfl, fun _ _ items hl => ⟨items, hl⟩⟩

lemma run (p : Producer) : BlockSpec fun slab w => p.run slab w where
  attached slab w := p.run_attached slab w
  cleared _ _ _ hl := Producer.run_cleared hl
  layout slab w items hl := by
    rcases p.run_spec slab hl with h | ⟨-, h, -⟩
    · exact ⟨items, by rw [h]; exact hl⟩
    · exact ⟨_, h⟩

/-- A scratch page first: `-ENOMEM` when it cannot be had. -/
lemma freePage (hf : BlockSpec f) :
    BlockSpec fun slab w =>
      match getFreePage slab w with
      | (w, false) => (w, -enomem)
      | (w, true) => f slab w where
  attached slab w := by
    cases h : slab.fails w.allocs <;> simp [getFreePage, h, hf.attached]
  cleared slab w items hl := by
    cases h : slab.fails w.allocs <;>
      simp only [getFreePage, h, Slab.cleared_fails, Bool.not_true, Bool.not_false]
    exact hf.cleared slab w.attempt items hl
  layout slab w items hl := by
    cases h : slab.fails w.allocs <;> simp only [getFreePage, h, Bool.not_true, Bool.not_false]
    · exact hf.layout slab w.attempt items hl
    · exact ⟨items, hl⟩

/-- Two producers one after the other, stopping at a negative return. -/
lemma seq (hf : BlockSpec f) (hg : BlockSpec g) :
    BlockSpec fun slab w =>
      match f slab w with
      | (w, r) => if r < 0 then (w, r) else g slab w where
  attached slab w := by
    rcases h : f slab w with ⟨w', r⟩
    have := hf.attached slab w; rw [h] at this
    dsimp only; split_ifs
    · exact this
    · rw [hg.attached, this]
  cleared slab w items hl := by
    rw [← hf.cleared slab w items hl]
    obtain ⟨items', hl'⟩ := hf.layout slab w items hl
    rcases h : f slab w with ⟨w', r⟩
    rw [h] at hl'
    dsimp only; split_ifs
    · rfl
    · exact hg.cleared slab w' items' hl'
  layout slab w items hl := by
    obtain ⟨items', hl'⟩ := hf.layout slab w items hl
    rcases h : f slab w with ⟨w', r⟩
    rw [h] at hl'
    dsimp only; split_ifs
    · exact ⟨items', hl'⟩
    · exact hg.layout slab w' items' hl'

end BlockSpec

lemma blockSpec_exe (task : Task) : BlockSpec fun slab => kdbusMetaAppendExe slab task := by
  unfold kdbusMetaAppendExe
  cases task.exePath with
  | none => exact BlockSpec.const 0
  | unresolvable => exact (BlockSpec.const 0).freePage
  | path p => exact (BlockSpec.run (.data .exe p.bytes)).freePage

lemma blockSpec_cmdline (task : Task) : BlockSpec fun slab => kdbusMetaAppendCmdline slab task := by
  unfold kdbusMetaAppendCmdline
  refine BlockSpec.freePage ?_
  cases task.args with
  | none => exact BlockSpec.const 0
  | some a =>
    by_cases h : min a.uncopied (min a.args.length pageSize) = 0 <;>
      simp only [h, if_true, if_false]
    · exact BlockSpec.run (.data .cmdline (a.args.take (min a.args.length pageSize)))
    · exact BlockSpec.const _

lemma blockSpec_cgroup (task : Task) : BlockSpec fun slab => kdbusMetaAppendCgroup slab task := by
  unfold kdbusMetaAppendCgroup
  refine BlockSpec.freePage ?_
  cases task.cgroupPath with
  | error e => exact BlockSpec.const _
  | ok path => exact BlockSpec.run (.str .cgroup path)

lemma blockSpec_seclabel (task : Task) :
    BlockSpec fun slab => kdbusMetaAppendSeclabel slab task := by
  unfold kdbusMetaAppendSeclabel
  cases task.secctx with
  | error e => by_cases h : (e : Nat) = eopnotsupp <;> simp only [h, if_true, if_false] <;>
      exact BlockSpec.const _
  | ok label =>
    by_cases h : label.length > 0 <;> simp only [h, if_true, if_false]
    · exact BlockSpec.run (.data .seclabel label)
    · exact BlockSpec.const 0

/-- **Every block of `kdbus_meta_append` meets `BlockSpec`**, whatever the task, the source
connection and the kernel build. -/
lemma blockSpec_metaBlocks (cfg : Config) (task : Task) (conn : KdbusConn) :
    ∀ b ∈ metaBlocks cfg task conn, BlockSpec b.2 := by
  intro b hb
  simp only [metaBlocks, List.mem_append, List.mem_cons, List.mem_singleton,
    List.not_mem_nil, or_false] at hb
  rcases hb with (((hb | hb | hb | hb | hb | hb | hb) | hb) | hb) | hb
  all_goals first
    | subst hb
    | (split_ifs at hb <;> simp only [List.mem_singleton, List.not_mem_nil] at hb; subst hb)
  · exact BlockSpec.run (.timestamp task)
  · exact BlockSpec.run (.cred task)
  · exact BlockSpec.run (.srcNames conn)
  · exact (BlockSpec.run (.str .tidComm task.groupLeaderComm)).seq
      (BlockSpec.run (.str .pidComm task.comm))
  · exact blockSpec_exe task
  · exact blockSpec_cmdline task
  · exact BlockSpec.run (.data .caps (capsPayload cfg task))
  · exact blockSpec_cgroup task
  · exact BlockSpec.run (.data .audit (auditPayload task))
  · exact blockSpec_seclabel task

/-! ## The allocator's contents do not reach the blob -/

section Blocks

variable {slab : Slab} {which : BitVec 64} {blocks : List (Category × (Slab → World → World × Int))}

/-- Running blocks that meet `BlockSpec` on a laid-out snapshot does not see the allocator's
contents, and leaves the blob laid out. -/
lemma attachBlocks_cleared (hb : ∀ b ∈ blocks, BlockSpec b.2) {w : World} {ret : Int}
    {items : List Item} (hl : Layout w.meta items) :
    attachBlocks slab which blocks w ret = attachBlocks slab.cleared which blocks w ret ∧
    ∃ items', Layout (attachBlocks slab which blocks w ret).1.meta items' := by
  induction blocks generalizing w ret items with
  | nil => exact ⟨rfl, items, hl⟩
  | cons b blocks ih =>
    obtain ⟨c, f⟩ := b
    obtain ⟨hf, hb'⟩ : BlockSpec f ∧ _ := (List.forall_mem_cons.mp hb :)
    have he := hf.cleared slab w items hl
    obtain ⟨items', hl'⟩ := hf.layout slab w items hl
    rcases h : f slab w with ⟨w', r⟩
    rw [h] at he hl'
    simp only [attachBlocks, h, ← he]
    split_ifs
    · exact ⟨rfl, items', hl'⟩
    · exact ih hb' (hl'.congr rfl rfl rfl rfl)
    · exact ih hb' hl

/-- What running the blocks does to one bit of `meta->attached`: it keeps it when set, and sets
it only when the mask has it. -/
lemma attachBlocks_getLsbD (hb : ∀ b ∈ blocks, BlockSpec b.2) (w : World) (ret : Int) (i : Nat) :
    (w.meta.attached.getLsbD i → (attachBlocks slab which blocks w ret).1.meta.attached.getLsbD i) ∧
    ((attachBlocks slab which blocks w ret).1.meta.attached.getLsbD i →
      w.meta.attached.getLsbD i ∨ which.getLsbD i) := by
  induction blocks generalizing w ret with
  | nil => exact ⟨id, .inl⟩
  | cons b blocks ih =>
    obtain ⟨c, f⟩ := b
    obtain ⟨hf, hb'⟩ : BlockSpec f ∧ _ := (List.forall_mem_cons.mp hb :)
    rcases h : f slab w with ⟨w', r⟩
    have ha : w'.meta.attached = w.meta.attached := by simpa [h] using hf.attached slab w
    simp only [attachBlocks, h]
    split_ifs with hg
    · rw [ha]; exact ⟨id, .inl⟩
    · obtain ⟨ih₁, ih₂⟩ := ih hb' (w'.attach c) r
      simp only [World.attach_meta_attached, BitVec.getLsbD_or, ha, Category.getLsbD_bit,
        Bool.or_eq_true, decide_eq_true_eq] at ih₁ ih₂
      refine ⟨fun hi => ih₁ (.inl hi), fun hi => ?_⟩
      rcases ih₂ hi with (hi | rfl) | hi
      · exact .inl hi
      · exact .inr ((and_bit_ne_zero_iff _ _).mp hg.1)
      · exact .inr hi
    · exact ih hb' w ret

/-- When no block fails, every category of the list that the mask asks for is attached. -/
lemma attachBlocks_covers (hb : ∀ b ∈ blocks, BlockSpec b.2) (w : World) (ret : Int)
    (h : 0 ≤ (attachBlocks slab which blocks w ret).2) :
    ∀ c ∈ blocks.map Prod.fst, which.getLsbD c.index →
      (attachBlocks slab which blocks w ret).1.meta.attached.getLsbD c.index := by
  induction blocks generalizing w ret with
  | nil => simp
  | cons b blocks ih =>
    obtain ⟨c, f⟩ := b
    have hb' := (List.forall_mem_cons.mp hb).2
    intro d hd hw
    rcases hfw : f slab w with ⟨w', r⟩
    simp only [attachBlocks, hfw] at h ⊢
    split_ifs at h ⊢ with hg hr
    · omega
    · rcases List.mem_cons.mp hd with rfl | hd
      · exact (attachBlocks_getLsbD hb' _ _ _).1 (by simp)
      · exact ih hb' _ _ h d hd hw
    · rcases List.mem_cons.mp hd with rfl | hd
      · have h₁ : which &&& d.bit ≠ 0 := (and_bit_ne_zero_iff _ _).mpr hw
        exact (attachBlocks_getLsbD hb' _ _ _).1
          ((and_bit_ne_zero_iff _ _).mp fun h₂ => hg ⟨h₁, h₂⟩)
      · exact ih hb' _ _ h d hd hw

/-- When every category of the list that the mask asks for is attached, no block runs. -/
lemma attachBlocks_skip {w : World} (ret : Int)
    (h : ∀ c ∈ blocks.map Prod.fst, which.getLsbD c.index → w.meta.attached.getLsbD c.index) :
    attachBlocks slab which blocks w ret = (w, ret) := by
  induction blocks with
  | nil => rfl
  | cons b blocks ih =>
    have hc := h b.1 (by simp)
    rw [attachBlocks, if_neg, ih fun c hc => h c (by simp [hc])]
    rintro ⟨h₁, h₂⟩
    rw [Ne, and_bit_eq_zero_iff, Bool.not_eq_false] at h₁
    rw [and_bit_eq_zero_iff, hc h₁] at h₂
    exact Bool.noConfusion h₂

end Blocks

section Append

variable (cfg : Config) (slab : Slab) (task : Task) (conn : Option KdbusConn) (which : BitVec 64)

/-- One call on a laid-out snapshot does not see the allocator's contents. -/
lemma kdbusMetaAppend_cleared {w : World} {items : List Item} (hl : Layout w.meta items) :
    kdbusMetaAppend cfg slab task w conn which =
      kdbusMetaAppend cfg slab.cleared task w conn which ∧
    ∃ items', Layout (kdbusMetaAppend cfg slab task w conn which).1.meta items' := by
  unfold kdbusMetaAppend
  rcases conn with _ | conn
  · exact ⟨rfl, items, hl⟩
  · dsimp only; split_ifs
    · exact ⟨rfl, items, hl⟩
    · exact attachBlocks_cleared (blockSpec_metaBlocks cfg task conn) hl

/-- A run on a laid-out snapshot does not see the allocator's contents. -/
lemma runAppend_cleared {w : World} {items : List Item} (hl : Layout w.meta items)
    (calls : List Call) :
    runAppend cfg slab w calls = runAppend cfg slab.cleared w calls ∧
    ∃ items', Layout (runAppend cfg slab w calls).meta items' := by
  induction calls generalizing w items with
  | nil => exact ⟨rfl, items, hl⟩
  | cons c calls ih =>
    obtain ⟨he, items', hl'⟩ := kdbusMetaAppend_cleared cfg slab c.task c.conn c.which hl
    simp only [runAppend, ← he]
    exact ih hl'

/-- A task for the runs on fixed inputs in this file: `comm` and the group leader's `comm` are
fifteen `a`s, there is no executable, the argument area holds `n` bytes of which `uncopied`
fault on copy, there are no capabilities, the cgroup path is `/`, and there is no security
module. -/
def sampleTask (n uncopied : Nat) : Task where
  monotonicNs := 0
  realtimeNs := 0
  uid := 0
  gid := 0
  pid := 1
  tgid := 1
  startTime := 0
  groupLeaderComm := ⟨List.replicate 15 97, by decide⟩
  comm := ⟨List.replicate 15 97, by decide⟩
  exePath := .none
  args := some ⟨List.replicate n 1, uncopied⟩
  capInheritable := ⟨fun _ => 0⟩
  capPermitted := ⟨fun _ => 0⟩
  capEffective := ⟨fun _ => 0⟩
  capBset := ⟨fun _ => 0⟩
  cgroupPath := .ok ⟨[47], by decide⟩
  loginuid := 0
  sessionid := 0
  secctx := .error ⟨eopnotsupp, by decide⟩

/-- **The allocator's contents never reach the blob.**  Take two runs of any calls on a
zero-initialised snapshot whose allocators fail at the same attempts and may hand out any
memory from `kmalloc`: they end in the same snapshot, so in particular in byte-identical
blobs.  And every byte of the buffer from `meta->size` on is zero, so the padding of every
item and the free room up to `allocated_size` hold no stale memory. -/
theorem runAppend_eq_of_fails_eq (slab₁ slab₂ : Slab) (n : Nat) (calls : List Call)
    (h : slab₁.fails = slab₂.fails) :
    runAppend cfg slab₁ ⟨KdbusMeta.zero, n⟩ calls = runAppend cfg slab₂ ⟨KdbusMeta.zero, n⟩ calls ∧
    ∀ i, (runAppend cfg slab₁ ⟨KdbusMeta.zero, n⟩ calls).meta.size ≤ i →
      (runAppend cfg slab₁ ⟨KdbusMeta.zero, n⟩ calls).meta.bytes i = 0 := by
  have hc : slab₁.cleared = slab₂.cleared := by simp [Slab.cleared, h]
  have h0 : Layout (World.mk KdbusMeta.zero n).meta [] := layout_zero
  obtain ⟨h₁, items, hl⟩ := runAppend_cleared cfg slab₁ h0 calls
  obtain ⟨h₂, -⟩ := runAppend_cleared cfg slab₂ h0 calls
  exact ⟨by rw [h₁, h₂, hc], fun i hi => hl.tail_zero hi⟩

set_option maxRecDepth 4000 in
/-- Two runs whose `kmalloc` hands out zeros and `0xff`s.  The first call appends TIMESTAMP and
450 bytes of CMDLINE, 504 of the first 512 bytes; the second appends EXE `/x`, whose 24 bytes
do not fit, so the buffer grows to 1024 bytes and the gap `[504, 512)` is the allocator's
until the new record's header covers it. -/
theorem runAppend_eq_of_fails_eq_growth :
    let cfg : Config := ⟨false, false, false, 40⟩
    let zeros : Slab := ⟨fun _ => false, fun _ _ => 0⟩
    let ones : Slab := ⟨fun _ => false, fun _ _ => 0xff⟩
    let task : Task := { sampleTask 450 0 with exePath := .path ⟨[47, 120], by decide⟩ }
    let conn : Option KdbusConn := some ⟨⟨0, 0, 0⟩, false, []⟩
    let calls : List Call := [⟨task, conn, Category.timestamp.bit ||| Category.cmdline.bit⟩,
      ⟨task, conn, Category.exe.bit⟩]
    zeros.fails = ones.fails ∧
    (runAppend cfg zeros ⟨KdbusMeta.zero, 0⟩ (calls.take 1)).meta.size = 504 ∧
    (runAppend cfg zeros ⟨KdbusMeta.zero, 0⟩ (calls.take 1)).meta.allocatedSize = 512 ∧
    (runAppend cfg zeros ⟨KdbusMeta.zero, 0⟩ calls).meta.allocatedSize = 1024 ∧
    runAppend cfg zeros ⟨KdbusMeta.zero, 0⟩ calls = runAppend cfg ones ⟨KdbusMeta.zero, 0⟩ calls ∧
    ∀ i, (runAppend cfg zeros ⟨KdbusMeta.zero, 0⟩ calls).meta.size ≤ i →
      (runAppend cfg zeros ⟨KdbusMeta.zero, 0⟩ calls).meta.bytes i = 0 := by
  intro cfg zeros ones task conn calls
  exact ⟨rfl, by decide, by decide, by decide,
    runAppend_eq_of_fails_eq cfg zeros ones 0 calls rfl⟩

/-! ## Idempotence and the attached categories -/

/-- A call whose compiled-in categories are all attached, as far as the mask asks for them,
runs no block. -/
lemma kdbusMetaAppend_skip (w : World)
    (h : ∀ c ∈ compiledCategories cfg, which.getLsbD c.index → w.meta.attached.getLsbD c.index) :
    kdbusMetaAppend cfg slab task w conn which = (w, 0) := by
  unfold kdbusMetaAppend
  rcases conn with _ | conn
  · rfl
  · dsimp only; split_ifs
    · rfl
    · exact attachBlocks_skip 0 (by rwa [metaBlocks_map_fst])

/-- A call from a connection that does not fail leaves every compiled-in category that the
mask asks for attached. -/
lemma kdbusMetaAppend_covers (w : World) (conn : KdbusConn)
    (h : 0 ≤ (kdbusMetaAppend cfg slab task w (some conn) which).2) :
    ∀ c ∈ compiledCategories cfg, which.getLsbD c.index →
      (kdbusMetaAppend cfg slab task w (some conn) which).1.meta.attached.getLsbD c.index := by
  unfold kdbusMetaAppend at h ⊢
  dsimp only at h ⊢
  split_ifs at h ⊢ with hw
  · intro c _ hc
    rw [← hw, BitVec.getLsbD_and] at hc
    exact (Bool.and_eq_true _ _ ▸ hc).2
  · rw [← metaBlocks_map_fst cfg task conn]
    exact attachBlocks_covers (blockSpec_metaBlocks cfg task conn) w 0 h

/-- One call keeps every attached bit, and sets only bits its mask has. -/
lemma kdbusMetaAppend_getLsbD (w : World) (i : Nat) :
    (w.meta.attached.getLsbD i →
      (kdbusMetaAppend cfg slab task w conn which).1.meta.attached.getLsbD i) ∧
    ((kdbusMetaAppend cfg slab task w conn which).1.meta.attached.getLsbD i →
      w.meta.attached.getLsbD i ∨ which.getLsbD i) := by
  unfold kdbusMetaAppend
  rcases conn with _ | conn
  · exact ⟨id, .inl⟩
  · dsimp only; split_ifs
    · exact ⟨id, .inl⟩
    · exact attachBlocks_getLsbD (blockSpec_metaBlocks cfg task conn) w 0 i

/-- **Appending is idempotent.**  A call whose mask's compiled-in categories are all attached
returns `0` and changes nothing, whatever bits of other categories the mask has.  After a call
that returns a non-negative value, a second call with the same connection and mask, made with
any allocator and any current task, returns `0` and changes nothing.  And over any sequence of
calls `meta->attached` keeps every bit it had and gains only bits some call's mask asked
for. -/
theorem kdbusMetaAppend_idempotent (slab : Slab) (task : Task) (w : World)
    (conn : Option KdbusConn) (which : BitVec 64) :
    ((∀ c ∈ compiledCategories cfg, which.getLsbD c.index → w.meta.attached.getLsbD c.index) →
      kdbusMetaAppend cfg slab task w conn which = (w, 0)) ∧
    (0 ≤ (kdbusMetaAppend cfg slab task w conn which).2 → ∀ (slab' : Slab) (task' : Task),
      kdbusMetaAppend cfg slab' task' (kdbusMetaAppend cfg slab task w conn which).1 conn which =
        ((kdbusMetaAppend cfg slab task w conn which).1, 0)) ∧
    ∀ (calls : List Call) (i : Nat),
      (w.meta.attached.getLsbD i → (runAppend cfg slab w calls).meta.attached.getLsbD i) ∧
      ((runAppend cfg slab w calls).meta.attached.getLsbD i →
        w.meta.attached.getLsbD i ∨ ∃ c ∈ calls, c.which.getLsbD i) := by
  refine ⟨kdbusMetaAppend_skip cfg slab task conn which w, fun h slab' task' => ?_,
    fun calls => ?_⟩
  · rcases conn with _ | conn
    · rfl
    · exact kdbusMetaAppend_skip cfg slab' task' (some conn) which _
        (kdbusMetaAppend_covers cfg slab task which w conn h)
  · induction calls generalizing w with
    | nil => exact fun i => ⟨id, .inl⟩
    | cons c calls ih =>
      intro i
      obtain ⟨h₁, h₂⟩ := kdbusMetaAppend_getLsbD cfg slab c.task c.conn c.which w i
      obtain ⟨ih₁, ih₂⟩ := ih (kdbusMetaAppend cfg slab c.task w c.conn c.which).1 i
      refine ⟨fun hi => ih₁ (h₁ hi), fun hi => ?_⟩
      rcases ih₂ hi with hi | ⟨d, hd, hdi⟩
      · rcases h₂ hi with hi | hi
        · exact .inl hi
        · exact .inr ⟨c, by simp, hi⟩
      · exact .inr ⟨d, by simp [hd], hdi⟩

theorem kdbusMetaAppend_idempotent_cmdline :
    0 ≤ (kdbusMetaAppend ⟨false, false, false, 40⟩ ⟨fun _ => false, fun _ _ => 0⟩
      (sampleTask 10 0) ⟨KdbusMeta.zero, 0⟩ (some ⟨⟨0, 0, 0⟩, false, []⟩) Category.cmdline.bit).2 ∧
    kdbusMetaAppend ⟨false, false, false, 40⟩ ⟨fun _ => false, fun _ _ => 0⟩ (sampleTask 10 0)
        (kdbusMetaAppend ⟨false, false, false, 40⟩ ⟨fun _ => false, fun _ _ => 0⟩
          (sampleTask 10 0) ⟨KdbusMeta.zero, 0⟩ (some ⟨⟨0, 0, 0⟩, false, []⟩)
          Category.cmdline.bit).1 (some ⟨⟨0, 0, 0⟩, false, []⟩) Category.cmdline.bit =
      ((kdbusMetaAppend ⟨false, false, false, 40⟩ ⟨fun _ => false, fun _ _ => 0⟩
          (sampleTask 10 0) ⟨KdbusMeta.zero, 0⟩ (some ⟨⟨0, 0, 0⟩, false, []⟩)
          Category.cmdline.bit).1, 0) :=
  ⟨by decide, (kdbusMetaAppend_idempotent ⟨false, false, false, 40⟩ ⟨fun _ => false, fun _ _ => 0⟩
    (sampleTask 10 0) ⟨KdbusMeta.zero, 0⟩ (some ⟨⟨0, 0, 0⟩, false, []⟩)
    Category.cmdline.bit).2.1 (by decide) _ _⟩

end Append

/-! ## Where the code breaks its contract

Three runs on fixed inputs, each evaluated on the model. -/

/-- **`KDBUS_ATTACH_CMDLINE` is attached without an item, and the call returns a positive
value.**  Three of the ten bytes of the argument area fault on copy: `copy_from_user` returns
`3`, `kdbus_meta_append_cmdline` returns it, and `kdbus_meta_append`, which stops only on a
negative value, marks the category attached and returns `3` with nothing appended. -/
theorem kdbusMetaAppend_cmdline_fault :
    let r : World × Int :=
      kdbusMetaAppend ⟨false, false, false, 40⟩ ⟨fun _ => false, fun _ _ => 0⟩
        (sampleTask 10 3) ⟨KdbusMeta.zero, 0⟩ (some ⟨⟨0, 0, 0⟩, false, []⟩) Category.cmdline.bit
    r.2 = 3 ∧ r.1.meta.attached.getLsbD Category.cmdline.index = true ∧ r.1.meta.size = 0 := by
  decide

set_option maxRecDepth 20000 in
/-- **A retried `KDBUS_ATTACH_COMM` duplicates `KDBUS_ITEM_TID_COMM`.**  A timestamp and a
420-byte command line fill 472 of the first 512 bytes.  A call for `COMM` then appends
`TID_COMM`, and the allocation that `PID_COMM` needs fails: the call returns `-ENOMEM` with the
`TID_COMM` item in the blob and `COMM` not attached.  Retrying the call appends `TID_COMM`
again. -/
theorem kdbusMetaAppend_comm_retry_duplicates :
    let cfg : Config := ⟨false, false, false, 40⟩
    let slab : Slab := ⟨fun n => n == 2, fun _ _ => 0⟩
    let conn : Option KdbusConn := some ⟨⟨0, 0, 0⟩, false, []⟩
    let first : Call := ⟨sampleTask 420 0, conn, Category.timestamp.bit ||| Category.cmdline.bit⟩
    let comm : Call := ⟨sampleTask 420 0, conn, Category.comm.bit⟩
    let m₁ := (runAppend cfg slab ⟨KdbusMeta.zero, 0⟩ [first, comm]).meta
    let m₂ := (runAppend cfg slab ⟨KdbusMeta.zero, 0⟩ [first, comm, comm]).meta
    (kdbusMetaAppend cfg slab comm.task (runAppend cfg slab ⟨KdbusMeta.zero, 0⟩ [first]) conn
      comm.which).2 = -enomem ∧
    m₁.attached.getLsbD Category.comm.index = false ∧
    m₁.bytes.itemTypes m₁.size 8 =
      some [ItemType.timestamp.code, ItemType.cmdline.code, ItemType.tidComm.code] ∧
    m₂.bytes.itemTypes m₂.size 8 =
      some [ItemType.timestamp.code, ItemType.cmdline.code, ItemType.tidComm.code,
        ItemType.tidComm.code, ItemType.pidComm.code] := by
  decide

set_option maxRecDepth 20000 in
/-- **`meta->src_names` is left pointing into a released buffer.**  A call for `NAMES` and
`CMDLINE` appends the names item to the first buffer (allocation `0`) and points
`meta->src_names` at its payload; the 480-byte command line then outgrows the buffer, which is
copied into allocation `2` and released.  `meta->src_names` still points into allocation
`0`. -/
theorem kdbusMetaAppend_srcNames_dangling :
    let m : KdbusMeta :=
      (kdbusMetaAppend ⟨false, false, false, 40⟩ ⟨fun _ => false, fun _ _ => 0⟩
        (sampleTask 480 0) ⟨KdbusMeta.zero, 0⟩ (some ⟨⟨0, 0, 0⟩, false, [⟨[97], by decide⟩]⟩)
        (Category.names.bit ||| Category.cmdline.bit)).1.meta
    m.srcNames = some ⟨0, kdbusPartHeaderSize⟩ ∧ m.data = some 2 := by
  decide

end Kdbus
