import Kdbus.Metadata.Blob
import Kdbus.Metadata.Return

/-!
# What `kdbus_meta_append` is for

A receiver of a message reads its metadata as a list of items and a mask of attached
categories.  At that level a call of `kdbus_meta_append` is simple.  It goes through the
categories the kernel is built with, in a fixed order.  It takes those the mask asks for and
the snapshot lacks, appends each one's items, and marks it attached.  Buffers, reallocation,
offsets and return codes are invisible there.

* `Category.items` — the items the block of a category appends for a task and a connection.
* `MetaSpec`, `MetaSpec.append` — the snapshot and one call, at that level.
* `Refines` — a snapshot implements an abstract one: its buffer holds the abstract items laid
  out back to back, and its attached mask is the abstract one.
* `BlockExact` — what a block appends when no allocation fails; `blockExact_metaBlocks`.
* **`runAppend_refines`** — when no allocation fails and every task's lookups resolve, any run
  of calls from a zero-initialised snapshot implements the abstract run, and a reader walking
  the buffer decodes exactly the abstract items.
* **`kdbusMetaAppend_split_perm`** — a call for `a` and then one for `b` write the items one call
  for `a ||| b` writes, in another order: at the receiver's level the pending categories of the
  two calls partition those of the one (`MetaSpec.append_split_perm`).
-/

namespace Kdbus

/-! ## The abstract model -/

/-- The items the block of a category appends for `task` and `conn`, when it does not fail: one
per item type of the category, except where the source writes nothing (no names, no
executable, no argument area or one that faults on copy, no security label). -/
def Category.items (cfg : Config) (task : Task) (conn : KdbusConn) : Category → List Item
  | .timestamp => [⟨.timestamp, timestampPayload task⟩]
  | .creds => [⟨.creds, credsPayload task⟩]
  | .names => if conn.namesList = [] then [] else [⟨.names, namesPayload conn⟩]
  | .comm => [⟨.tidComm, task.groupLeaderComm.bytes⟩, ⟨.pidComm, task.comm.bytes⟩]
  | .exe =>
    match task.exePath with
    | .path p => [⟨.exe, p.bytes⟩]
    | _ => []
  | .cmdline =>
    match task.args with
    | some a => if a.uncopied = 0 ∧ a.args ≠ [] then [⟨.cmdline, a.args.take pageSize⟩] else []
    | none => []
  | .caps => [⟨.caps, capsPayload cfg task⟩]
  | .cgroup =>
    match task.cgroupPath with
    | .ok path => [⟨.cgroup, path.bytes⟩]
    | .error _ => []
  | .audit => [⟨.audit, auditPayload task⟩]
  | .seclabel =>
    match task.secctx with
    | .ok label => if label = [] then [] else [⟨.seclabel, label⟩]
    | .error _ => []

/-- The categories of `cs` that the mask asks for and `attached` lacks, in order. -/
def pending (cs : List Category) (which attached : BitVec 64) : List Category :=
  cs.filter fun c => which.getLsbD c.index && !attached.getLsbD c.index

/-- A snapshot as a receiver sees it. -/
structure MetaSpec where
  items : List Item
  attached : BitVec 64

def MetaSpec.zero : MetaSpec := ⟨[], 0⟩

/-- One call at the receiver's level: every pending compiled-in category, in block order,
appends its items and is attached.  A message from the kernel gets nothing. -/
def MetaSpec.append (cfg : Config) (task : Task) (conn : Option KdbusConn) (which : BitVec 64)
    (s : MetaSpec) : MetaSpec :=
  match conn with
  | none => s
  | some conn =>
    let cs := pending (compiledCategories cfg) which s.attached
    ⟨s.items ++ cs.flatMap (Category.items cfg task conn), cs.foldl (fun a c => a ||| c.bit) s.attached⟩

/-- A call for COMM and the command line, from a task whose argument area faults on copy: the
two COMM items are appended, and both categories are attached. -/
example : let s := (MetaSpec.zero.append ⟨false, false, false, 40⟩ (sampleTask 10 3)
      (some ⟨⟨0, 0, 0⟩, false, []⟩) (Category.comm.bit ||| Category.cmdline.bit))
    s.items.map Item.type = [.tidComm, .pidComm] ∧
      s.attached = Category.comm.bit ||| Category.cmdline.bit := by
  decide

/-- A run of calls at the receiver's level. -/
def MetaSpec.run (cfg : Config) (s : MetaSpec) (calls : List Call) : MetaSpec :=
  calls.foldl (fun s call => s.append cfg call.task call.conn call.which) s

/-- A snapshot implements an abstract one. -/
structure Refines (m : KdbusMeta) (s : MetaSpec) : Prop where
  layout : Layout m s.items
  attached : m.attached = s.attached

lemma refines_zero : Refines KdbusMeta.zero MetaSpec.zero := ⟨layout_zero, rfl⟩

lemma pending_cons (c : Category) (cs : List Category) (which attached : BitVec 64) :
    pending (c :: cs) which attached =
      if which.getLsbD c.index ∧ attached.getLsbD c.index = false then
        c :: pending cs which attached
      else pending cs which attached := by
  simp only [pending, List.filter_cons]
  cases which.getLsbD c.index <;> cases attached.getLsbD c.index <;> simp

/-- Attaching a category that `cs` lacks does not change what is pending in `cs`. -/
lemma pending_or_bit {c : Category} {cs : List Category} (hc : c ∉ cs) (which attached : BitVec 64) :
    pending cs which (attached ||| c.bit) = pending cs which attached := by
  refine List.filter_congr fun d hd => ?_
  have hdc : d.index ≠ c.index := fun h => hc (Category.index_injective h ▸ hd)
  simp [hdc]

lemma compiledCategories_nodup (cfg : Config) : (compiledCategories cfg).Nodup := by
  unfold compiledCategories; split_ifs <;> decide

/-! ## What a block appends when memory suffices -/

/-- When no allocation fails, the block appends exactly `extra` to a laid-out blob and does
not fail. -/
def BlockExact (extra : List Item) (f : Slab → World → World × Int) : Prop :=
  ∀ slab, (∀ n, slab.fails n = false) → ∀ w items, Layout w.meta items →
    Layout (f slab w).1.meta (items ++ extra) ∧ 0 ≤ (f slab w).2

namespace BlockExact

variable {e e₁ e₂ : List Item} {f g : Slab → World → World × Int}

lemma const {r : Int} (hr : 0 ≤ r) : BlockExact [] fun _ w => (w, r) :=
  fun _ _ _ _ hl => ⟨by simpa using hl, hr⟩

/-- A producer appends its item, unless the payload is empty. -/
lemma run (p : Producer) : BlockExact p.appended fun slab w => p.run slab w := by
  intro slab hs w items hl
  beta_reduce
  rcases p.run_spec slab hl with h | ⟨hr, hl', -⟩
  · rcases p.run_ret slab w with h' | ⟨-, n, hn⟩
    · rw [h] at h'; simp [enomem] at h'
    · simp [hs] at hn
  · exact ⟨hl', le_of_eq hr.symm⟩

lemma run_eq (p : Producer) (h : p.appended = e) : BlockExact e fun slab w => p.run slab w :=
  h ▸ run p

/-- A producer whose payload is not empty appends its item. -/
lemma run_of_length (p : Producer) (hn : 0 < p.item.payload.length) :
    BlockExact [p.item] fun slab w => p.run slab w :=
  run_eq p (if_neg (List.ne_nil_of_length_pos hn))

/-- A scratch page is always had. -/
lemma freePage (hf : BlockExact e f) :
    BlockExact e fun slab w =>
      match getFreePage slab w with
      | (w, false) => (w, -enomem)
      | (w, true) => f slab w := by
  intro slab hs w items hl
  beta_reduce
  simp only [getFreePage, hs, Bool.not_false]
  exact hf slab hs w.attempt items hl

lemma seq (hf : BlockExact e₁ f) (hg : BlockExact e₂ g) :
    BlockExact (e₁ ++ e₂) fun slab w =>
      match f slab w with
      | (w, r) => if r < 0 then (w, r) else g slab w := by
  intro slab hs w items hl
  beta_reduce
  obtain ⟨hl₁, hr₁⟩ := hf slab hs w items hl
  rcases h : f slab w with ⟨w', r⟩
  rw [h] at hl₁ hr₁
  dsimp only
  rw [if_neg (not_lt.mpr hr₁)]
  obtain ⟨hl₂, hr₂⟩ := hg slab hs w' _ hl₁
  exact ⟨by simpa using hl₂, hr₂⟩

end BlockExact

section Blocks

variable (cfg : Config) {task : Task} (conn : KdbusConn)

lemma blockExact_exe : BlockExact (Category.exe.items cfg task conn)
    fun slab => kdbusMetaAppendExe slab task := by
  unfold kdbusMetaAppendExe
  simp only [Category.items]
  cases task.exePath with
  | none => exact BlockExact.const (le_refl 0)
  | unresolvable => exact (BlockExact.const (le_refl 0)).freePage
  | path p =>
    exact (BlockExact.run_eq (.data .exe p.bytes) (by simp [Producer.appended, Producer.item,
      CString.bytes])).freePage

/-- The command line block appends at most a page of the argument area, and nothing when
`copy_from_user` faults. -/
lemma blockExact_cmdline : BlockExact (Category.cmdline.items cfg task conn)
    fun slab => kdbusMetaAppendCmdline slab task := by
  unfold kdbusMetaAppendCmdline
  simp only [Category.items]
  refine BlockExact.freePage ?_
  cases task.args with
  | none => exact BlockExact.const (le_refl 0)
  | some a =>
    have hlen : a.args ≠ [] ↔ 0 < a.args.length := List.length_pos.symm
    have hP : 0 < pageSize := by decide
    by_cases hr : min a.uncopied (min a.args.length pageSize) = 0 <;>
      simp only [hr, if_true, if_false]
    · refine BlockExact.run_eq (.data .cmdline (a.args.take (min a.args.length pageSize))) ?_
      have htake : a.args.take (min a.args.length pageSize) = a.args.take pageSize :=
        List.take_eq_take.mpr (by omega)
      by_cases ha : a.args = []
      · simp [Producer.appended, Producer.item, ha]
      · have hu : a.uncopied = 0 := by have := hlen.mp ha; omega
        simp [Producer.appended, Producer.item, htake, ha, hu, List.take_eq_nil_iff, hP.ne']
    · rw [if_neg fun h => hr (by simp [h.1])]
      exact BlockExact.const (Int.natCast_nonneg _)

lemma blockExact_cgroup (ht : ∀ e, task.cgroupPath ≠ .error e) :
    BlockExact (Category.cgroup.items cfg task conn)
      fun slab => kdbusMetaAppendCgroup slab task := by
  unfold kdbusMetaAppendCgroup
  simp only [Category.items]
  refine BlockExact.freePage ?_
  cases h : task.cgroupPath with
  | error e => exact absurd h (ht e)
  | ok path =>
    exact BlockExact.run_eq (.str .cgroup path) (by simp [Producer.appended, Producer.item,
      CString.bytes])

lemma blockExact_seclabel (ht : ∀ e, task.secctx = .error e → (e : Nat) = eopnotsupp) :
    BlockExact (Category.seclabel.items cfg task conn)
      fun slab => kdbusMetaAppendSeclabel slab task := by
  unfold kdbusMetaAppendSeclabel
  simp only [Category.items]
  cases h : task.secctx with
  | error e =>
    simp only [ht e h, if_true]
    exact BlockExact.const (le_refl 0)
  | ok label =>
    by_cases hl : label = []
    · simp only [hl, List.length_nil, lt_irrefl, gt_iff_lt, if_false, if_true]
      exact BlockExact.const (le_refl 0)
    · have hpos : label.length > 0 := List.length_pos.mpr hl
      simp only [hpos, hl, if_true, if_false]
      exact BlockExact.run_eq (.data .seclabel label) (by simp [Producer.appended,
        Producer.item, hl])

/-- The names block appends the names item, unless the connection owns no name. -/
lemma blockExact_names : BlockExact (Category.names.items cfg task conn)
    fun slab w => kdbusMetaAppendSrcNames slab w (some conn) := by
  refine BlockExact.run_eq (.srcNames conn) ?_
  simp only [Producer.appended, Producer.item, Category.items, namesPayload,
    List.flatMap_eq_nil_iff]
  by_cases hn : conn.namesList = []
  · simp [hn]
  · obtain ⟨name, hname⟩ := List.exists_mem_of_ne_nil _ hn
    simp only [hn, if_false]
    rw [if_neg fun h => by simpa [CString.bytes] using h name hname]

/-- **Every block of `kdbus_meta_append` appends its category's items** when no allocation
fails and the task's lookups resolve. -/
lemma blockExact_metaBlocks (ht : task.Resolves) :
    ∀ b ∈ metaBlocks cfg task conn, BlockExact (b.1.items cfg task conn) b.2 :=
  metaBlocks_forall (P := fun c f => BlockExact (c.items cfg task conn) f)
    (BlockExact.run_of_length (.timestamp task) (by simp [Producer.item, timestampPayload]))
    (BlockExact.run_of_length (.cred task) (by simp [Producer.item, credsPayload]))
    (blockExact_names cfg conn)
    ((BlockExact.run_of_length (.str .tidComm task.groupLeaderComm) (by simp [Producer.item])).seq
      (BlockExact.run_of_length (.str .pidComm task.comm) (by simp [Producer.item])))
    (blockExact_exe cfg conn)
    (blockExact_cmdline cfg conn)
    (BlockExact.run_of_length (.data .caps (capsPayload cfg task))
      (by simp [Producer.item, capsPayload, kernelCapabilityU32s, Function.comp_def]))
    (fun _ => blockExact_cgroup cfg conn ht.1)
    (fun _ => BlockExact.run_of_length (.data .audit (auditPayload task))
      (by simp [Producer.item, auditPayload]))
    (fun _ => blockExact_seclabel cfg conn ht.2)

/-- When no allocation fails, blocks of distinct categories that append their items append,
in order, the items of the pending ones, and attach exactly those. -/
lemma attachBlocks_refines {slab : Slab} {which : BitVec 64} (hs : ∀ n, slab.fails n = false)
    {blocks : List (Category × (Slab → World → World × Int))}
    (hb : ∀ b ∈ blocks, BlockSpec b.2 ∧ BlockExact (b.1.items cfg task conn) b.2)
    (hnd : (blocks.map Prod.fst).Nodup) (w : World) {ret : Int} (hr : 0 ≤ ret)
    {items : List Item} (hl : Layout w.meta items) :
    Layout (attachBlocks slab which blocks w ret).1.meta (items ++
        (pending (blocks.map Prod.fst) which w.meta.attached).flatMap
          (Category.items cfg task conn)) ∧
      (attachBlocks slab which blocks w ret).1.meta.attached =
        (pending (blocks.map Prod.fst) which w.meta.attached).foldl
          (fun a c => a ||| c.bit) w.meta.attached := by
  induction blocks generalizing w ret items with
  | nil => exact ⟨by simpa [pending] using hl, rfl⟩
  | cons b blocks ih =>
    obtain ⟨c, f⟩ := b
    obtain ⟨⟨hspec, hex⟩, hb'⟩ :
        (BlockSpec f ∧ BlockExact (c.items cfg task conn) f) ∧ _ := (List.forall_mem_cons.mp hb :)
    obtain ⟨hc, hnd'⟩ := List.nodup_cons.mp hnd
    obtain ⟨hl₁, hr₁⟩ := hex slab hs w items hl
    rcases hfw : f slab w with ⟨w', r⟩
    have ha : w'.meta.attached = w.meta.attached := by simpa [hfw] using hspec.attached slab w
    rw [hfw] at hl₁ hr₁
    simp only [attachBlocks, hfw, List.map_cons, pending_cons, and_bit_ne_zero_iff,
      and_bit_eq_zero_iff]
    split_ifs with hg hneg
    · exact absurd hneg (not_lt.mpr hr₁)
    · obtain ⟨hl₂, ha₂⟩ := ih hb' hnd' (w'.attach c) hr₁ (hl₁.congr rfl rfl rfl rfl)
      simp only [World.attach_meta_attached, ha, pending_or_bit hc] at hl₂ ha₂
      exact ⟨by simpa using hl₂, ha₂⟩
    · exact ih hb' hnd' w hr hl

end Blocks

/-! ## The refinement -/

/-- One call implements `MetaSpec.append` when no allocation fails and the task's lookups
resolve. -/
lemma kdbusMetaAppend_refines_step (cfg : Config) {slab : Slab} {task : Task}
    (hs : ∀ n, slab.fails n = false) (ht : task.Resolves) (w : World) (conn : Option KdbusConn)
    (which : BitVec 64) {s : MetaSpec} (h : Refines w.meta s) :
    Refines (kdbusMetaAppend cfg slab task w conn which).1.meta (s.append cfg task conn which) := by
  unfold kdbusMetaAppend MetaSpec.append
  rcases conn with _ | conn
  · exact h
  · dsimp only
    rw [← h.attached]
    split_ifs with hw
    · -- every category the mask asks for is attached: nothing is pending
      have hp : pending (compiledCategories cfg) which w.meta.attached = [] := by
        refine List.filter_eq_nil_iff.mpr fun c _ => ?_
        have hc := congrArg (fun x => x.getLsbD c.index) hw
        simp only [BitVec.getLsbD_and] at hc
        cases hwc : which.getLsbD c.index <;> simp_all
      rw [hp]
      exact ⟨by simpa using h.layout, rfl⟩
    · have hb : ∀ b ∈ metaBlocks cfg task conn,
          BlockSpec b.2 ∧ BlockExact (b.1.items cfg task conn) b.2 := fun b hb =>
        ⟨blockSpec_metaBlocks cfg task conn b hb, blockExact_metaBlocks cfg conn ht b hb⟩
      have hnd := compiledCategories_nodup cfg
      rw [← metaBlocks_map_fst cfg task conn] at hnd ⊢
      obtain ⟨hl, ha⟩ := attachBlocks_refines cfg conn hs hb hnd w (le_refl 0) h.layout
      exact ⟨hl, ha⟩

lemma runAppend_refines_of (cfg : Config) {slab : Slab} (hs : ∀ n, slab.fails n = false) :
    ∀ (calls : List Call), (∀ call ∈ calls, call.task.Resolves) → ∀ {w : World} {s : MetaSpec},
      Refines w.meta s → Refines (runAppend cfg slab w calls).meta (s.run cfg calls)
  | [], _, _, _, h => h
  | call :: calls, ht, w, _, h => by
    obtain ⟨hc, ht'⟩ := List.forall_mem_cons.mp ht
    exact runAppend_refines_of cfg hs calls ht'
      (kdbusMetaAppend_refines_step cfg hs hc w call.conn call.which h)

/-- **`kdbus_meta_append` implements its abstract model.**  When no allocation fails and every
task's cgroup path and security label lookups succeed, any run of calls from a zero-initialised
snapshot leaves a buffer that holds exactly the items of the abstract run, laid out back to
back, and the abstract attached mask; a reader walking the buffer with `KDBUS_ITEM_FOREACH`
decodes exactly those items. -/
theorem runAppend_refines (cfg : Config) (slab : Slab) (n : Nat) (calls : List Call)
    (hs : ∀ n, slab.fails n = false) (ht : ∀ call ∈ calls, call.task.Resolves) :
    Refines (runAppend cfg slab ⟨KdbusMeta.zero, n⟩ calls).meta (MetaSpec.zero.run cfg calls) ∧
      ((runAppend cfg slab ⟨KdbusMeta.zero, n⟩ calls).meta.size < 2 ^ 64 →
        ∀ fuel, (MetaSpec.zero.run cfg calls).items.length ≤ fuel →
          Decodes (runAppend cfg slab ⟨KdbusMeta.zero, n⟩ calls).meta
            (MetaSpec.zero.run cfg calls).items fuel) := by
  have h₀ : Refines (World.mk KdbusMeta.zero n).meta MetaSpec.zero := refines_zero
  have h := runAppend_refines_of cfg hs calls ht h₀
  exact ⟨h, fun hsize _ hf => h.layout.decodes hsize hf⟩

lemma sampleTask_resolves (n uncopied : Nat) : (sampleTask n uncopied).Resolves :=
  ⟨fun e h => (by cases h), fun e h => (by cases h; rfl)⟩

/-- TIMESTAMP, then COMM and a command line that faults on copy, with an allocator that never
fails. -/
theorem runAppend_refines_timestamp_comm_cmdline :
    let slab : Slab := ⟨fun _ => false, fun _ _ => 0⟩
    let conn : Option KdbusConn := some ⟨⟨0, 0, 0⟩, false, []⟩
    let calls : List Call := [⟨sampleTask 10 0, conn, Category.timestamp.bit⟩,
      ⟨sampleTask 10 3, conn, Category.comm.bit ||| Category.cmdline.bit⟩]
    (∀ n, slab.fails n = false) ∧ (∀ call ∈ calls, call.task.Resolves) ∧
    Refines (runAppend ⟨false, false, false, 40⟩ slab ⟨KdbusMeta.zero, 0⟩ calls).meta
        (MetaSpec.zero.run ⟨false, false, false, 40⟩ calls) ∧
      ((runAppend ⟨false, false, false, 40⟩ slab ⟨KdbusMeta.zero, 0⟩ calls).meta.size < 2 ^ 64 →
        ∀ fuel, (MetaSpec.zero.run ⟨false, false, false, 40⟩ calls).items.length ≤ fuel →
          Decodes (runAppend ⟨false, false, false, 40⟩ slab ⟨KdbusMeta.zero, 0⟩ calls).meta
            (MetaSpec.zero.run ⟨false, false, false, 40⟩ calls).items fuel) := by
  intro slab conn calls
  have hs : ∀ n, slab.fails n = false := fun _ => rfl
  have ht : ∀ call ∈ calls, call.task.Resolves := by
    simp only [calls, List.mem_cons, List.mem_singleton, List.not_mem_nil, or_false]
    rintro _ (rfl | rfl) <;> exact sampleTask_resolves _ _
  exact ⟨hs, ht, runAppend_refines _ slab 0 calls hs ht⟩

/-! ## Splitting a mask -/

/-- Attaching the categories of a list one by one sets exactly their bits. -/
lemma getLsbD_foldl_or_bit (cs : List Category) (x : BitVec 64) (i : Nat) :
    (cs.foldl (fun a c => a ||| c.bit) x).getLsbD i =
      (x.getLsbD i || cs.any fun c => c.index == i) := by
  induction cs generalizing x with
  | nil => simp
  | cons c cs ih => simp [ih, Bool.or_assoc, @eq_comm _ i, Bool.beq_eq_decide_eq]

/-- After a call for `a`, what is pending for `b` is what `b` asks for and neither `a` nor the
snapshot had. -/
lemma pending_after (cs : List Category) (a b attached : BitVec 64) :
    pending cs b ((pending cs a attached).foldl (fun x c => x ||| c.bit) attached) =
      cs.filter fun c => b.getLsbD c.index && !a.getLsbD c.index && !attached.getLsbD c.index := by
  refine List.filter_congr fun c hc => ?_
  have hany : ((pending cs a attached).any fun d => d.index == c.index) =
      (a.getLsbD c.index && !attached.getLsbD c.index) := by
    apply Bool.eq_iff_iff.mpr
    simp only [List.any_eq_true, beq_iff_eq, pending, List.mem_filter]
    constructor
    · rintro ⟨d, ⟨-, hd⟩, hdc⟩
      rwa [← Category.index_injective hdc]
    · exact fun h => ⟨c, ⟨hc, h⟩, rfl⟩
  rw [getLsbD_foldl_or_bit, hany]
  cases a.getLsbD c.index <;> cases attached.getLsbD c.index <;> simp

/-- At the receiver's level, a call for `a` and then one for `b` append the items one call for
`a ||| b` appends, in another order. -/
lemma MetaSpec.append_split_perm (cfg : Config) (task : Task) (conn : KdbusConn) (a b : BitVec 64)
    (s : MetaSpec) :
    ((s.append cfg task (some conn) a).append cfg task (some conn) b).items.Perm
      (s.append cfg task (some conn) (a ||| b)).items := by
  simp only [MetaSpec.append, List.append_assoc, pending_after, ← List.flatMap_append]
  refine List.Perm.append_left _ (List.Perm.flatMap_right _ ?_)
  have hperm := List.filter_append_perm (fun c => a.getLsbD c.index)
    (pending (compiledCategories cfg) (a ||| b) s.attached)
  simp only [pending, List.filter_filter] at hperm ⊢
  refine (List.Perm.append (List.Perm.of_eq (List.filter_congr fun c _ => ?_))
    (List.Perm.of_eq (List.filter_congr fun c _ => ?_))).trans hperm <;>
    simp only [BitVec.getLsbD_or] <;>
    cases a.getLsbD c.index <;> cases b.getLsbD c.index <;> simp

/-- **Splitting a mask writes the same items.**  When no allocation fails and the task's
lookups resolve, take any snapshot that implements an abstract one.  A call for `a` and then a
call for `b`, from the same task and connection, leave in the buffer the items one call for
`a ||| b` leaves, in another order.  So a reader that looks items up by type sees the same
metadata either way. -/
theorem kdbusMetaAppend_split_perm (cfg : Config) (slab : Slab) (task : Task) (conn : KdbusConn)
    (a b : BitVec 64) (hs : ∀ n, slab.fails n = false) (ht : task.Resolves) (w : World)
    {s : MetaSpec} (h : Refines w.meta s) :
    ∃ items₁ items₂,
      Layout (kdbusMetaAppend cfg slab task (kdbusMetaAppend cfg slab task w (some conn) a).1
        (some conn) b).1.meta items₁ ∧
      Layout (kdbusMetaAppend cfg slab task w (some conn) (a ||| b)).1.meta items₂ ∧
      items₁.Perm items₂ :=
  have h₁ := kdbusMetaAppend_refines_step cfg hs ht w (some conn) a h
  ⟨_, _, (kdbusMetaAppend_refines_step cfg hs ht _ (some conn) b h₁).layout,
    (kdbusMetaAppend_refines_step cfg hs ht w (some conn) (a ||| b) h).layout,
    MetaSpec.append_split_perm cfg task conn a b s⟩

/-- COMM and then TIMESTAMP from a fresh snapshot, against both at once. -/
theorem kdbusMetaAppend_split_perm_comm_timestamp :
    let slab : Slab := ⟨fun _ => false, fun _ _ => 0⟩
    let conn : KdbusConn := ⟨⟨0, 0, 0⟩, false, []⟩
    let w : World := ⟨KdbusMeta.zero, 0⟩
    (∀ n, slab.fails n = false) ∧ (sampleTask 10 0).Resolves ∧ Refines w.meta MetaSpec.zero ∧
    ∃ items₁ items₂,
      Layout (kdbusMetaAppend ⟨false, false, false, 40⟩ slab (sampleTask 10 0)
        (kdbusMetaAppend ⟨false, false, false, 40⟩ slab (sampleTask 10 0) w (some conn)
          Category.comm.bit).1 (some conn) Category.timestamp.bit).1.meta items₁ ∧
      Layout (kdbusMetaAppend ⟨false, false, false, 40⟩ slab (sampleTask 10 0) w (some conn)
        (Category.comm.bit ||| Category.timestamp.bit)).1.meta items₂ ∧
      items₁.Perm items₂ := by
  intro slab conn w
  have hs : ∀ n, slab.fails n = false := fun _ => rfl
  exact ⟨hs, sampleTask_resolves 10 0, refines_zero, kdbusMetaAppend_split_perm _ slab _ conn _ _
    hs (sampleTask_resolves 10 0) w refines_zero⟩

end Kdbus
