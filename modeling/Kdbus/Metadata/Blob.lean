import Kdbus.Metadata.Append

/-!
# What a run leaves in the blob

`kdbus_meta_append` is called again and again on one `struct kdbus_meta`, with whatever mask
the receiver asks for, and any allocation on the way may fail.  This file follows the blob
across whole runs and says what a reader of `meta->data` may rely on.

* `Category.itemTypes` — the `KDBUS_ITEM_*` types the block of each `KDBUS_ATTACH_*` writes.
* `BlockItems` — what a block appends: items of its category's types, no type twice, and, for
  the blocks that always write, every one of them when the block does not fail.
  `blockItems_metaBlocks`: every block of `metadata.c` meets it.
* **`runAppend_blobInv`** — after any run from a zero-initialised snapshot the buffer holds
  items laid out back to back, which a reader decodes; every item belongs to a category some
  call asked for; and every attached category among TIMESTAMP, CREDS, COMM, CAPS, CGROUP and
  AUDIT has all its items in the blob.
* **`runAppend_nodup`** — in a run where no call fails, no item type occurs twice and every
  item's category is attached.  A failed call breaks both
  (`kdbusMetaAppend_comm_retry_duplicates`).
-/

namespace Kdbus

/-! ## Categories and item types -/

/-- The `KDBUS_ITEM_*` types the block of a category writes, in order. -/
def Category.itemTypes : Category → List ItemType
  | .timestamp => [.timestamp] | .creds => [.creds] | .names => [.names]
  | .comm => [.tidComm, .pidComm] | .exe => [.exe] | .cmdline => [.cmdline]
  | .cgroup => [.cgroup] | .caps => [.caps] | .seclabel => [.seclabel] | .audit => [.audit]

/-- An item type belongs to one category at most. -/
lemma Category.eq_of_mem_itemTypes {c d : Category} {t : ItemType} (hc : t ∈ c.itemTypes)
    (hd : t ∈ d.itemTypes) : c = d := by
  cases c <;> cases d <;> simp_all [Category.itemTypes]

/-- The categories whose block, when it does not fail, always appends all its items: the
others may append nothing (no names, no executable, no argument area, no security label). -/
def alwaysWritten : List Category := [.timestamp, .creds, .comm, .caps, .cgroup, .audit]

/-! ## What a block appends -/

/-- What a block appends to a laid-out blob: items of the types `ts`, no type twice; and when
`writes` holds and the block does not fail, an item of every type of `ts`. -/
def BlockItems (ts : List ItemType) (writes : Prop) (f : Slab → World → World × Int) : Prop :=
  ∀ slab w items, Layout w.meta items → ∃ extra, Layout (f slab w).1.meta (items ++ extra) ∧
    (∀ it ∈ extra, it.type ∈ ts) ∧ (extra.map Item.type).Nodup ∧
    (writes → 0 ≤ (f slab w).2 → ∀ t ∈ ts, t ∈ extra.map Item.type)

namespace BlockItems

variable {ts ts₁ ts₂ : List ItemType} {P Q : Prop} {f g : Slab → World → World × Int}

lemma mono (hf : BlockItems ts P f) (h : Q → P) : BlockItems ts Q f := fun slab w items hl =>
  (hf slab w items hl).imp fun _ ⟨hl', ht, hn, hw⟩ => ⟨hl', ht, hn, hw ∘ h⟩

/-- A block that appends nothing; it writes vacuously when it fails. -/
lemma const (r : Int) : BlockItems ts (r < 0) fun _ w => (w, r) := fun _ _ items hl =>
  ⟨[], by simpa using hl, by simp, by simp, fun hr hr' => absurd hr (not_lt.mpr hr')⟩

/-- A producer appends its item, unless its payload is empty; it fails only with `-ENOMEM`,
changing nothing. -/
lemma run (p : Producer) :
    BlockItems [p.item.type] (p.item.payload ≠ []) fun slab w => p.run slab w := by
  intro slab w items hl
  beta_reduce
  rcases p.run_spec slab hl with h | ⟨-, hl', -⟩
  · refine ⟨[], by rw [h]; simpa using hl, by simp, by simp, fun _ hr => ?_⟩
    rw [h] at hr; simp [enomem] at hr
  · refine ⟨p.appended, hl', ?_, ?_, fun hp _ => ?_⟩ <;>
      simp only [Producer.appended] <;> split_ifs <;> simp_all

/-- A scratch page first: its failure is a failure of the block. -/
lemma freePage (hf : BlockItems ts P f) :
    BlockItems ts P fun slab w =>
      match getFreePage slab w with
      | (w, false) => (w, -enomem)
      | (w, true) => f slab w := by
  intro slab w items hl
  beta_reduce
  cases h : slab.fails w.allocs <;> simp only [getFreePage, h, Bool.not_true, Bool.not_false]
  · exact hf slab w.attempt items hl
  · exact ⟨[], by simpa using hl, by simp, by simp, fun _ hr => by simp [enomem] at hr⟩

/-- Two blocks one after the other, stopping at a negative return, writing disjoint types. -/
lemma seq (hf : BlockItems ts₁ P f) (hg : BlockItems ts₂ Q g)
    (hd : ∀ t ∈ ts₁, t ∉ ts₂) :
    BlockItems (ts₁ ++ ts₂) (P ∧ Q) fun slab w =>
      match f slab w with
      | (w, r) => if r < 0 then (w, r) else g slab w := by
  intro slab w items hl
  beta_reduce
  obtain ⟨e₁, hl₁, ht₁, hn₁, hw₁⟩ := hf slab w items hl
  rcases h : f slab w with ⟨w', r⟩
  rw [h] at hl₁ hw₁
  dsimp only
  split_ifs with hr
  · exact ⟨e₁, hl₁, fun it hit => List.mem_append_left _ (ht₁ it hit), hn₁,
      fun _ hr' => absurd hr (not_lt.mpr hr')⟩
  · obtain ⟨e₂, hl₂, ht₂, hn₂, hw₂⟩ := hg slab w' (items ++ e₁) hl₁
    refine ⟨e₁ ++ e₂, by simpa using hl₂,
      fun it hit => List.mem_append.mpr ((List.mem_append.mp hit).imp (ht₁ it) (ht₂ it)), ?_,
      fun ⟨hp, hq⟩ hr' t ht => ?_⟩
    · rw [List.map_append, List.nodup_append]
      refine ⟨hn₁, hn₂, fun a ha hb => ?_⟩
      obtain ⟨x, hx, rfl⟩ := List.mem_map.mp ha
      obtain ⟨y, hy, hxy⟩ := List.mem_map.mp hb
      exact hd _ (ht₁ x hx) (hxy ▸ ht₂ y hy)
    · rw [List.map_append, List.mem_append]
      exact (List.mem_append.mp ht).imp (hw₁ hp (not_lt.mp hr) t) (hw₂ hq hr' t)

end BlockItems

lemma blockItems_exe (task : Task) :
    BlockItems Category.exe.itemTypes False fun slab => kdbusMetaAppendExe slab task := by
  unfold kdbusMetaAppendExe
  cases task.exePath with
  | none => exact (BlockItems.const 0).mono False.elim
  | unresolvable => exact ((BlockItems.const 0).freePage).mono False.elim
  | path p => exact ((BlockItems.run (.data .exe p.bytes)).freePage).mono False.elim

lemma blockItems_cmdline (task : Task) :
    BlockItems Category.cmdline.itemTypes False fun slab => kdbusMetaAppendCmdline slab task := by
  unfold kdbusMetaAppendCmdline
  refine BlockItems.freePage ?_
  cases task.args with
  | none => exact (BlockItems.const 0).mono False.elim
  | some a =>
    by_cases h : min a.uncopied (min a.args.length pageSize) = 0 <;>
      simp only [h, if_true, if_false]
    · exact (BlockItems.run (.data .cmdline (a.args.take (min a.args.length pageSize)))).mono
        False.elim
    · exact (BlockItems.const _).mono False.elim

/-- A `cgroup` block that does not fail has written the path. -/
lemma blockItems_cgroup (task : Task) :
    BlockItems Category.cgroup.itemTypes True fun slab => kdbusMetaAppendCgroup slab task := by
  unfold kdbusMetaAppendCgroup
  refine BlockItems.freePage ?_
  cases task.cgroupPath with
  | error e => exact (BlockItems.const _).mono fun _ => by simp [e.pos]
  | ok path =>
    have hp : (Producer.str .cgroup path).item.payload ≠ [] := by
      simp [Producer.item, CString.bytes]
    exact (BlockItems.run (.str .cgroup path)).mono fun _ => hp

lemma blockItems_seclabel (task : Task) :
    BlockItems Category.seclabel.itemTypes False fun slab => kdbusMetaAppendSeclabel slab task := by
  unfold kdbusMetaAppendSeclabel
  cases task.secctx with
  | error e =>
    by_cases h : (e : Nat) = eopnotsupp <;> simp only [h, if_true, if_false] <;>
      exact (BlockItems.const _).mono False.elim
  | ok label =>
    by_cases h : label.length > 0 <;> simp only [h, if_true, if_false]
    · exact (BlockItems.run (.data .seclabel label)).mono False.elim
    · exact (BlockItems.const 0).mono False.elim

/-- A producer whose payload has a fixed positive length writes it. -/
lemma BlockItems.run_of_length (p : Producer) {n : Nat} (hn : p.item.payload.length = n + 1)
    {P : Prop} : BlockItems [p.item.type] P fun slab w => p.run slab w :=
  (BlockItems.run p).mono fun _ h => by simp [h] at hn

/-- **The blocks of `kdbus_meta_append`, one case each.**  A property of every block follows
from one proof per block; the last three are needed only when the kernel is built with them. -/
lemma metaBlocks_forall {cfg : Config} {task : Task} {conn : KdbusConn}
    {P : Category → (Slab → World → World × Int) → Prop}
    (htimestamp : P .timestamp fun slab => kdbusMetaAppendTimestamp slab task)
    (hcreds : P .creds fun slab => kdbusMetaAppendCred slab task)
    (hnames : P .names fun slab w => kdbusMetaAppendSrcNames slab w (some conn))
    (hcomm : P .comm fun slab => appendComm slab task)
    (hexe : P .exe fun slab => kdbusMetaAppendExe slab task)
    (hcmdline : P .cmdline fun slab => kdbusMetaAppendCmdline slab task)
    (hcaps : P .caps fun slab => kdbusMetaAppendCaps slab cfg task)
    (hcgroup : cfg.cgroups → P .cgroup fun slab => kdbusMetaAppendCgroup slab task)
    (haudit : cfg.auditsyscall → P .audit fun slab => kdbusMetaAppendAudit slab task)
    (hseclabel : cfg.security → P .seclabel fun slab => kdbusMetaAppendSeclabel slab task) :
    ∀ b ∈ metaBlocks cfg task conn, P b.1 b.2 := by
  intro b hb
  simp only [metaBlocks, List.mem_append, List.mem_cons, List.mem_singleton,
    List.not_mem_nil, or_false] at hb
  rcases hb with (((hb | hb | hb | hb | hb | hb | hb) | hb) | hb) | hb
  all_goals first
    | subst hb; assumption
    | (split_ifs at hb with hc <;> simp only [List.mem_singleton, List.not_mem_nil] at hb
       subst hb; simp only [hc, true_implies] at *; assumption)

/-- **Every block of `kdbus_meta_append` meets `BlockItems`** for its category's types, and the
blocks of `alwaysWritten` write all of them when they do not fail. -/
lemma blockItems_metaBlocks (cfg : Config) (task : Task) (conn : KdbusConn) :
    ∀ b ∈ metaBlocks cfg task conn, BlockItems b.1.itemTypes (b.1 ∈ alwaysWritten) b.2 :=
  metaBlocks_forall (P := fun c f => BlockItems c.itemTypes (c ∈ alwaysWritten) f)
    (BlockItems.run_of_length (.timestamp task) (n := 15)
      (by simp [Producer.item, timestampPayload]))
    (BlockItems.run_of_length (.cred task) (n := 39) (by simp [Producer.item, credsPayload]))
    ((BlockItems.run (.srcNames conn)).mono fun h => by simp [alwaysWritten] at h)
    (((BlockItems.run (.str .tidComm task.groupLeaderComm)).seq
      (BlockItems.run (.str .pidComm task.comm)) (by simp [Producer.item])).mono fun _ =>
        ⟨by simp [Producer.item, CString.bytes], by simp [Producer.item, CString.bytes]⟩)
    ((blockItems_exe task).mono fun h => by simp [alwaysWritten] at h)
    ((blockItems_cmdline task).mono fun h => by simp [alwaysWritten] at h)
    (BlockItems.run_of_length (.data .caps (capsPayload cfg task)) (n := 31)
      (by simp [Producer.item, capsPayload, kernelCapabilityU32s, Function.comp_def]))
    (fun _ => (blockItems_cgroup task).mono fun _ => trivial)
    (fun _ => BlockItems.run_of_length (.data .audit (auditPayload task)) (n := 15)
      (by simp [Producer.item, auditPayload]))
    (fun _ => (blockItems_seclabel task).mono fun h => by simp [alwaysWritten] at h)

/-! ## Any run: what the blob holds -/

lemma Category.index_injective : Function.Injective Category.index := by
  intro a b h; cases a <;> cases b <;> first | rfl | exact absurd h (by decide)

/-- What a reader of the blob may rely on, for the categories that satisfy `P`: the buffer holds
`items` laid out back to back; every item belongs to a category of `P`; and every attached
category of `alwaysWritten` has all its items in the blob. -/
structure BlobInv (P : Category → Prop) (m : KdbusMeta) (items : List Item) : Prop where
  layout : Layout m items
  requested : ∀ it ∈ items, ∃ c, it.type ∈ c.itemTypes ∧ P c
  written : ∀ c ∈ alwaysWritten, m.attached.getLsbD c.index → ∀ t ∈ c.itemTypes,
    t ∈ items.map Item.type

lemma blobInv_zero (P : Category → Prop) : BlobInv P KdbusMeta.zero [] :=
  ⟨layout_zero, by simp, fun c _ h => by simp [KdbusMeta.zero] at h⟩

/-- One block of a category of `P` keeps `BlobInv`, before and, when it does not fail, after
its category is marked attached. -/
lemma blobInv_block (slab : Slab) {P : Category → Prop} {c : Category}
    {f : Slab → World → World × Int} (hs : BlockSpec f)
    (hi : BlockItems c.itemTypes (c ∈ alwaysWritten) f) (hc : P c) {w : World}
    {items : List Item} (h : BlobInv P w.meta items) :
    ∃ extra, BlobInv P (f slab w).1.meta (items ++ extra) ∧
      (0 ≤ (f slab w).2 → BlobInv P ((f slab w).1.attach c).meta (items ++ extra)) := by
  obtain ⟨extra, hl, htype, -, hw⟩ := hi slab w items h.layout
  have ha := hs.attached slab w
  have hreq : ∀ it ∈ items ++ extra, ∃ d, it.type ∈ d.itemTypes ∧ P d := by
    intro it hit
    rcases List.mem_append.mp hit with hit | hit
    · exact h.requested it hit
    · exact ⟨c, htype it hit, hc⟩
  have hsub : ∀ t ∈ items.map Item.type, t ∈ (items ++ extra).map Item.type := by
    intro t ht; rw [List.map_append]; exact List.mem_append_left _ ht
  refine ⟨extra, ⟨hl, hreq, fun d hd hb t ht => ?_⟩, fun hr => ⟨hl.congr rfl rfl rfl rfl, hreq,
    fun d hd hb t ht => ?_⟩⟩
  · rw [ha] at hb; exact hsub t (h.written d hd hb t ht)
  · simp only [World.attach_meta_attached, BitVec.getLsbD_or, ha, Category.getLsbD_bit,
      Bool.or_eq_true, decide_eq_true_eq] at hb
    rcases hb with hb | hb
    · exact hsub t (h.written d hd hb t ht)
    · obtain rfl := Category.index_injective hb
      rw [List.map_append]; exact List.mem_append_right _ (hw hd hr t ht)

section Blocks

variable {slab : Slab} {which : BitVec 64} {P : Category → Prop}
  {blocks : List (Category × (Slab → World → World × Int))}

/-- **Running the blocks keeps an invariant** of the snapshot and the last return value that
every block that runs keeps: on a failure, which ends the call, and on success once its
category is attached.  A block runs only after blocks that did not fail, so it may assume a
non-negative return value before it. -/
lemma attachBlocks_inv (Inv : World → Int → Prop)
    (hstep : ∀ b ∈ blocks, ∀ w ret, 0 ≤ ret → Inv w ret → which.getLsbD b.1.index →
      w.meta.attached.getLsbD b.1.index = false →
        ((b.2 slab w).2 < 0 → Inv (b.2 slab w).1 (b.2 slab w).2) ∧
        (0 ≤ (b.2 slab w).2 → Inv ((b.2 slab w).1.attach b.1) (b.2 slab w).2))
    {w : World} {ret : Int} (hret : 0 ≤ ret) (h : Inv w ret) :
    Inv (attachBlocks slab which blocks w ret).1 (attachBlocks slab which blocks w ret).2 := by
  induction blocks generalizing w ret with
  | nil => exact h
  | cons b blocks ih =>
    obtain ⟨c, f⟩ := b
    obtain ⟨hf, hstep⟩ := List.forall_mem_cons.mp hstep
    rcases hfw : f slab w with ⟨w', r⟩
    simp only [attachBlocks, hfw]
    split_ifs with hg hr
    all_goals try
      have hrun := hf w ret hret h ((and_bit_ne_zero_iff _ _).mp hg.1)
        ((and_bit_eq_zero_iff _ _).mp hg.2)
      simp only [hfw] at hrun
    · exact hrun.1 hr
    · exact ih hstep (not_lt.mp hr) (hrun.2 (not_lt.mp hr))
    · exact ih hstep hret h

/-- Blocks whose categories, as far as the mask asks for them, satisfy `P` keep `BlobInv`. -/
lemma attachBlocks_blobInv
    (hb : ∀ b ∈ blocks, BlockSpec b.2 ∧ BlockItems b.1.itemTypes (b.1 ∈ alwaysWritten) b.2)
    (hP : ∀ c, which.getLsbD c.index → P c) (w : World) {items : List Item}
    (h : BlobInv P w.meta items) :
    ∃ items', BlobInv P (attachBlocks slab which blocks w 0).1.meta items' :=
  attachBlocks_inv (fun w _ => ∃ items, BlobInv P w.meta items)
    (fun b hb' w _ _ ⟨items, h⟩ hw _ => by
      obtain ⟨extra, h₁, h₂⟩ := blobInv_block slab (hb b hb').1 (hb b hb').2 (hP b.1 hw) h
      exact ⟨fun _ => ⟨_, h₁⟩, fun hr => ⟨_, h₂ hr⟩⟩)
    (le_refl 0) ⟨items, h⟩

end Blocks

/-- **What a call does**: it returns `0` and changes nothing for a message from the kernel or
a mask that asks for nothing new, and otherwise runs the blocks for the connection. -/
lemma kdbusMetaAppend_rec {cfg : Config} {slab : Slab} {task : Task} {w : World}
    {conn : Option KdbusConn} {which : BitVec 64} {P : World × Int → Prop} (hskip : P (w, 0))
    (hrun : ∀ c, conn = some c → P (attachBlocks slab which (metaBlocks cfg task c) w 0)) :
    P (kdbusMetaAppend cfg slab task w conn which) := by
  unfold kdbusMetaAppend
  rcases conn with _ | c
  · exact hskip
  · dsimp only; split_ifs
    · exact hskip
    · exact hrun c rfl

/-- One call keeps `BlobInv` for the categories its mask asks for. -/
lemma kdbusMetaAppend_blobInv (cfg : Config) (slab : Slab) (task : Task) (w : World)
    (conn : Option KdbusConn) (which : BitVec 64) {P : Category → Prop}
    (hP : ∀ c, which.getLsbD c.index → P c) {items : List Item} (h : BlobInv P w.meta items) :
    ∃ items', BlobInv P (kdbusMetaAppend cfg slab task w conn which).1.meta items' :=
  kdbusMetaAppend_rec (P := fun r => ∃ items', BlobInv P r.1.meta items') ⟨items, h⟩ fun c _ =>
    attachBlocks_blobInv (fun b hb => ⟨blockSpec_metaBlocks cfg task c b hb,
      blockItems_metaBlocks cfg task c b hb⟩) hP w h

lemma runAppend_blobInv_of (cfg : Config) (slab : Slab) {P : Category → Prop} :
    ∀ (calls : List Call), (∀ call ∈ calls, ∀ c, call.which.getLsbD c.index → P c) →
      ∀ {w : World} {items : List Item}, BlobInv P w.meta items →
        ∃ items', BlobInv P (runAppend cfg slab w calls).meta items'
  | [], _, _, items, h => ⟨items, h⟩
  | call :: calls, hP, w, _, h => by
    obtain ⟨hc, hP'⟩ := List.forall_mem_cons.mp hP
    obtain ⟨items', h'⟩ := kdbusMetaAppend_blobInv cfg slab call.task w call.conn call.which hc h
    exact runAppend_blobInv_of cfg slab calls hP' h'

/-- **Any run leaves a blob a reader can trust.**  Run any calls of `kdbus_meta_append` on a
zero-initialised snapshot, with any tasks, connections and masks, whatever allocations fail:
the buffer holds a list of items laid out back to back, and a reader walking it with
`KDBUS_ITEM_FOREACH` visits exactly them and reads each back.  Every item belongs to a
category that some call asked for.  And every attached category among TIMESTAMP, CREDS, COMM,
CAPS, CGROUP and AUDIT has all its item types in the blob.  The other four may be attached with
nothing written. -/
theorem runAppend_blobInv (cfg : Config) (slab : Slab) (n : Nat) (calls : List Call) :
    ∃ items, BlobInv (fun c => ∃ call ∈ calls, call.which.getLsbD c.index)
        (runAppend cfg slab ⟨KdbusMeta.zero, n⟩ calls).meta items ∧
      ((runAppend cfg slab ⟨KdbusMeta.zero, n⟩ calls).meta.size < 2 ^ 64 →
        ∀ fuel, items.length ≤ fuel →
          Decodes (runAppend cfg slab ⟨KdbusMeta.zero, n⟩ calls).meta items fuel) := by
  have h₀ : BlobInv (fun c => ∃ call ∈ calls, call.which.getLsbD c.index)
      (World.mk KdbusMeta.zero n).meta [] := blobInv_zero _
  obtain ⟨items, h⟩ := runAppend_blobInv_of cfg slab calls
    (fun call hcall _ hc => ⟨call, hcall, hc⟩) h₀
  exact ⟨items, h, fun hs _ hf => h.layout.decodes hs hf⟩

/-! ## Runs without failures: no item twice -/

/-- A blob with no item type twice, every item of an attached category. -/
structure NodupBlob (m : KdbusMeta) (items : List Item) : Prop where
  layout : Layout m items
  nodup : (items.map Item.type).Nodup
  attached : ∀ it ∈ items, ∃ c : Category, it.type ∈ c.itemTypes ∧ m.attached.getLsbD c.index

lemma nodupBlob_zero : NodupBlob KdbusMeta.zero [] := ⟨layout_zero, List.nodup_nil, by simp⟩

/-- A block that runs because its category is not attached appends only types the blob lacks:
every type there belongs to an attached category.  Marking its category attached, as the call
does when the block does not fail, keeps `NodupBlob`. -/
lemma nodupBlob_block (slab : Slab) {c : Category} {P : Prop} {f : Slab → World → World × Int}
    (hs : BlockSpec f) (hi : BlockItems c.itemTypes P f) {w : World} {items : List Item}
    (hc : w.meta.attached.getLsbD c.index = false) (h : NodupBlob w.meta items) :
    ∃ extra, NodupBlob ((f slab w).1.attach c).meta (items ++ extra) := by
  obtain ⟨extra, hl, htype, hn, -⟩ := hi slab w items h.layout
  have ha := hs.attached slab w
  refine ⟨extra, hl.congr rfl rfl rfl rfl, ?_, fun it hit => ?_⟩
  · rw [List.map_append, List.nodup_append]
    refine ⟨h.nodup, hn, ?_⟩
    intro t ht₁ ht₂
    obtain ⟨x, hx, rfl⟩ := List.mem_map.mp ht₁
    obtain ⟨y, hy, hxy⟩ := List.mem_map.mp ht₂
    obtain ⟨d, hd, had⟩ := h.attached x hx
    obtain rfl := Category.eq_of_mem_itemTypes hd (hxy ▸ htype y hy)
    rw [hc] at had
    exact Bool.false_ne_true had
  · simp only [World.attach_meta_attached, BitVec.getLsbD_or, ha, Category.getLsbD_bit,
      Bool.or_eq_true, decide_eq_true_eq]
    rcases List.mem_append.mp hit with hit | hit
    · obtain ⟨d, hd, had⟩ := h.attached it hit
      exact ⟨d, hd, .inl had⟩
    · exact ⟨c, htype it hit, .inr rfl⟩

/-- Blocks that end without a failure keep `NodupBlob`. -/
lemma attachBlocks_nodupBlob {slab : Slab} {which : BitVec 64}
    {blocks : List (Category × (Slab → World → World × Int))}
    (hb : ∀ b ∈ blocks, BlockSpec b.2 ∧ BlockItems b.1.itemTypes (b.1 ∈ alwaysWritten) b.2)
    (w : World) {items : List Item} (h : NodupBlob w.meta items)
    (hok : 0 ≤ (attachBlocks slab which blocks w 0).2) :
    ∃ items', NodupBlob (attachBlocks slab which blocks w 0).1.meta items' :=
  attachBlocks_inv (fun w r => 0 ≤ r → ∃ items, NodupBlob w.meta items)
    (fun b hb' w _ hret hinv _ hc => by
      obtain ⟨items, h⟩ := hinv hret
      obtain ⟨extra, h'⟩ := nodupBlob_block slab (hb b hb').1 (hb b hb').2 hc h
      exact ⟨fun hr hr' => absurd hr' (not_le.mpr hr), fun _ _ => ⟨_, h'⟩⟩)
    (le_refl 0) (fun _ => ⟨items, h⟩) hok

/-- One call that does not fail keeps `NodupBlob`. -/
lemma kdbusMetaAppend_nodupBlob (cfg : Config) (slab : Slab) (task : Task) (w : World)
    (conn : Option KdbusConn) (which : BitVec 64) {items : List Item} (h : NodupBlob w.meta items)
    (hok : 0 ≤ (kdbusMetaAppend cfg slab task w conn which).2) :
    ∃ items', NodupBlob (kdbusMetaAppend cfg slab task w conn which).1.meta items' :=
  kdbusMetaAppend_rec (P := fun r => 0 ≤ r.2 → ∃ items', NodupBlob r.1.meta items')
    (fun _ => ⟨items, h⟩)
    (fun c _ => attachBlocks_nodupBlob (fun b hb => ⟨blockSpec_metaBlocks cfg task c b hb,
      blockItems_metaBlocks cfg task c b hb⟩) w h) hok

lemma runAppend_nodupBlob_of (cfg : Config) (slab : Slab) :
    ∀ (calls : List Call) {w : World} {items : List Item},
      (∀ i (hi : i < calls.length), 0 ≤ (kdbusMetaAppend cfg slab calls[i].task
        (runAppend cfg slab w (calls.take i)) calls[i].conn calls[i].which).2) →
      NodupBlob w.meta items → ∃ items', NodupBlob (runAppend cfg slab w calls).meta items'
  | [], _, items, _, h => ⟨items, h⟩
  | call :: calls, w, _, hok, h => by
    obtain ⟨items', h'⟩ := kdbusMetaAppend_nodupBlob cfg slab call.task w call.conn call.which h
      (by simpa [runAppend] using hok 0 (by simp))
    exact runAppend_nodupBlob_of cfg slab calls
      (fun i hi => by simpa [runAppend] using hok (i + 1) (by simpa using hi)) h'

/-- **Without failures no item type repeats.**  Run calls of `kdbus_meta_append` on a
zero-initialised snapshot, none of which returns a negative value: the blob never holds two
items of one type, and every item belongs to an attached category.  So every category's items
were written by one block, once.  A failed call can leave items of a category that is not
attached, which its retry writes again (`kdbusMetaAppend_comm_retry_duplicates`). -/
theorem runAppend_nodup (cfg : Config) (slab : Slab) (n : Nat) (calls : List Call)
    (hok : ∀ i (hi : i < calls.length), 0 ≤ (kdbusMetaAppend cfg slab calls[i].task
      (runAppend cfg slab ⟨KdbusMeta.zero, n⟩ (calls.take i)) calls[i].conn calls[i].which).2) :
    ∃ items, NodupBlob (runAppend cfg slab ⟨KdbusMeta.zero, n⟩ calls).meta items :=
  runAppend_nodupBlob_of cfg slab calls hok
    (nodupBlob_zero : NodupBlob (World.mk KdbusMeta.zero n).meta [])

/-- Two calls, for TIMESTAMP and then for COMM and TIMESTAMP, with an allocator that never
fails: neither fails, and the blob holds one item of each type. -/
theorem runAppend_nodup_timestamp_comm :
    let cfg : Config := ⟨false, false, false, 40⟩
    let slab : Slab := ⟨fun _ => false, fun _ _ => 0⟩
    let conn : Option KdbusConn := some ⟨⟨0, 0, 0⟩, false, []⟩
    let calls : List Call := [⟨sampleTask 10 0, conn, Category.timestamp.bit⟩,
      ⟨sampleTask 10 0, conn, Category.comm.bit ||| Category.timestamp.bit⟩]
    (∀ i (hi : i < calls.length), 0 ≤ (kdbusMetaAppend cfg slab calls[i].task
      (runAppend cfg slab ⟨KdbusMeta.zero, 0⟩ (calls.take i)) calls[i].conn calls[i].which).2) ∧
    ∃ items, NodupBlob (runAppend cfg slab ⟨KdbusMeta.zero, 0⟩ calls).meta items := by
  intro cfg slab conn calls
  have hok : ∀ i (hi : i < calls.length), 0 ≤ (kdbusMetaAppend cfg slab calls[i].task
      (runAppend cfg slab ⟨KdbusMeta.zero, 0⟩ (calls.take i)) calls[i].conn calls[i].which).2 := by
    decide
  exact ⟨hok, runAppend_nodup cfg slab 0 calls hok⟩

end Kdbus
