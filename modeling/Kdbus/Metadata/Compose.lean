import Kdbus.Metadata.Blob
import Kdbus.Metadata.Return

/-!
# How calls compose

A message's metadata is gathered by several calls of `kdbus_meta_append` on one snapshot, as
receivers with different attach masks ask for it.  This file says what a later call may and may
not do to the work of an earlier one.

* **`runAppend_extends`** — from any reachable snapshot, any further calls only append: the
  items already in the blob stay where they are, byte for byte, and the blob never shrinks.
  This holds whatever fails.
* `kdbusMetaAppend_getLsbD_eq` — with memory to spare and the task's lookups resolving, one call
  sets exactly the bits of the compiled-in categories its mask asks for.
* **`kdbusMetaAppend_attached_split`** — hence asking for `a` and then for `b` attaches the same
  categories as asking for `a ||| b` at once.
-/

namespace Kdbus

/-! ## The blob only grows -/

/-- A blob that gains items keeps its old bytes. -/
lemma blob_append_of_lt (items extra : List Item) {i : Nat} (hi : i < (encodeItems items).length) :
    blob (items ++ extra) i = blob items i := by
  rw [blob, blob, encodeItems_append, ← Mem.write_write_append, Nat.zero_add]
  exact Mem.write_of_lt_or_le _ _ _ (.inl hi)

section Extends

variable {slab : Slab} {which : BitVec 64} {blocks : List (Category × (Slab → World → World × Int))}

/-- Blocks that only append keep the old items at the front of the blob. -/
lemma attachBlocks_extends
    (hb : ∀ b ∈ blocks, BlockItems b.1.itemTypes (b.1 ∈ alwaysWritten) b.2) (w : World)
    {items : List Item} (hl : Layout w.meta items) :
    ∃ extra, Layout (attachBlocks slab which blocks w 0).1.meta (items ++ extra) :=
  attachBlocks_inv (fun w _ => ∃ extra, Layout w.meta (items ++ extra))
    (fun b hb' w _ _ ⟨e, hl⟩ _ _ => by
      obtain ⟨e₁, hl₁, -⟩ := hb b hb' slab w _ hl
      rw [List.append_assoc] at hl₁
      exact ⟨fun _ => ⟨_, hl₁⟩, fun _ => ⟨_, hl₁.congr rfl rfl rfl rfl⟩⟩)
    (le_refl 0) ⟨[], by simpa using hl⟩

end Extends

lemma runAppend_extends_of (cfg : Config) (slab : Slab) :
    ∀ (calls : List Call) {w : World} {items : List Item}, Layout w.meta items →
      ∃ extra, Layout (runAppend cfg slab w calls).meta (items ++ extra)
  | [], _, items, hl => ⟨[], by simpa using hl⟩
  | call :: calls, w, items, hl => by
    obtain ⟨e₁, hl₁⟩ : ∃ extra, Layout
        (kdbusMetaAppend cfg slab call.task w call.conn call.which).1.meta (items ++ extra) :=
      kdbusMetaAppend_rec (P := fun r => ∃ extra, Layout r.1.meta (items ++ extra))
        ⟨[], by simpa using hl⟩ fun c _ =>
          attachBlocks_extends (blockItems_metaBlocks cfg call.task c) w hl
    obtain ⟨e₂, hl₂⟩ := runAppend_extends_of cfg slab calls hl₁
    exact ⟨e₁ ++ e₂, by simpa using hl₂⟩

/-- **Later calls only append.**  Take any snapshot reached from a zero-initialised one by any
calls, and run any further calls on it, whatever allocations fail.  The blob of the first
snapshot is a prefix of the blob of the second, item by item: `meta->size` never decreases, and
no byte below the first `meta->size` changes.  So an item a receiver has located in the blob
keeps its offset and its contents. -/
theorem runAppend_extends (cfg : Config) (slab : Slab) (n : Nat) (calls₁ calls₂ : List Call) :
    let w₁ : World := runAppend cfg slab ⟨KdbusMeta.zero, n⟩ calls₁
    let w₂ : World := runAppend cfg slab w₁ calls₂
    ∃ items extra, Layout w₁.meta items ∧ Layout w₂.meta (items ++ extra) ∧
      w₁.meta.size ≤ w₂.meta.size ∧ ∀ i < w₁.meta.size, w₂.meta.bytes i = w₁.meta.bytes i := by
  intro w₁ w₂
  have h₀ : Layout (World.mk KdbusMeta.zero n).meta [] := layout_zero
  obtain ⟨items, hl₁⟩ := runAppend_extends_of cfg slab calls₁ h₀
  rw [List.nil_append] at hl₁
  obtain ⟨extra, hl₂⟩ := runAppend_extends_of cfg slab calls₂ hl₁
  refine ⟨items, extra, hl₁, hl₂, ?_, fun i hi => ?_⟩
  · rw [hl₁.size_eq, hl₂.size_eq, encodeItems_append, List.length_append]
    exact Nat.le_add_right _ _
  · rw [hl₁.size_eq] at hi
    rw [hl₂.bytes_eq, hl₁.bytes_eq, blob_append_of_lt _ _ hi]

/-! ## Splitting a mask -/

section Blocks

variable {slab : Slab} {which : BitVec 64} {blocks : List (Category × (Slab → World → World × Int))}

/-- Running the blocks sets a bit only for a block's category that the mask asks for. -/
lemma attachBlocks_getLsbD_of_set (hb : ∀ b ∈ blocks, BlockSpec b.2) (w : World)
    {i : Nat} (h : (attachBlocks slab which blocks w 0).1.meta.attached.getLsbD i) :
    w.meta.attached.getLsbD i ∨ which.getLsbD i ∧ ∃ c ∈ blocks.map Prod.fst, c.index = i :=
  attachBlocks_inv (fun w' _ => ∀ i, w'.meta.attached.getLsbD i →
      w.meta.attached.getLsbD i ∨ which.getLsbD i ∧ ∃ c ∈ blocks.map Prod.fst, c.index = i)
    (fun b hb' w' _ _ hinv hw _ => by
      have ha := (hb b hb').attached slab w'
      refine ⟨fun _ i hi => hinv i (ha ▸ hi), fun _ i hi => ?_⟩
      simp only [World.attach_meta_attached, BitVec.getLsbD_or, ha, Category.getLsbD_bit,
        Bool.or_eq_true, decide_eq_true_eq] at hi
      rcases hi with hi | rfl
      · exact hinv i hi
      · exact .inr ⟨hw, b.1, List.mem_map_of_mem _ hb', rfl⟩)
    (le_refl 0) (fun i hi => .inl hi) i h

end Blocks

/-- **One call sets exactly the requested compiled-in bits.**  When no allocation fails and the
task's lookups resolve, bit `i` of `meta->attached` after a call from a connection is set iff
it was set before, or the mask has it and it is the bit of a category the kernel is built
with. -/
lemma kdbusMetaAppend_getLsbD_eq (cfg : Config) {slab : Slab} {task : Task}
    (hs : ∀ n, slab.fails n = false) (ht : task.Resolves) (w : World) (conn : KdbusConn)
    (which : BitVec 64) (i : Nat) :
    (kdbusMetaAppend cfg slab task w (some conn) which).1.meta.attached.getLsbD i =
      (w.meta.attached.getLsbD i ||
        which.getLsbD i && (compiledCategories cfg).any fun c => c.index == i) := by
  apply Bool.eq_iff_iff.mpr
  simp only [Bool.or_eq_true, Bool.and_eq_true, List.any_eq_true, beq_iff_eq]
  constructor
  · refine kdbusMetaAppend_rec (P := fun r => r.1.meta.attached.getLsbD i →
      w.meta.attached.getLsbD i ∨ which.getLsbD i ∧ ∃ c ∈ compiledCategories cfg, c.index = i)
      .inl fun c hc h => ?_
    cases hc
    rw [← metaBlocks_map_fst cfg task conn]
    exact attachBlocks_getLsbD_of_set (blockSpec_metaBlocks cfg task conn) w h
  · rintro (h | ⟨hw, c, hc, rfl⟩)
    · exact (kdbusMetaAppend_getLsbD cfg slab task (some conn) which w i).1 h
    · exact kdbusMetaAppend_covers cfg slab task which w conn
        (kdbusMetaAppend_nonneg cfg w conn which hs ht) c hc hw

/-- **Splitting a mask attaches the same categories.**  When no allocation fails and the tasks'
lookups resolve, a call for `a` followed by a call for `b` leaves `meta->attached` as one call
for `a ||| b` does, whatever the connections and tasks of the three calls. -/
theorem kdbusMetaAppend_attached_split (cfg : Config) (slab : Slab) (task₁ task₂ task : Task)
    (w : World) (conn₁ conn₂ conn : KdbusConn) (a b : BitVec 64)
    (hs : ∀ n, slab.fails n = false) (h₁ : task₁.Resolves) (h₂ : task₂.Resolves)
    (h : task.Resolves) :
    (kdbusMetaAppend cfg slab task₂ (kdbusMetaAppend cfg slab task₁ w (some conn₁) a).1
        (some conn₂) b).1.meta.attached =
      (kdbusMetaAppend cfg slab task w (some conn) (a ||| b)).1.meta.attached := by
  apply BitVec.eq_of_getLsbD_eq
  intro i
  rw [kdbusMetaAppend_getLsbD_eq cfg hs h₂, kdbusMetaAppend_getLsbD_eq cfg hs h₁,
    kdbusMetaAppend_getLsbD_eq cfg hs h, BitVec.getLsbD_or, Bool.or_assoc,
    Bool.and_or_distrib_right]

/-- TIMESTAMP and then COMM from a fresh snapshot, against both at once. -/
theorem kdbusMetaAppend_attached_split_timestamp_comm :
    let slab : Slab := ⟨fun _ => false, fun _ _ => 0⟩
    let conn : KdbusConn := ⟨⟨0, 0, 0⟩, false, []⟩
    (∀ n, slab.fails n = false) ∧ (sampleTask 10 0).Resolves ∧
    (kdbusMetaAppend ⟨true, true, true, 40⟩ slab (sampleTask 10 0)
        (kdbusMetaAppend ⟨true, true, true, 40⟩ slab (sampleTask 10 0) ⟨KdbusMeta.zero, 0⟩
          (some conn) Category.timestamp.bit).1 (some conn) Category.comm.bit).1.meta.attached =
      (kdbusMetaAppend ⟨true, true, true, 40⟩ slab (sampleTask 10 0) ⟨KdbusMeta.zero, 0⟩
        (some conn) (Category.timestamp.bit ||| Category.comm.bit)).1.meta.attached := by
  intro slab conn
  have hs : ∀ n, slab.fails n = false := fun _ => rfl
  have ht : (sampleTask 10 0).Resolves := ⟨fun e h => (by cases h), fun e h => (by cases h; rfl)⟩
  exact ⟨hs, ht, kdbusMetaAppend_attached_split _ slab _ _ _ _ conn conn conn _ _ hs ht ht ht⟩

end Kdbus
