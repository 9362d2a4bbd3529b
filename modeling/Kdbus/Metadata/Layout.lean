import Kdbus.Metadata.AppendItem

/-!
# The layout of the blob

What a reachable snapshot's buffer holds: the items appended so far, one after the other from
offset zero, each padded with zeros to its slot, and zeros after the last one.  `Layout m items`
says so, and it pins the bytes down completely: `m.bytes = blob items`.

The growth path of `kdbus_meta_append_item` is the interesting case.  It copies only the first
`meta->size` bytes into a fresh `kmalloc` buffer and clears only from the old
`allocated_size` on, so the gap `[meta->size, old allocated_size)` holds whatever the
allocator left there.  The gap is narrower than the header and payload of the item that
triggered the growth, because both ends are multiples of eight and the item's slot exceeds
its declared size by less than eight; so the producer's own stores cover it.

* `kdbusMetaAppendItem_cleared` — the only difference a `kmalloc` buffer's contents make is
  in that gap.
* `emit` — what every producer does once it has its item: reserve the slot and store the
  header and payload there.  **`emit_cleared`**: on a laid-out snapshot, `emit` does not
  depend on the allocator's contents.  **`emit_spec`**: it fails without changing the
  snapshot, or appends the item to the blob.

`Producers.lean` shows that every producer of `metadata.c` is an `emit` of its item.
-/

namespace Kdbus

variable {slab : Slab} {w : World} {items : List Item} {it : Item}

/-! ## Blobs -/

/-- The buffer holding exactly the blob of `items`, and zeros after it. -/
def blob (items : List Item) : Mem := Mem.write (fun _ => 0) 0 (encodeItems items)

lemma length_encodeItems_mod (items : List Item) : (encodeItems items).length % 8 = 0 := by
  induction items with
  | nil => rfl
  | cons it items ih => simp [Nat.add_mod, ih, it.slot_spec.1]

lemma blob_holds (items : List Item) : (blob items).Holds 0 (encodeItems items) :=
  Mem.holds_write _ _ _

lemma blob_of_le {i : Nat} (h : (encodeItems items).length ≤ i) : blob items i = 0 :=
  Mem.write_of_lt_or_le _ _ _ (by omega)

lemma Mem.write_nil (m : Mem) (off : Nat) : m.write off [] = m := by
  funext i; exact Mem.write_of_lt_or_le _ _ _ (by simp; omega)

/-- Storing zeros where memory is already zero changes nothing. -/
lemma Mem.write_replicate_zero {m : Mem} {off : Nat} (n : Nat) (h : ∀ i, off ≤ i → m i = 0) :
    m.write off (List.replicate n 0) = m := by
  funext i
  by_cases hi : i < off ∨ off + n ≤ i
  · exact Mem.write_of_lt_or_le _ _ _ (by simpa using hi)
  · obtain ⟨k, rfl⟩ : ∃ k, i = off + k := ⟨i - off, by omega⟩
    rw [Mem.write_add _ _ _ (by simp; omega), h _ (by omega)]
    simp

/-- Appending an item to a blob stores its header and payload after the old end. -/
lemma blob_append (items : List Item) (it : Item) :
    blob (items ++ [it]) = (blob items).write (encodeItems items).length it.bytes := by
  have hE : encodeItems (items ++ [it]) =
      encodeItems items ++ (it.bytes ++ List.replicate (it.slot - it.size) 0) := by
    simp [encodeItems_append, Item.encode]
  rw [blob, hE, ← Mem.write_write_append, ← Mem.write_write_append, Nat.zero_add,
    Mem.write_replicate_zero]
  · rfl
  · intro i hi
    rw [Mem.write_of_lt_or_le _ _ _ (by omega), Mem.write_of_lt_or_le _ _ _ (by omega)]

/-! ## The invariant -/

/-- The snapshot's buffer holds the blob of `items` and nothing else. -/
structure Layout (m : KdbusMeta) (items : List Item) : Prop where
  bytes_eq : m.bytes = blob items
  size_eq : m.size = (encodeItems items).length
  size_le : m.size ≤ m.allocatedSize
  alloc_aligned : m.allocatedSize % 8 = 0
  unallocated : m.data = none → m.size = 0

lemma layout_zero : Layout KdbusMeta.zero [] :=
  ⟨by rw [blob, encodeItems_nil, Mem.write_nil]; rfl, rfl, le_rfl, rfl, fun _ => rfl⟩

lemma Layout.size_aligned {m : KdbusMeta} (hl : Layout m items) : m.size % 8 = 0 := by
  rw [hl.size_eq]; exact length_encodeItems_mod items

/-- The bytes after the blob are zero, up to the capacity and beyond. -/
lemma Layout.tail_zero {m : KdbusMeta} (hl : Layout m items) {i : Nat} (h : m.size ≤ i) :
    m.bytes i = 0 := by
  rw [hl.bytes_eq]; exact blob_of_le (hl.size_eq ▸ h)

/-- The invariant only looks at the buffer: the other fields may change freely. -/
lemma Layout.congr {m m' : KdbusMeta} (hl : Layout m items) (hb : m'.bytes = m.bytes)
    (hs : m'.size = m.size) (ha : m'.allocatedSize = m.allocatedSize) (hd : m'.data = m.data) :
    Layout m' items :=
  ⟨hb ▸ hl.bytes_eq, hs ▸ hl.size_eq, hs ▸ ha ▸ hl.size_le, ha ▸ hl.alloc_aligned,
    fun h => hs ▸ hl.unallocated (hd ▸ h)⟩

/-! ## What the allocator's contents reach -/

/-- The allocators with the same failures, whose `kmalloc` hands out cleared memory. -/
def Slab.cleared (slab : Slab) : Slab := ⟨slab.fails, fun _ _ => 0⟩

@[simp] lemma Slab.cleared_fails (slab : Slab) : slab.cleared.fails = slab.fails := rfl

@[simp] lemma World.setBytes_meta_bytes (w : World) (b : Mem) : (w.setBytes b).meta.bytes = b :=
  rfl

@[simp] lemma World.setBytes_meta_size (w : World) (b : Mem) :
    (w.setBytes b).meta.size = w.meta.size := rfl

@[simp] lemma World.setBytes_meta_allocatedSize (w : World) (b : Mem) :
    (w.setBytes b).meta.allocatedSize = w.meta.allocatedSize := rfl

@[simp] lemma World.setBytes_meta_data (w : World) (b : Mem) :
    (w.setBytes b).meta.data = w.meta.data := rfl

@[simp] lemma World.setBytes_meta_attached (w : World) (b : Mem) :
    (w.setBytes b).meta.attached = w.meta.attached := rfl

@[simp] lemma World.setBytes_meta_srcNames (w : World) (b : Mem) :
    (w.setBytes b).meta.srcNames = w.meta.srcNames := rfl

@[simp] lemma World.setBytes_meta_srcNamesLen (w : World) (b : Mem) :
    (w.setBytes b).meta.srcNamesLen = w.meta.srcNamesLen := rfl

@[simp] lemma World.setBytes_allocs (w : World) (b : Mem) : (w.setBytes b).allocs = w.allocs := rfl

@[simp] lemma World.setBytes_setBytes (w : World) (a b : Mem) :
    (w.setBytes a).setBytes b = w.setBytes b := rfl

/-- The buffer of the growth path: cleared from the old capacity on, the old blob below the old
size, and the allocator's contents elsewhere. -/
lemma World.kmallocData_bytes (slab : Slab) (w : World) (s i : Nat) :
    (w.kmallocData slab s).meta.bytes i =
      if w.meta.allocatedSize ≤ i ∧ i < s then 0
      else if i < w.meta.size then w.meta.bytes i else slab.kmalloc w.allocs s i := by
  simp only [World.kmallocData, Mem.memset, Mem.memcpy, Mem.write, List.getElem?_replicate,
    Mem.getElem?_read, Nat.zero_le, if_true, Nat.sub_zero, Nat.zero_add]
  by_cases h₁ : w.meta.allocatedSize ≤ i
  · have : i - w.meta.allocatedSize < s - w.meta.allocatedSize ↔ i < s := by omega
    by_cases h₂ : i < s <;> by_cases h₃ : i < w.meta.size <;> simp [h₁, h₂, h₃, this]
  · by_cases h₃ : i < w.meta.size <;> simp [h₁, h₃]

/-- **The allocator's contents reach only the gap.**  With cleared `kmalloc` memory,
`kdbus_meta_append_item` returns the same result and the same snapshot, except for the bytes
of `[meta->size, allocated_size)` when the buffer grows. -/
lemma kdbusMetaAppendItem_cleared (slab : Slab) (w : World) (e : Nat)
    (h : w.meta.data = none → w.meta.size = 0) :
    (kdbusMetaAppendItem slab.cleared w e).2 = (kdbusMetaAppendItem slab w e).2 ∧
    (kdbusMetaAppendItem slab.cleared w e).1 =
      (kdbusMetaAppendItem slab w e).1.setBytes (kdbusMetaAppendItem slab.cleared w e).1.meta.bytes ∧
    ∀ i, i < w.meta.size ∨ w.meta.allocatedSize ≤ i ∨
        w.meta.size + kdbusAlign8 e ≤ w.meta.allocatedSize →
      (kdbusMetaAppendItem slab.cleared w e).1.meta.bytes i =
        (kdbusMetaAppendItem slab w e).1.meta.bytes i := by
  unfold kdbusMetaAppendItem
  cases hd : w.meta.data with
  | none =>
    have hn : ¬ roundupPowOfTwo (256 + kdbusAlign8 e) < w.meta.size + kdbusAlign8 e := by
      have := (roundupPowOfTwo_spec (n := 256 + kdbusAlign8 e) (by omega)).1; rw [h hd]; omega
    by_cases hf : slab.fails w.allocs <;> simp [hd, hf, hn] <;> rfl
  | some a =>
    by_cases hg : w.meta.allocatedSize < w.meta.size + kdbusAlign8 e
    · by_cases hf : slab.fails w.allocs
      · simp [hd, hf, hg]; rfl
      · simp only [hd, hf, hg, Slab.cleared_fails, Option.isNone_some, Bool.false_eq_true,
          and_false, if_false, gt_iff_lt, and_true, if_true]
        refine ⟨rfl, rfl, fun i hi => ?_⟩
        simp only [World.reserve_meta_bytes, World.kmallocData_bytes, Slab.kmalloc, Slab.cleared]
        split_ifs <;> simp_all; omega
    · simp [hd, hg]; rfl

/-! ## Emitting an item -/

/-- What a producer does with its item: reserve the slot with `kdbus_meta_append_item`, then
store the header and payload there.  The result is the slot's offset, or the error. -/
def emit (slab : Slab) (w : World) (it : Item) : World × Except Int Nat :=
  match kdbusMetaAppendItem slab w (kdbusItemSize it.payload.length) with
  | (w, .error e) => (w, .error e)
  | (w, .ok item) => (w.setBytes (w.meta.bytes.write item it.bytes), .ok item)

/-- The growth condition, once both ends are multiples of eight, leaves a gap that the item's
header and payload cover. -/
lemma gap_lt_size (it : Item) {m : KdbusMeta} (hs : m.size % 8 = 0) (ha : m.allocatedSize % 8 = 0)
    (hg : m.allocatedSize < m.size + it.slot) : m.allocatedSize < m.size + it.size := by
  have := it.slot_spec; omega

/-- **`emit` does not see the allocator's contents.** -/
lemma emit_cleared (hl : Layout w.meta items) : emit slab w it = emit slab.cleared w it := by
  obtain ⟨hr, hw, hb⟩ := kdbusMetaAppendItem_cleared slab w (kdbusItemSize it.payload.length)
    hl.unallocated
  unfold emit
  rcases h : kdbusMetaAppendItem slab w (kdbusItemSize it.payload.length) with ⟨w₁, r | off⟩ <;>
    rcases h' : kdbusMetaAppendItem slab.cleared w (kdbusItemSize it.payload.length) with
      ⟨w₂, r' | off'⟩ <;>
    simp only [h, h', reduceCtorEq, Except.error.injEq, Except.ok.injEq] at hr hw hb
  · -- both fail
    obtain ⟨h₁, rfl⟩ := kdbusMetaAppendItem_error hl.unallocated (congrArg Prod.snd h)
    obtain ⟨h₁', rfl⟩ := kdbusMetaAppendItem_error hl.unallocated (congrArg Prod.snd h')
    simp only [h] at h₁; simp only [h'] at h₁'
    simp [h₁, h₁']
  · -- both succeed at the same offset
    obtain ⟨rfl, -⟩ := kdbusMetaAppendItem_ok hl.unallocated (congrArg Prod.snd h)
    subst hr
    rw [hw]
    simp only [World.setBytes_setBytes, World.setBytes_meta_bytes, Prod.mk.injEq, and_true]
    congr 1
    refine Mem.write_congr fun i hi => (hb i ?_).symm
    by_cases hg : w.meta.size + it.slot ≤ w.meta.allocatedSize
    · exact .inr (.inr hg)
    · have := gap_lt_size it hl.size_aligned hl.alloc_aligned (by omega)
      simp at hi; omega

/-- With cleared memory a successful reservation leaves the bytes as they were. -/
lemma kdbusMetaAppendItem_cleared_bytes (hl : Layout w.meta items) {e off : Nat}
    (hok : (kdbusMetaAppendItem slab.cleared w e).2 = .ok off) :
    (kdbusMetaAppendItem slab.cleared w e).1.meta.bytes = w.meta.bytes := by
  rcases kdbusMetaAppendItem_spec slab.cleared w e hl.unallocated with
    h₁ | ⟨-, -, h₁⟩ | ⟨hd, h₁⟩ | ⟨-, -, h₁⟩ <;> rw [h₁] at hok ⊢
  · simp at hok
  · rfl
  · have h0 : encodeItems items = [] := List.eq_nil_of_length_eq_zero
      (hl.size_eq ▸ hl.unallocated hd)
    simp only [World.reserve_meta_bytes, World.kzallocData, hl.bytes_eq, blob, h0, Mem.write_nil]
  · funext i
    simp only [World.reserve_meta_bytes, World.kmallocData_bytes, Slab.kmalloc, Slab.cleared]
    have := hl.size_le
    split_ifs <;> first | rfl | exact (hl.tail_zero (by omega)).symm

/-- **What `emit` does**: it fails with `-ENOMEM` and changes only the attempt counter, or it
appends the item to the blob at the old end, in a buffer that exists, touching nothing but the
buffer, its size and capacity. -/
lemma emit_spec (slab : Slab) (it : Item) (hl : Layout w.meta items) :
    emit slab w it = (w.attempt, .error (-enomem)) ∨
    ((emit slab w it).2 = .ok w.meta.size ∧ Layout (emit slab w it).1.meta (items ++ [it]) ∧
      (emit slab w it).1.meta.data.isSome ∧
      (emit slab w it).1.meta.attached = w.meta.attached ∧
      (emit slab w it).1.meta.srcNames = w.meta.srcNames ∧
      (emit slab w it).1.meta.srcNamesLen = w.meta.srcNamesLen) := by
  rw [emit_cleared hl]
  unfold emit
  rcases h : kdbusMetaAppendItem slab.cleared w (kdbusItemSize it.payload.length) with
    ⟨w₁, _ | off⟩
  · obtain ⟨h₁, h₂⟩ := kdbusMetaAppendItem_error hl.unallocated (congrArg Prod.snd h)
    simp only [h] at h₁
    exact .inl (by simp [h₁, h₂])
  · have hb := kdbusMetaAppendItem_cleared_bytes hl (congrArg Prod.snd h)
    obtain ⟨rfl, hsize, hle, hd, hatt, hsrc, hsl, hal⟩ :=
      kdbusMetaAppendItem_ok hl.unallocated (congrArg Prod.snd h)
    simp only [h] at hb hsize hle hd hatt hsrc hsl hal
    have hlen : kdbusAlign8 (kdbusItemSize it.payload.length) = it.slot := rfl
    refine .inr ⟨rfl, ⟨?_, ?_, hle, hal hl.size_aligned hl.alloc_aligned, ?_⟩, hd, hatt, hsrc, hsl⟩
    · simp [hb, hl.bytes_eq, hl.size_eq, blob_append]
    · simp [hsize, hl.size_eq, hlen, encodeItems_append]
    · intro h'; simp at h'; simp [h'] at hd

end Kdbus
