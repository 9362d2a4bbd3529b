import Kdbus.Metadata.Model

/-!
# The item writer: what one call does, and how the buffer grows

`kdbus_meta_append_item` has five outcomes, and `kdbusMetaAppendItem_spec` lists them: the first
allocation fails; it succeeds; the record fits; the buffer has to grow and the allocation fails;
it grows.  Every later proof about one call goes through this lemma; only the comparisons of
two allocators (`Layout.lean`) and `kdbusMetaAppendItem_attached`, which holds of every
snapshot, unfold the definition.

Two facts follow at once and are used everywhere: a call that fails leaves the snapshot alone
(`kdbusMetaAppendItem_error`), and a call that succeeds returns the old end of the blob as the
new record's offset, with room for the whole aligned record behind it
(`kdbusMetaAppendItem_ok`).

**`kdbusMetaAppendItem_growth`** is the growth law over whole runs: once the buffer exists its
capacity is a power of two of at least 512 bytes, below twice the larger of the blob and the
first reservation, the blob is aligned and fits, every reallocation at least doubles the
capacity, and so a run that reallocated `r` times has at least `512 * 2 ^ r` bytes.
-/

namespace Kdbus

variable {slab : Slab} {w : World} {e : Nat}

/-! ## Field lemmas -/

@[simp] lemma World.attempt_meta (w : World) : w.attempt.meta = w.meta := rfl

@[simp] lemma World.attempt_allocs (w : World) : w.attempt.allocs = w.allocs + 1 := rfl

@[simp] lemma World.reserve_meta_size (w : World) (e : Nat) :
    (w.reserve e).meta.size = w.meta.size + kdbusAlign8 e := rfl

@[simp] lemma World.reserve_meta_data (w : World) (e : Nat) :
    (w.reserve e).meta.data = w.meta.data := rfl

@[simp] lemma World.reserve_meta_allocatedSize (w : World) (e : Nat) :
    (w.reserve e).meta.allocatedSize = w.meta.allocatedSize := rfl

@[simp] lemma World.reserve_meta_bytes (w : World) (e : Nat) :
    (w.reserve e).meta.bytes = w.meta.bytes := rfl

@[simp] lemma World.reserve_meta_attached (w : World) (e : Nat) :
    (w.reserve e).meta.attached = w.meta.attached := rfl

@[simp] lemma World.reserve_meta_srcNames (w : World) (e : Nat) :
    (w.reserve e).meta.srcNames = w.meta.srcNames := rfl

@[simp] lemma World.reserve_meta_srcNamesLen (w : World) (e : Nat) :
    (w.reserve e).meta.srcNamesLen = w.meta.srcNamesLen := rfl

@[simp] lemma World.reserve_allocs (w : World) (e : Nat) : (w.reserve e).allocs = w.allocs := rfl

@[simp] lemma World.kzallocData_meta_size (w : World) (s : Nat) :
    (w.kzallocData s).meta.size = w.meta.size := rfl

@[simp] lemma World.kzallocData_meta_data (w : World) (s : Nat) :
    (w.kzallocData s).meta.data = some w.allocs := rfl

@[simp] lemma World.kzallocData_meta_allocatedSize (w : World) (s : Nat) :
    (w.kzallocData s).meta.allocatedSize = s := rfl

@[simp] lemma World.kzallocData_meta_attached (w : World) (s : Nat) :
    (w.kzallocData s).meta.attached = w.meta.attached := rfl

@[simp] lemma World.kzallocData_meta_srcNames (w : World) (s : Nat) :
    (w.kzallocData s).meta.srcNames = w.meta.srcNames := rfl

@[simp] lemma World.kzallocData_meta_srcNamesLen (w : World) (s : Nat) :
    (w.kzallocData s).meta.srcNamesLen = w.meta.srcNamesLen := rfl

@[simp] lemma World.kzallocData_allocs (w : World) (s : Nat) :
    (w.kzallocData s).allocs = w.allocs + 1 := rfl

@[simp] lemma World.kmallocData_meta_size (w : World) (s : Nat) :
    (w.kmallocData slab s).meta.size = w.meta.size := rfl

@[simp] lemma World.kmallocData_meta_data (w : World) (s : Nat) :
    (w.kmallocData slab s).meta.data = some w.allocs := rfl

@[simp] lemma World.kmallocData_meta_allocatedSize (w : World) (s : Nat) :
    (w.kmallocData slab s).meta.allocatedSize = s := rfl

@[simp] lemma World.kmallocData_meta_attached (w : World) (s : Nat) :
    (w.kmallocData slab s).meta.attached = w.meta.attached := rfl

@[simp] lemma World.kmallocData_meta_srcNames (w : World) (s : Nat) :
    (w.kmallocData slab s).meta.srcNames = w.meta.srcNames := rfl

@[simp] lemma World.kmallocData_meta_srcNamesLen (w : World) (s : Nat) :
    (w.kmallocData slab s).meta.srcNamesLen = w.meta.srcNamesLen := rfl

@[simp] lemma World.kmallocData_allocs (w : World) (s : Nat) :
    (w.kmallocData slab s).allocs = w.allocs + 1 := rfl

/-! ## One call -/

/-- **The outcomes of `kdbus_meta_append_item`**, for a snapshot whose blob is empty while it
has no buffer: the first allocation fails; the record fits; the first allocation succeeds; the
buffer must grow and that allocation fails (the first disjunct again); or it grows. -/
lemma kdbusMetaAppendItem_spec (slab : Slab) (w : World) (e : Nat)
    (h : w.meta.data = none → w.meta.size = 0) :
    kdbusMetaAppendItem slab w e = (w.attempt, .error (-enomem)) ∨
    (w.meta.data.isSome ∧ w.meta.size + kdbusAlign8 e ≤ w.meta.allocatedSize ∧
      kdbusMetaAppendItem slab w e = (w.reserve e, .ok w.meta.size)) ∨
    (w.meta.data = none ∧ kdbusMetaAppendItem slab w e =
      ((w.kzallocData (roundupPowOfTwo (256 + kdbusAlign8 e))).reserve e, .ok 0)) ∨
    (w.meta.data.isSome ∧ w.meta.allocatedSize < w.meta.size + kdbusAlign8 e ∧
      kdbusMetaAppendItem slab w e =
        ((w.kmallocData slab (roundupPowOfTwo (w.meta.size + kdbusAlign8 e))).reserve e,
          .ok w.meta.size)) := by
  unfold kdbusMetaAppendItem
  cases hd : w.meta.data with
  | none =>
    have hs := h hd
    have hn : ¬ roundupPowOfTwo (256 + kdbusAlign8 e) < kdbusAlign8 e := by
      have := (roundupPowOfTwo_spec (n := 256 + kdbusAlign8 e) (by omega)).1; omega
    by_cases hf : slab.fails w.allocs <;> simp [hd, hf, hs, hn]
  | some a =>
    by_cases hg : w.meta.allocatedSize < w.meta.size + kdbusAlign8 e
    · by_cases hf : slab.fails w.allocs <;> simp [hd, hf, hg]
    · simp [hd, hg]; omega

/-- No call touches the attached categories. -/
lemma kdbusMetaAppendItem_attached (slab : Slab) (w : World) (e : Nat) :
    (kdbusMetaAppendItem slab w e).1.meta.attached = w.meta.attached := by
  unfold kdbusMetaAppendItem; split_ifs <;> simp <;> split_ifs <;> simp

/-- A call that fails changes nothing but the attempt counter. -/
lemma kdbusMetaAppendItem_error (h : w.meta.data = none → w.meta.size = 0) {r : Int}
    (hr : (kdbusMetaAppendItem slab w e).2 = .error r) :
    (kdbusMetaAppendItem slab w e).1 = w.attempt ∧ r = -enomem := by
  rcases kdbusMetaAppendItem_spec slab w e h with
    h₁ | ⟨-, -, h₁⟩ | ⟨-, h₁⟩ | ⟨-, -, h₁⟩ <;> rw [h₁] at hr ⊢ <;> simp_all

/-- A call that succeeds returns the old end of the blob, leaves a buffer that holds the whole
aligned record and stays a multiple of eight, and keeps the attached categories,
`src_names` and `src_names_len`. -/
lemma kdbusMetaAppendItem_ok (h : w.meta.data = none → w.meta.size = 0) {off : Nat}
    (hr : (kdbusMetaAppendItem slab w e).2 = .ok off) :
    let w' := (kdbusMetaAppendItem slab w e).1
    off = w.meta.size ∧ w'.meta.size = w.meta.size + kdbusAlign8 e ∧
      w'.meta.size ≤ w'.meta.allocatedSize ∧ w'.meta.data.isSome ∧
      w'.meta.attached = w.meta.attached ∧ w'.meta.srcNames = w.meta.srcNames ∧
      w'.meta.srcNamesLen = w.meta.srcNamesLen ∧
      (w.meta.size % 8 = 0 → w.meta.allocatedSize % 8 = 0 → w'.meta.allocatedSize % 8 = 0) := by
  have ha := kdbusAlign8_spec e
  have hr' := (roundupPowOfTwo_spec (n := 256 + kdbusAlign8 e) (by omega)).1
  rcases kdbusMetaAppendItem_spec slab w e h with
    h₁ | ⟨hd, hle, h₁⟩ | ⟨hd, h₁⟩ | ⟨hd, hlt, h₁⟩ <;> rw [h₁] at hr ⊢ <;> simp at hr
  · exact ⟨hr.symm, rfl, hle, hd, rfl, rfl, rfl, fun _ h => h⟩
  · simp only [← hr, h hd, World.reserve_meta_size, World.kzallocData_meta_size,
      World.reserve_meta_allocatedSize, World.kzallocData_meta_allocatedSize,
      World.reserve_meta_data, World.kzallocData_meta_data, Option.isSome_some,
      World.reserve_meta_attached, World.kzallocData_meta_attached, World.reserve_meta_srcNames,
      World.kzallocData_meta_srcNames, World.reserve_meta_srcNamesLen,
      World.kzallocData_meta_srcNamesLen, true_and, and_true]
    exact ⟨by omega, fun _ _ => roundupPowOfTwo_mod_eight (by omega)⟩
  · have := (roundupPowOfTwo_spec (n := w.meta.size + kdbusAlign8 e) (by omega)).1
    exact ⟨hr.symm, rfl, this, by simp, rfl, rfl, rfl,
      fun _ _ => roundupPowOfTwo_mod_eight (by omega)⟩

/-! ## Growth over a run -/

/-- A run of `kdbus_meta_append_item` calls with the given extra sizes. -/
def runAppendItem (slab : Slab) : World → List Nat → World
  | w, [] => w
  | w, e :: es => runAppendItem slab (kdbusMetaAppendItem slab w e).1 es

/-- How many calls of a run replaced an existing buffer by a larger one. -/
def reallocCount (slab : Slab) : World → List Nat → Nat
  | _, [] => 0
  | w, e :: es =>
    (if w.meta.data.isSome ∧ (kdbusMetaAppendItem slab w e).1.meta.data ≠ w.meta.data then 1
      else 0) + reallocCount slab (kdbusMetaAppendItem slab w e).1 es

/-- The shape of an allocated buffer.  `first` is the extra size of the call that allocated
it. -/
structure GrowthInv (first : Nat) (m : KdbusMeta) : Prop where
  allocated : m.data.isSome
  pow_two : ∃ k, m.allocatedSize = 2 ^ k
  ge_512 : 512 ≤ m.allocatedSize
  aligned : m.size % 8 = 0
  size_le : m.size ≤ m.allocatedSize
  lt_twice : m.allocatedSize < 2 * max m.size (256 + kdbusAlign8 first)

/-- `roundup_pow_of_two` above `256 + 8` is at least 512. -/
lemma le_roundupPowOfTwo_of_ge {n : Nat} (h : 264 ≤ n) : 512 ≤ roundupPowOfTwo n := by
  have h₁ := (roundupPowOfTwo_spec (n := n) (by omega)).1
  have h₂ : 2 ^ 8 < 2 ^ flsLong (n - 1) := by unfold roundupPowOfTwo at h₁; omega
  exact two_pow_succ_le_of_lt h₂

/-- The first successful call establishes the invariant. -/
lemma growthInv_first (h₀ : w.meta.data = none) (hs : w.meta.size = 0) (he : 1 ≤ e)
    (hd : ((kdbusMetaAppendItem slab w e).1.meta.data).isSome) :
    GrowthInv e (kdbusMetaAppendItem slab w e).1.meta := by
  have ha := kdbusAlign8_spec e
  rcases kdbusMetaAppendItem_spec slab w e (fun _ => hs) with
    h₁ | ⟨hd', -, -⟩ | ⟨-, h₁⟩ | ⟨hd', -, -⟩
  · rw [h₁] at hd; simp [h₀] at hd
  · simp [h₀] at hd'
  · rw [h₁]
    have hr := roundupPowOfTwo_spec (n := 256 + kdbusAlign8 e) (by omega)
    exact ⟨by simp, ⟨_, rfl⟩, le_roundupPowOfTwo_of_ge (by omega), by simp [hs, ha.1],
      by simp [hs]; omega, by simp; omega⟩
  · simp [h₀] at hd'

/-- Every later call keeps the invariant and never shrinks the buffer, and a reallocation at
least doubles it. -/
lemma growthInv_step (slab : Slab) (e : Nat) {first : Nat} (hi : GrowthInv first w.meta) :
    GrowthInv first (kdbusMetaAppendItem slab w e).1.meta ∧
    w.meta.allocatedSize ≤ (kdbusMetaAppendItem slab w e).1.meta.allocatedSize ∧
    ((kdbusMetaAppendItem slab w e).1.meta.data ≠ w.meta.data →
      2 * w.meta.allocatedSize ≤ (kdbusMetaAppendItem slab w e).1.meta.allocatedSize) := by
  have ha := kdbusAlign8_spec e
  have hnone : w.meta.data ≠ none := by simpa [Option.isSome_iff_ne_none] using hi.allocated
  rcases kdbusMetaAppendItem_spec slab w e (fun h => absurd h hnone) with
    h₁ | ⟨-, hle, h₁⟩ | ⟨hd, -⟩ | ⟨-, hlt, h₁⟩ <;> try rw [h₁]
  · exact ⟨hi, le_rfl, by simp⟩
  · refine ⟨⟨hi.allocated, hi.pow_two, hi.ge_512, ?_, ?_, ?_⟩, le_rfl, by simp⟩
    · simp [Nat.add_mod, hi.aligned, ha.1]
    · simpa using hle
    · have := hi.lt_twice; simp only [World.reserve_meta_allocatedSize,
        World.reserve_meta_size]; omega
  · exact absurd hd hnone
  · obtain ⟨k, hk⟩ := hi.pow_two
    have hr := roundupPowOfTwo_spec (n := w.meta.size + kdbusAlign8 e) (by omega)
    have hdouble : 2 * w.meta.allocatedSize ≤ roundupPowOfTwo (w.meta.size + kdbusAlign8 e) := by
      rw [hk, ← Nat.pow_succ']
      exact two_pow_succ_le_of_lt (by unfold roundupPowOfTwo at hr; omega)
    refine ⟨⟨by simp, ⟨_, rfl⟩, ?_, ?_, ?_, ?_⟩, by simp; omega,
      fun _ => by simpa using hdouble⟩ <;>
      simp only [World.reserve_meta_allocatedSize, World.reserve_meta_size,
        World.kmallocData_meta_allocatedSize, World.kmallocData_meta_size]
    · have := hi.ge_512; omega
    · simp [Nat.add_mod, hi.aligned, ha.1]
    · exact hr.1
    · omega

/-- From an allocated buffer, a run keeps the invariant and every reallocation doubles. -/
lemma growthInv_run (slab : Slab) {first : Nat} :
    ∀ {w : World} (es : List Nat), GrowthInv first w.meta →
      GrowthInv first (runAppendItem slab w es).meta ∧
        w.meta.allocatedSize * 2 ^ reallocCount slab w es ≤
          (runAppendItem slab w es).meta.allocatedSize
  | w, [], hi => by simp [runAppendItem, reallocCount, hi]
  | w, e :: es, hi => by
    obtain ⟨hi', hmono, hdouble⟩ := growthInv_step slab e hi
    obtain ⟨hrun, hle⟩ := growthInv_run slab es hi'
    refine ⟨hrun, ?_⟩
    simp only [runAppendItem, reallocCount, hi.allocated, true_and]
    split
    · calc w.meta.allocatedSize * 2 ^ (1 + reallocCount slab _ es)
          = 2 * w.meta.allocatedSize * 2 ^ reallocCount slab _ es := by
            rw [Nat.pow_add, Nat.pow_one]; ac_rfl
        _ ≤ _ * 2 ^ reallocCount slab _ es := Nat.mul_le_mul_right _ (hdouble ‹_›)
        _ ≤ _ := hle
    · rw [Nat.zero_add]
      exact le_trans (Nat.mul_le_mul_right _ hmono) hle

/-- A call on a snapshot without buffer that leaves it without buffer was a failed first
allocation. -/
lemma kdbusMetaAppendItem_of_data_none (h₀ : w.meta.data = none) (hs : w.meta.size = 0)
    (h : (kdbusMetaAppendItem slab w e).1.meta.data = none) :
    (kdbusMetaAppendItem slab w e).1 = w.attempt := by
  rcases kdbusMetaAppendItem_spec slab w e (fun _ => hs) with
    h₁ | ⟨hd, -, -⟩ | ⟨-, h₁⟩ | ⟨hd, -, -⟩
  · rw [h₁]
  · simp [h₀] at hd
  · rw [h₁] at h; simp at h
  · simp [h₀] at hd

/-- A run from a snapshot without buffer either never allocates, or from the call that does,
keeps `GrowthInv` with that call's extra size and doubles at every reallocation. -/
lemma growth_run (slab : Slab) :
    ∀ {w : World} (es : List Nat), w.meta.data = none → w.meta.size = 0 →
    (∀ e ∈ es, 1 ≤ e) →
    ((runAppendItem slab w es).meta.data = none ∧ (runAppendItem slab w es).meta.size = 0) ∨
    ∃ pre first post, es = pre ++ first :: post ∧ (runAppendItem slab w pre).meta.data = none ∧
      (kdbusMetaAppendItem slab (runAppendItem slab w pre) first).1.meta.data ≠ none ∧
      GrowthInv first (runAppendItem slab w es).meta ∧
      512 * 2 ^ reallocCount slab w es ≤ (runAppendItem slab w es).meta.allocatedSize
  | w, [], h₀, hs, _ => .inl ⟨h₀, hs⟩
  | w, e :: es, h₀, hs, hpos => by
    by_cases hd : (kdbusMetaAppendItem slab w e).1.meta.data = none
    · have hw := kdbusMetaAppendItem_of_data_none h₀ hs hd
      have hcount : reallocCount slab w (e :: es) = reallocCount slab w.attempt es := by
        simp [reallocCount, h₀, hw]
      rcases growth_run slab (w := w.attempt) es h₀ hs (fun x hx => hpos x (by simp [hx])) with
        h | ⟨pre, first, post, rfl, hpre, hfirst, hi, hle⟩
      · exact .inl (by simpa [runAppendItem, hw] using h)
      · refine .inr ⟨e :: pre, first, post, rfl, ?_⟩
        simp only [runAppendItem, hw, hcount]
        exact ⟨hpre, hfirst, hi, hle⟩
    · have hi := growthInv_first h₀ hs (hpos e (by simp)) (Option.isSome_iff_ne_none.mpr hd)
      obtain ⟨hrun, hle⟩ := growthInv_run slab es hi
      refine .inr ⟨[], e, es, rfl, h₀, hd, hrun, ?_⟩
      have hcount : reallocCount slab w (e :: es) =
          reallocCount slab (kdbusMetaAppendItem slab w e).1 es := by
        simp [reallocCount, h₀]
      rw [hcount]
      exact le_trans (Nat.mul_le_mul_right _ hi.ge_512) hle

/-- The growth law for a run of `extras` from `w₀`.

* At every call of the run, a returned record is `[old size, old size + KDBUS_ALIGN8(extra))`
  and lies inside the buffer, and a call that replaces an existing buffer at least doubles it.
* Afterwards either no buffer was ever allocated (and the blob is empty), or some call, of
  extra size `first`, found no buffer and left one: it is the call that allocated it, earlier
  calls having failed their `kzalloc`.  Then `GrowthInv first` holds, and `r` reallocations
  leave at least `512 * 2 ^ r` bytes. -/
def GrowthLaw (slab : Slab) (w₀ : World) (extras : List Nat) : Prop :=
  (∀ pre e post, extras = pre ++ e :: post →
    let w := runAppendItem slab w₀ pre
    let w' := (kdbusMetaAppendItem slab w e).1
    (∀ off, (kdbusMetaAppendItem slab w e).2 = .ok off →
      off = w.meta.size ∧ off + kdbusAlign8 e ≤ w'.meta.allocatedSize) ∧
    (w.meta.data.isSome → w'.meta.data ≠ w.meta.data →
      2 * w.meta.allocatedSize ≤ w'.meta.allocatedSize)) ∧
  (((runAppendItem slab w₀ extras).meta.data = none ∧
      (runAppendItem slab w₀ extras).meta.size = 0) ∨
    ∃ pre first post, extras = pre ++ first :: post ∧
      (runAppendItem slab w₀ pre).meta.data = none ∧
      (kdbusMetaAppendItem slab (runAppendItem slab w₀ pre) first).1.meta.data ≠ none ∧
      GrowthInv first (runAppendItem slab w₀ extras).meta ∧
      512 * 2 ^ reallocCount slab w₀ extras ≤ (runAppendItem slab w₀ extras).meta.allocatedSize)

/-- **The growth law of `kdbus_meta_append_item`.**  From a snapshot without buffer, every run
of calls with `extra_size ≥ 1` obeys `GrowthLaw`, whatever allocations fail on the way: the
capacity is a power of two of at least 512 bytes, below twice the larger of the blob and the
first reservation, every reallocation at least doubles it, and so the number of reallocations
is logarithmic in the capacity.  Sizes are unbounded naturals here, so no `size_t` wraps and
the bound below `2 ^ 63` on the total that keeps the C arithmetic exact is not needed. -/
theorem kdbusMetaAppendItem_growth (slab : Slab) (w₀ : World) (extras : List Nat)
    (hd : w₀.meta.data = none) (hs : w₀.meta.size = 0) (hpos : ∀ e ∈ extras, 1 ≤ e) :
    GrowthLaw slab w₀ extras := by
  refine ⟨fun pre e post hsplit => ?_, growth_run slab extras hd hs hpos⟩
  have hpre : ∀ x ∈ pre, 1 ≤ x := fun x hx => hpos x (by simp [hsplit, hx])
  rcases growth_run slab pre hd hs hpre with ⟨hd', hs'⟩ | ⟨_, first, _, _, _, -, hi, -⟩
  · refine ⟨fun off hr => ?_, fun h => by simp [hd'] at h⟩
    obtain ⟨rfl, hsize, hle, -⟩ := kdbusMetaAppendItem_ok (fun _ => hs') hr
    omega
  · have hnone : (runAppendItem slab w₀ pre).meta.data ≠ none :=
      Option.isSome_iff_ne_none.mp hi.allocated
    refine ⟨fun off hr => ?_, fun _ => (growthInv_step slab e hi).2.2⟩
    obtain ⟨rfl, hsize, hle, -⟩ := kdbusMetaAppendItem_ok (fun h => absurd h hnone) hr
    omega

/-- Two calls on a fresh snapshot with an allocator that never fails: the second outgrows the
first 512 bytes. -/
theorem kdbusMetaAppendItem_growth_two_calls :
    (KdbusMeta.zero.data = none ∧ KdbusMeta.zero.size = 0 ∧ ∀ e ∈ [8, 600], 1 ≤ e) ∧
      GrowthLaw ⟨fun _ => false, fun _ _ => 0⟩ ⟨KdbusMeta.zero, 0⟩ [8, 600] :=
  ⟨⟨rfl, rfl, by decide⟩, kdbusMetaAppendItem_growth _ _ _ rfl rfl (by decide)⟩

/-- Growth is to the next power of two, not a doubling: after a TIMESTAMP record (32 bytes in
512), a record of a page of CMDLINE needs 4144 bytes and the buffer goes to 8192. -/
example : (runAppendItem ⟨fun _ => false, fun _ _ => 0⟩ ⟨KdbusMeta.zero, 0⟩
    [kdbusItemSize kdbusTimestampSize, kdbusItemSize pageSize]).meta.allocatedSize = 8192 := by
  decide

end Kdbus
