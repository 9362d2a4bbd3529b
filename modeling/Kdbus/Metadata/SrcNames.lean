import Kdbus.Metadata.Producers

/-!
# The two passes of `kdbus_meta_append_src_names`

`kdbus_meta_append_src_names` walks `conn->names_list` twice.  The first pass sizes the item
by summing `strlen(name) + 1`.  The second copies each name with its NUL into `item->data` and
advances `pos`.  Only the list they both walk ties the two loops together.  This file shows
that they agree, for every list of names of every length.

* `foldl_strlen_add`, `copyNames_eq` (`Producers.lean`): the first pass counts the bytes of the
  concatenated names, and the second stores exactly that concatenation.
* `copyNames_pos_add_le`: the `strcpy` of every name ends within the first pass's total.
* `kdbusMetaAppendSrcNames_two_passes`: the two passes agree.  The item the producer writes
  has the header, payload, `src_names_len` and `src_names` the source gives it, and nothing
  outside the item changes.  With no names, nothing changes at all.
-/

namespace Kdbus

/-- The names with their NULs have as many bytes as the first pass counts. -/
lemma length_flatMap_bytes (names : List CString) :
    (names.flatMap CString.bytes).length = (names.map fun name => name.strlen + 1).sum := by
  induction names with
  | nil => rfl
  | cons name names ih => simp [ih]

/-- Every name adds at least its NUL, so some names make a positive total. -/
lemma length_flatMap_bytes_pos {names : List CString} (hn : names ≠ []) :
    0 < (names.flatMap CString.bytes).length := by
  obtain ⟨name, names, rfl⟩ := List.exists_cons_of_ne_nil hn
  simp only [List.flatMap_cons, List.length_append, CString.length_bytes]
  omega

/-- The `strcpy` of the `k`-th name, made at the `pos` the second pass has reached, ends within
the bytes of all the names. -/
lemma copyNames_pos_add_le (data : Nat) (b : Mem) (names : List CString) (k : Nat)
    (hk : k < names.length) :
    (copyNames data (b, 0) (names.take k)).2 + (names[k].strlen + 1) ≤
      (names.flatMap CString.bytes).length := by
  have hsplit : names = names.take k ++ names[k] :: names.drop (k + 1) := by
    rw [List.getElem_cons_drop, List.take_append_drop]
  rw [copyNames_eq, Nat.zero_add]
  conv_rhs => rw [hsplit]
  simp only [List.flatMap_append, List.flatMap_cons, List.length_append, CString.length_bytes]
  omega

/-- **The two passes of `kdbus_meta_append_src_names` agree.**  Let `strsize` be the first
pass's sum of `strlen(name) + 1`.  For a non-empty list of names, `strsize` is positive.  The
second pass, from any memory and any `item->data`, stores exactly `name_1 NUL ... name_k NUL`
and ends with `pos = strsize`.  Each of its `strcpy` calls, made at the `pos` the loop has
reached, ends within `strsize`.  When the slot is reserved, the call returns `0`.  Its header
holds `size = KDBUS_PART_HEADER_SIZE + strsize` and `type = KDBUS_ITEM_NAMES`, and its payload
holds the names.  Nothing outside the header and payload changes.  `src_names_len = strsize`
and `src_names` points at the payload.  With no names, the call returns `0` and leaves the
snapshot as it was. -/
theorem kdbusMetaAppendSrcNames_two_passes (slab : Slab) (w : World) (conn : KdbusConn) :
    let strsize : Nat := conn.namesList.foldl (fun s name => s + (name.strlen + 1)) 0
    (conn.namesList = [] → kdbusMetaAppendSrcNames slab w (some conn) = (w, 0)) ∧
    (conn.namesList ≠ [] →
      0 < strsize ∧ strsize = (conn.namesList.map fun name => name.strlen + 1).sum ∧
      (∀ (data : Nat) (b : Mem),
        copyNames data (b, 0) conn.namesList =
          (b.write data (conn.namesList.flatMap CString.bytes), strsize) ∧
        ∀ k (hk : k < conn.namesList.length),
          (copyNames data (b, 0) (conn.namesList.take k)).2 + (conn.namesList[k].strlen + 1) ≤
            strsize) ∧
      ∀ (w' : World) (item : Nat),
        kdbusMetaAppendItem slab w (kdbusItemSize strsize) = (w', .ok item) →
        (kdbusMetaAppendSrcNames slab w (some conn)).2 = 0 ∧
        (kdbusMetaAppendSrcNames slab w (some conn)).1.meta.bytes.read item 8 =
          le64 (kdbusPartHeaderSize + strsize) ∧
        (kdbusMetaAppendSrcNames slab w (some conn)).1.meta.bytes.read (item + 8) 8 =
          le64 ItemType.names.code ∧
        (kdbusMetaAppendSrcNames slab w (some conn)).1.meta.bytes.read
            (item + kdbusPartHeaderSize) strsize = conn.namesList.flatMap CString.bytes ∧
        (∀ i, i < item ∨ item + kdbusPartHeaderSize + strsize ≤ i →
          (kdbusMetaAppendSrcNames slab w (some conn)).1.meta.bytes i = w'.meta.bytes i) ∧
        (kdbusMetaAppendSrcNames slab w (some conn)).1.meta.srcNamesLen = strsize ∧
        (kdbusMetaAppendSrcNames slab w (some conn)).1.meta.srcNames =
          w'.meta.data.map fun a => ⟨a, item + kdbusPartHeaderSize⟩) := by
  intro strsize
  have hsize : strsize = (namesPayload conn).length := by
    simp only [strsize, foldl_strlen_add, Nat.zero_add, namesPayload]
  refine ⟨fun hn => by simp [kdbusMetaAppendSrcNames, hn], fun hn => ?_⟩
  have hpos : 0 < strsize := hsize ▸ length_flatMap_bytes_pos hn
  refine ⟨hpos, hsize.trans (length_flatMap_bytes _), fun data b => ⟨?_, fun k hk => ?_⟩,
    fun w' item h => ?_⟩
  · rw [copyNames_eq, hsize, Nat.add_zero, Nat.zero_add]; rfl
  · exact hsize ▸ copyNames_pos_add_le data b _ k hk
  · -- the producer is an `emit` of the names item, and `emit` stores the item's bytes
    let it : Item := ⟨.names, namesPayload conn⟩
    have hp : namesPayload conn ≠ [] := List.ne_nil_of_length_pos (hsize ▸ hpos)
    have hrun : kdbusMetaAppendSrcNames slab w (some conn) =
        (Producer.srcNames conn).finish
          (w'.setBytes (w'.meta.bytes.write item it.bytes), .ok item) := by
      rw [kdbusMetaAppendSrcNames_eq, if_neg hp]
      simp only [emit, Producer.item, ← hsize, h]
    obtain ⟨h₁, h₂, h₃⟩ := (Mem.holds_write w'.meta.bytes item it.bytes).fields
    rw [hrun]
    refine ⟨rfl, h₁.trans (by rw [hsize]; rfl), h₂, by rw [hsize]; exact h₃, fun i hi => ?_,
      hsize.symm, rfl⟩
    refine Mem.write_of_lt_or_le _ _ _ ?_
    simp only [Item.bytes, List.length_append, length_le64, it, ← hsize]
    unfold kdbusPartHeaderSize at hi
    omega

/-- Two names, `a` and `bc`, on a fresh snapshot with an allocator that never fails: the slot
is at offset `0`, and its payload holds `a NUL b c NUL`. -/
theorem kdbusMetaAppendSrcNames_two_passes_two_names :
    let conn : KdbusConn := ⟨⟨0, 0, 0⟩, false, [⟨[97], by decide⟩, ⟨[98, 99], by decide⟩]⟩
    let slab : Slab := ⟨fun _ => false, fun _ _ => 0⟩
    let w : World := ⟨KdbusMeta.zero, 0⟩
    conn.namesList ≠ [] ∧
    (kdbusMetaAppendItem slab w (kdbusItemSize 5)).2 = .ok 0 ∧
    (kdbusMetaAppendSrcNames slab w (some conn)).1.meta.bytes.read 16 5 = [97, 0, 98, 99, 0] ∧
    (kdbusMetaAppendSrcNames slab w (some conn)).1.meta.srcNamesLen = 5 := by
  intro conn slab w
  -- the first pass's total, named so that the kernel never compares two evaluated snapshots
  have hs : conn.namesList.foldl (fun s name => s + (name.strlen + 1)) 0 = 5 := rfl
  have hitem : (kdbusMetaAppendItem slab w (kdbusItemSize 5)).2 = .ok 0 := rfl
  have hslot : kdbusMetaAppendItem slab w
      (kdbusItemSize (conn.namesList.foldl (fun s name => s + (name.strlen + 1)) 0)) =
        ((kdbusMetaAppendItem slab w (kdbusItemSize 5)).1, .ok 0) := by
    rw [hs]; exact Prod.ext rfl hitem
  obtain ⟨-, -, -, hpay, -, hlen, -⟩ :=
    (kdbusMetaAppendSrcNames_two_passes slab w conn).2 (by decide) |>.2.2.2 _ 0 hslot
  rw [hs] at hpay hlen
  exact ⟨by decide, hitem, hpay, hlen⟩

end Kdbus
