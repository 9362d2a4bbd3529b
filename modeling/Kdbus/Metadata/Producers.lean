import Kdbus.Metadata.Layout

/-!
# The item producers

Each producer of `metadata.c` that writes an item — `kdbus_meta_append_timestamp`, `_cred`,
`_src_names`, `_data` and `_str` — sizes the item, reserves its slot with
`kdbus_meta_append_item`, and fills in the header and the payload with one or more stores.
`Producer` names them with their inputs and `Producer.item` is the item each one means to
write.

* `Producer.run_eq` — **every producer is an `emit` of its item**, or appends nothing when its
  payload is empty.  This is where the two sizes of a producer are compared: the `extra_size`
  it reserves and the `size` it stores in the header.  For `_src_names` it also takes the two
  loops over the names list: the first sums the lengths, the second copies the names.
* `Producer.run_spec` and `Producer.run_cleared` — what a producer does to a laid-out
  snapshot, and that it does not see the allocator's contents.
* **`runProducers_decode`** — after any sequence of successful appends on a zero-initialised
  snapshot, the reader's walk over the buffer visits exactly the appended items, in order,
  ends at `meta->size`, and reads back what each producer wrote.
-/

namespace Kdbus

/-! ## The producers and their items -/

/-- The payload of a `KDBUS_ITEM_TIMESTAMP` item: `monotonic_ns`, `realtime_ns`. -/
def timestampPayload (task : Task) : List UInt8 := le64 task.monotonicNs ++ le64 task.realtimeNs

/-- The payload of a `KDBUS_ITEM_NAMES` item: the owned names, each with its NUL. -/
def namesPayload (conn : KdbusConn) : List UInt8 := conn.namesList.flatMap CString.bytes

/-- The producers that write one item, with what they read. -/
inductive Producer
  | timestamp (task : Task)
  | cred (task : Task)
  | srcNames (conn : KdbusConn)
  | data (type : ItemType) (buf : List UInt8)
  | str (type : ItemType) (s : CString)

/-- Run the producer on the snapshot. -/
def Producer.run (slab : Slab) (w : World) : Producer → World × Int
  | .timestamp task => kdbusMetaAppendTimestamp slab task w
  | .cred task => kdbusMetaAppendCred slab task w
  | .srcNames conn => kdbusMetaAppendSrcNames slab w (some conn)
  | .data type buf => kdbusMetaAppendData slab w type buf
  | .str type s => kdbusMetaAppendStr slab w type s

/-- The item the producer writes. -/
def Producer.item : Producer → Item
  | .timestamp task => ⟨.timestamp, timestampPayload task⟩
  | .cred task => ⟨.creds, credsPayload task⟩
  | .srcNames conn => ⟨.names, namesPayload conn⟩
  | .data type buf => ⟨type, buf⟩
  | .str type s => ⟨type, s.bytes⟩

/-- What the producer does after its item is stored: `_src_names` points `meta->src_names` at
the payload and records its length; every producer returns `0`, or the error. -/
def Producer.finish (p : Producer) : World × Except Int Nat → World × Int
  | (w, .error e) => (w, e)
  | (w, .ok item) =>
    match p with
    | .srcNames _ =>
      let srcNames := w.meta.data.map fun a => ⟨a, item + kdbusPartHeaderSize⟩
      let m := { w.meta with srcNames := srcNames, srcNamesLen := p.item.payload.length }
      ({ w with meta := m }, 0)
    | _ => (w, 0)

/-- The items the producer appends: none when the payload is empty. -/
def Producer.appended (p : Producer) : List Item := if p.item.payload = [] then [] else [p.item]

/-! ## Every producer is an `emit` -/

/-- The header stores of a producer followed by its payload store are the store of the item's
bytes. -/
lemma Mem.setItemHeader_write (m : Mem) (item : Nat) (type : ItemType) (p : List UInt8) :
    (m.setItemHeader item type (kdbusPartHeaderSize + p.length)).write
        (item + kdbusPartHeaderSize) p = m.write item (Item.bytes ⟨type, p⟩) := by
  have h₈ : item + 8 = item + (le64 (kdbusPartHeaderSize + p.length)).length := by simp
  have h₁₆ : item + kdbusPartHeaderSize =
      item + (le64 (kdbusPartHeaderSize + p.length) ++ le64 type.code).length := by
    simp [kdbusPartHeaderSize]
  unfold Mem.setItemHeader Mem.writeU64
  rw [Mem.write_comm m (a := item + 8) (b := item) (by simp), h₈, Mem.write_write_append, h₁₆,
    Mem.write_write_append]
  rfl

/-- The first loop of `kdbus_meta_append_src_names` sums the lengths of the payload. -/
lemma foldl_strlen_add (names : List CString) (s : Nat) :
    names.foldl (fun s name => s + (name.strlen + 1)) s =
      s + (names.flatMap CString.bytes).length := by
  induction names generalizing s with
  | nil => rfl
  | cons name names ih => simp [ih]; omega

/-- The second loop of `kdbus_meta_append_src_names` stores the payload after `pos` and advances
`pos` past it. -/
lemma copyNames_eq (data : Nat) (b : Mem) (pos : Nat) (names : List CString) :
    copyNames data (b, pos) names =
      (b.write (data + pos) (names.flatMap CString.bytes),
        pos + (names.flatMap CString.bytes).length) := by
  induction names generalizing b pos with
  | nil => simp [copyNames, Mem.write_nil]
  | cons name names ih =>
    have h := ih (b.strcpy (data + pos) name) (pos + (name.strlen + 1))
    simp only [copyNames, List.foldl_cons] at h ⊢
    rw [h, Mem.strcpy, show data + (pos + (name.strlen + 1)) = data + pos + name.bytes.length by
      simp; omega, Mem.write_write_append]
    simp; omega

variable {slab : Slab} {w : World} {items : List Item} {p : Producer}

lemma kdbusMetaAppendTimestamp_eq (slab : Slab) (task : Task) (w : World) :
    kdbusMetaAppendTimestamp slab task w =
      (Producer.timestamp task).finish (emit slab w (Producer.timestamp task).item) := by
  have hlen : (timestampPayload task).length = kdbusTimestampSize := by
    simp [timestampPayload, kdbusTimestampSize]
  have hsize : kdbusItemSize kdbusTimestampSize =
      kdbusPartHeaderSize + (timestampPayload task).length := by
    rw [hlen]; rfl
  simp only [kdbusMetaAppendTimestamp, emit, Producer.item, hlen]
  rcases kdbusMetaAppendItem slab w (kdbusItemSize kdbusTimestampSize) with ⟨w', e | item⟩
  · rfl
  · simp only [Producer.finish, Mem.writeU64]
    have h₈ : item + kdbusPartHeaderSize + 8 =
        item + kdbusPartHeaderSize + (le64 task.monotonicNs).length := by simp
    rw [h₈, Mem.write_write_append, hsize,
      show le64 task.monotonicNs ++ le64 task.realtimeNs = timestampPayload task from rfl,
      Mem.setItemHeader_write]

lemma kdbusMetaAppendCred_eq (slab : Slab) (task : Task) (w : World) :
    kdbusMetaAppendCred slab task w =
      (Producer.cred task).finish (emit slab w (Producer.cred task).item) := by
  have hlen : (credsPayload task).length = kdbusCredsSize := by
    simp [credsPayload, kdbusCredsSize]
  have hsize : kdbusItemSize kdbusCredsSize = kdbusPartHeaderSize + (credsPayload task).length := by
    rw [hlen]; rfl
  simp only [kdbusMetaAppendCred, emit, Producer.item, hlen]
  rcases kdbusMetaAppendItem slab w (kdbusItemSize kdbusCredsSize) with ⟨w', e | item⟩
  · rfl
  · simp only [Producer.finish]
    rw [hsize, Mem.setItemHeader_write]

lemma kdbusMetaAppendData_eq (slab : Slab) (w : World) (type : ItemType) (buf : List UInt8) :
    kdbusMetaAppendData slab w type buf =
      if buf = [] then (w, 0) else (Producer.data type buf).finish (emit slab w ⟨type, buf⟩) := by
  simp only [kdbusMetaAppendData, List.length_eq_zero, emit]
  split_ifs
  · rfl
  · rcases kdbusMetaAppendItem slab w (kdbusItemSize buf.length) with ⟨w', e | item⟩
    · rfl
    · simp only [Producer.finish, Mem.setItemHeader_write]

lemma kdbusMetaAppendSrcNames_eq (slab : Slab) (w : World) (conn : KdbusConn) :
    kdbusMetaAppendSrcNames slab w (some conn) =
      if namesPayload conn = [] then (w, 0)
      else (Producer.srcNames conn).finish (emit slab w (Producer.srcNames conn).item) := by
  have hp : conn.namesList.flatMap CString.bytes = namesPayload conn := rfl
  simp only [kdbusMetaAppendSrcNames, foldl_strlen_add, Nat.zero_add, List.length_eq_zero, hp,
    emit, Producer.item]
  split_ifs
  · rfl
  · rcases kdbusMetaAppendItem slab w (kdbusItemSize (namesPayload conn).length) with
      ⟨w', e | item⟩
    · rfl
    · simp only [Producer.finish, Producer.item, copyNames_eq, Nat.add_zero, Nat.zero_add, hp,
        Mem.setItemHeader_write]
      rfl

/-- **Every producer is an `emit` of its item**, or appends nothing when the payload is
empty. -/
lemma Producer.run_eq (slab : Slab) (w : World) (p : Producer) :
    p.run slab w = if p.item.payload = [] then (w, 0) else p.finish (emit slab w p.item) := by
  cases p with
  | timestamp task =>
    rw [if_neg (List.ne_nil_of_length_pos (by simp [Producer.item, timestampPayload]))]
    exact kdbusMetaAppendTimestamp_eq slab task w
  | cred task =>
    rw [if_neg (List.ne_nil_of_length_pos (by simp [Producer.item, credsPayload]))]
    exact kdbusMetaAppendCred_eq slab task w
  | srcNames conn => exact kdbusMetaAppendSrcNames_eq slab w conn
  | data type buf => exact kdbusMetaAppendData_eq slab w type buf
  | str type s =>
    simp only [Producer.run, kdbusMetaAppendStr, kdbusMetaAppendData_eq, Producer.item]
    rfl

/-! ## What a producer does -/

/-- **A producer on a laid-out snapshot** fails with `-ENOMEM`, changing only the attempt
counter, or returns `0` with its item appended to the blob and the attached categories
unchanged. -/
lemma Producer.run_spec (slab : Slab) (p : Producer) (hl : Layout w.meta items) :
    p.run slab w = (w.attempt, -(enomem : Int)) ∨
    ((p.run slab w).2 = 0 ∧ Layout (p.run slab w).1.meta (items ++ p.appended) ∧
      (p.run slab w).1.meta.attached = w.meta.attached) := by
  rw [Producer.run_eq, Producer.appended]
  split_ifs with hp
  · exact .inr ⟨rfl, by simpa using hl, rfl⟩
  · rcases emit_spec slab p.item hl with h | ⟨hr, hl', -, hatt, -⟩
    · exact .inl (by rw [h]; rfl)
    · rcases h : emit slab w p.item with ⟨w', e | off⟩
      · simp [h] at hr
      · rw [h] at hl' hatt
        refine .inr ?_
        cases p <;> exact ⟨rfl, hl'.congr rfl rfl rfl rfl, hatt⟩

/-- **A producer does not see the allocator's contents.** -/
lemma Producer.run_cleared (hl : Layout w.meta items) : p.run slab w = p.run slab.cleared w := by
  rw [Producer.run_eq, Producer.run_eq, emit_cleared hl]

/-- **A producer never touches the attached categories**, on any snapshot. -/
lemma Producer.run_attached (slab : Slab) (w : World) (p : Producer) :
    (p.run slab w).1.meta.attached = w.meta.attached := by
  rw [Producer.run_eq]
  split_ifs
  · rfl
  · have h := kdbusMetaAppendItem_attached slab w (kdbusItemSize p.item.payload.length)
    unfold emit
    rcases hk : kdbusMetaAppendItem slab w (kdbusItemSize p.item.payload.length) with
      ⟨w', e | off⟩ <;> rw [hk] at h
    · exact h
    · cases p <;> exact h

/-! ## Decoding a run of producers -/

/-- A sequence of producers on one snapshot, stopping at the first failure. -/
def runProducers (slab : Slab) : World → List Producer → World × Int
  | w, [] => (w, 0)
  | w, p :: ps =>
    match p.run slab w with
    | (w, r) => if r < 0 then (w, r) else runProducers slab w ps

/-- A run of producers that all succeed appends their items, in order. -/
lemma runProducers_layout (slab : Slab) {ps : List Producer} (hp : ∀ p ∈ ps, p.item.payload ≠ [])
    (hl : Layout w.meta items) (hok : (runProducers slab w ps).2 = 0) :
    Layout (runProducers slab w ps).1.meta (items ++ ps.map Producer.item) := by
  induction ps generalizing w items with
  | nil => simpa [runProducers] using hl
  | cons p ps ih =>
    have hp' : p.appended = [p.item] := if_neg (hp p (by simp))
    rcases p.run_spec slab hl with h | ⟨hr, hl', -⟩
    · simp [runProducers, h, enomem] at hok
    · rcases h : p.run slab w with ⟨w', r⟩
      simp only [h] at hr hl'
      subst hr
      simp only [runProducers, h, lt_irrefl, if_false] at hok ⊢
      simpa [hp'] using ih (fun q hq => hp q (by simp [hq])) hl' hok

/-- What a reader finds in a snapshot whose blob holds `items`: walking the buffer from offset
`0` with `KDBUS_ITEM_FOREACH`, bounded by `meta->size`, stops within `fuel` rounds, at exactly
the offsets the items were laid at; at each it reads back the declared size, the type and the
payload; the slots add up to `meta->size`; and every step is a multiple of eight, at least the
declared size, which is at least the header size. -/
def Decodes (m : KdbusMeta) (items : List Item) (fuel : Nat) : Prop :=
  kdbusItemForeach m.bytes m.size fuel 0 = some (itemOffsets 0 items) ∧
  (itemOffsets 0 items).map m.bytes.readItem =
    items.map (fun it => (kdbusPartHeaderSize + it.payload.length, it.type.code, it.payload)) ∧
  (items.map Item.slot).sum = m.size ∧
  ∀ off ∈ itemOffsets 0 items,
    (kdbusItemNext m.bytes off - off) % 8 = 0 ∧
    m.bytes.itemSize off ≤ kdbusItemNext m.bytes off - off ∧
    kdbusPartHeaderSize ≤ m.bytes.itemSize off

/-- A laid-out snapshot decodes, as long as its size fits the `__u64` size fields. -/
lemma Layout.decodes {m : KdbusMeta} (hl : Layout m items) (hs : m.size < 2 ^ 64) {fuel : Nat}
    (hf : items.length ≤ fuel) : Decodes m items fuel := by
  have hhold : m.bytes.Holds 0 (encodeItems items) := by
    rw [hl.bytes_eq]; exact blob_holds items
  have hsz : ∀ it ∈ items, it.size < 2 ^ 64 := fun it hit =>
    lt_of_le_of_lt ((Item.slot_spec it).2.1.trans (slot_le_length_encodeItems hit))
      (hl.size_eq ▸ hs)
  have hread := readItem_itemOffsets hhold hsz
  refine ⟨?_, hread, ?_, fun off hoff => ?_⟩
  · simpa [hl.size_eq] using kdbusItemForeach_encodeItems hhold hsz hf
  · rw [hl.size_eq, length_encodeItems]
  · obtain ⟨it, -, hit⟩ := List.mem_map.mp (hread ▸ List.mem_map_of_mem m.bytes.readItem hoff)
    have hsize : m.bytes.itemSize off = it.size := (congrArg Prod.fst hit).symm
    have := kdbusAlign8_spec (m.bytes.itemSize off)
    simp only [kdbusItemNext, Nat.add_sub_cancel_left, hsize, Item.size] at this ⊢
    omega

/-- **The reader decodes what the producers wrote.**  Run producers with non-empty payloads on
a zero-initialised snapshot until all have succeeded: the buffer decodes as their items, in
order. -/
theorem runProducers_decode (slab : Slab) (n : Nat) (ps : List Producer) (fuel : Nat)
    (hp : ∀ p ∈ ps, p.item.payload ≠ [])
    (hok : (runProducers slab ⟨KdbusMeta.zero, n⟩ ps).2 = 0)
    (hs : (runProducers slab ⟨KdbusMeta.zero, n⟩ ps).1.meta.size < 2 ^ 64)
    (hf : ps.length ≤ fuel) :
    Decodes (runProducers slab ⟨KdbusMeta.zero, n⟩ ps).1.meta (ps.map Producer.item) fuel :=
  (by simpa using runProducers_layout slab hp layout_zero hok : Layout _ _).decodes hs
    (by simpa using hf)

theorem runProducers_decode_cmdline_exe :
    ((∀ p ∈ [Producer.data .cmdline [1, 2, 3], Producer.str .exe ⟨[47], by decide⟩],
        p.item.payload ≠ []) ∧
      (runProducers ⟨fun _ => false, fun _ _ => 0⟩ ⟨KdbusMeta.zero, 0⟩
        [Producer.data .cmdline [1, 2, 3], Producer.str .exe ⟨[47], by decide⟩]).2 = 0 ∧
      (runProducers ⟨fun _ => false, fun _ _ => 0⟩ ⟨KdbusMeta.zero, 0⟩
        [Producer.data .cmdline [1, 2, 3], Producer.str .exe ⟨[47], by decide⟩]).1.meta.size
          < 2 ^ 64 ∧ 2 ≤ 2) ∧
    Decodes (runProducers ⟨fun _ => false, fun _ _ => 0⟩ ⟨KdbusMeta.zero, 0⟩
        [Producer.data .cmdline [1, 2, 3], Producer.str .exe ⟨[47], by decide⟩]).1.meta
      ([Producer.data .cmdline [1, 2, 3], Producer.str .exe ⟨[47], by decide⟩].map Producer.item) 2 :=
  ⟨⟨by decide, by decide, by decide, le_rfl⟩, runProducers_decode _ _ _ 2 (by decide) (by decide)
    (by decide) le_rfl⟩

end Kdbus
