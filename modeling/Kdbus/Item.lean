import Kdbus.Memory

/-!
# Items: the wire format of the metadata blob

Every record kdbus hands to user space is an *item*: a `__u64 size`, a `__u64 type`, then the
payload, the whole padded to a multiple of eight so that the next item starts aligned.  A
reader never needs an index: it walks the buffer with `KDBUS_ITEM_FOREACH`, stepping from one
item to the next by `KDBUS_ALIGN8(item->size)`.

* `Item`, `Item.encode`, `encodeItems` — the abstract record and its bytes in a blob.
* `kdbusItemForeach` — the walk of `test/kdbus-util.h`, with fuel, since on arbitrary bytes it
  need not stop (an item whose `size` is `0` never advances).
* **`kdbusItemForeach_encodeItems`** — on a buffer holding `encodeItems items`, the walk stops,
  visits exactly the offsets `itemOffsets`, and at each of them reads back the size, type and
  payload of the corresponding item (`readItem_itemOffsets`).
* `kdbusNameForeach` — the walk over a name-list reply, `KDBUS_NAME_FOREACH`.  Its loop
  condition compares the cursor with the size of the record under it, not with the reply's
  size: **`kdbusNameForeach_record_bound`** shows it skipping a record of a well-formed reply,
  and reading past the end of another.
-/

namespace Kdbus

/-! ## Items -/

/-- `KDBUS_PART_HEADER_SIZE`, that is `offsetof(struct kdbus_item, data)`: the `__u64 size`
and the `__u64 type` in front of every payload. -/
def kdbusPartHeaderSize : Nat := 16

/-- `KDBUS_ITEM_SIZE(s)`: the size of an item with an `s`-byte payload, rounded up to eight. -/
def kdbusItemSize (s : Nat) : Nat := kdbusAlign8 (s + kdbusPartHeaderSize)

/-- The item types the metadata writer and the endpoint checks use. -/
inductive ItemType
  | names | timestamp | creds | pidComm | tidComm | exe | cmdline | cgroup | caps | seclabel
  | audit | nameAdd | nameRemove | nameChange
deriving DecidableEq, Repr

/-- `KDBUS_ITEM_*`.  The numbering follows the enumeration of `kdbus.h`, which is not among
the sources; no result depends on the values beyond their being distinct. -/
def ItemType.code : ItemType → Nat
  | .names => 0x600 | .timestamp => 0x602 | .creds => 0x603 | .pidComm => 0x604
  | .tidComm => 0x605 | .exe => 0x606 | .cmdline => 0x607 | .cgroup => 0x608 | .caps => 0x609
  | .seclabel => 0x60a | .audit => 0x60b | .nameAdd => 0x800 | .nameRemove => 0x801
  | .nameChange => 0x802

lemma ItemType.code_lt (t : ItemType) : t.code < 2 ^ 64 := by cases t <;> decide

/-- An item: its type and its payload. -/
structure Item where
  type : ItemType
  payload : List UInt8
deriving DecidableEq

/-- The size an item declares: `KDBUS_PART_HEADER_SIZE + len`. -/
def Item.size (it : Item) : Nat := kdbusPartHeaderSize + it.payload.length

/-- The bytes a producer stores: `size`, `type`, payload. -/
def Item.bytes (it : Item) : List UInt8 := le64 it.size ++ le64 it.type.code ++ it.payload

/-- The room `kdbus_meta_append_item` reserves for it: `KDBUS_ALIGN8(KDBUS_ITEM_SIZE(len))`. -/
def Item.slot (it : Item) : Nat := kdbusAlign8 (kdbusItemSize it.payload.length)

/-- The item as it sits in a blob: its bytes, then zeros up to its slot. -/
def Item.encode (it : Item) : List UInt8 :=
  it.bytes ++ List.replicate (it.slot - it.size) 0

/-- A blob of items, one after the other. -/
def encodeItems (items : List Item) : List UInt8 := items.flatMap Item.encode

@[simp] lemma Item.length_bytes (it : Item) : it.bytes.length = it.size := by
  simp [Item.bytes, Item.size, kdbusPartHeaderSize]; omega

/-- The slot is the declared size rounded up to eight. -/
lemma Item.slot_eq (it : Item) : it.slot = kdbusAlign8 it.size := by
  have h := kdbusAlign8_spec (it.payload.length + kdbusPartHeaderSize)
  rw [Item.slot, kdbusItemSize, kdbusAlign8_of_mod _ h.1, Item.size, Nat.add_comm]

/-- The step a reader takes over an item is a multiple of eight, covers the declared size, and
the declared size covers the header. -/
lemma Item.slot_spec (it : Item) :
    it.slot % 8 = 0 ∧ it.size ≤ it.slot ∧ it.slot < it.size + 8 ∧
      kdbusPartHeaderSize ≤ it.size := by
  rw [Item.slot_eq]
  have := kdbusAlign8_spec it.size
  exact ⟨this.1, this.2.1, this.2.2, by simp [Item.size]⟩

@[simp] lemma Item.length_encode (it : Item) : it.encode.length = it.slot := by
  have := it.slot_spec
  simp [Item.encode]; omega

@[simp] lemma encodeItems_nil : encodeItems [] = [] := rfl

@[simp] lemma encodeItems_cons (it : Item) (items : List Item) :
    encodeItems (it :: items) = it.encode ++ encodeItems items := by
  simp [encodeItems]

lemma encodeItems_append (a b : List Item) :
    encodeItems (a ++ b) = encodeItems a ++ encodeItems b := by
  simp [encodeItems]

/-- A blob is as long as its items' slots together. -/
lemma length_encodeItems (items : List Item) :
    (encodeItems items).length = (items.map Item.slot).sum := by
  induction items with
  | nil => rfl
  | cons it items ih => simp [ih]

lemma slot_le_length_encodeItems {items : List Item} {it : Item} (h : it ∈ items) :
    it.slot ≤ (encodeItems items).length := by
  induction items with
  | nil => cases h
  | cons x items ih =>
    rcases List.mem_cons.mp h with rfl | h
    · simp
    · have := ih h; simp; omega

/-- The offsets the items of a blob starting at `off` sit at. -/
def itemOffsets : Nat → List Item → List Nat
  | _, [] => []
  | off, it :: items => off :: itemOffsets (off + it.slot) items

/-! ## Reading a blob -/

/-- `m` holds the bytes `l` at `off`. -/
def Mem.Holds (m : Mem) (off : Nat) (l : List UInt8) : Prop := m.read off l.length = l

lemma Mem.holds_write (m : Mem) (off : Nat) (l : List UInt8) : (m.write off l).Holds off l := by
  refine List.ext_getElem (by simp) fun k h₁ _ => ?_
  simp only [Mem.read, List.getElem_map, List.getElem_range]
  exact Mem.write_add _ _ _ (by simpa using h₁)

lemma Mem.read_add (m : Mem) (off a b : Nat) :
    m.read off (a + b) = m.read off a ++ m.read (off + a) b := by
  simp [Mem.read, List.range_add, Nat.add_assoc]

lemma Mem.holds_append {m : Mem} {off : Nat} {l₁ l₂ : List UInt8} :
    m.Holds off (l₁ ++ l₂) ↔ m.Holds off l₁ ∧ m.Holds (off + l₁.length) l₂ := by
  unfold Mem.Holds
  rw [List.length_append, Mem.read_add]
  constructor
  · intro h; exact List.append_inj h (by simp)
  · rintro ⟨h₁, h₂⟩; rw [h₁, h₂]

/-- An encoded item starts with its bytes. -/
lemma Mem.Holds.holds_bytes {m : Mem} {off : Nat} {it : Item} (h : m.Holds off it.encode) :
    m.Holds off it.bytes :=
  (Mem.holds_append.mp (show m.Holds off (it.bytes ++ _) from h)).1

/-- The header fields and the payload of an item's bytes, where they were stored. -/
lemma Mem.Holds.fields {m : Mem} {off : Nat} {it : Item} (h : m.Holds off it.bytes) :
    m.read off 8 = le64 it.size ∧ m.read (off + 8) 8 = le64 it.type.code ∧
      m.Holds (off + kdbusPartHeaderSize) it.payload := by
  rw [Item.bytes, Mem.holds_append, Mem.holds_append] at h
  obtain ⟨⟨h₁, h₂⟩, h₃⟩ := h
  simp only [Mem.Holds, length_le64, List.length_append] at h₁ h₂ h₃
  exact ⟨h₁, h₂, by simpa [Mem.Holds, kdbusPartHeaderSize, Nat.add_assoc] using h₃⟩

/-- `item->size`. -/
def Mem.itemSize (m : Mem) (item : Nat) : Nat := m.readU64 item

/-- What a reader takes an item at `item` to be: declared size, type, payload. -/
def Mem.readItem (m : Mem) (item : Nat) : Nat × Nat × List UInt8 :=
  (m.itemSize item, m.readU64 (item + 8), m.read (item + kdbusPartHeaderSize) (m.itemSize item - 16))

/-- The `size` field of an item's bytes loads back, as long as it fits the `__u64`. -/
lemma Mem.itemSize_of_holds {m : Mem} {off : Nat} {it : Item} (h : m.Holds off it.bytes)
    (hs : it.size < 2 ^ 64) : m.itemSize off = it.size := by
  rw [Mem.itemSize, Mem.readU64_of_read _ _ _ h.fields.1, Nat.mod_eq_of_lt hs]

/-- An item's bytes read back as the item, as long as its size fits the `__u64` field. -/
lemma Mem.readItem_of_holds {m : Mem} {off : Nat} {it : Item} (h : m.Holds off it.bytes)
    (hs : it.size < 2 ^ 64) :
    m.readItem off = (it.size, it.type.code, it.payload) := by
  have hsize := Mem.itemSize_of_holds h hs
  obtain ⟨-, h₂, h₃⟩ := h.fields
  have htype : m.readU64 (off + 8) = it.type.code := by
    rw [Mem.readU64_of_read _ _ _ h₂, Nat.mod_eq_of_lt it.type.code_lt]
  have hdata : m.read (off + kdbusPartHeaderSize) (m.itemSize off - 16) = it.payload := by
    rw [hsize]
    simpa [Mem.Holds, Item.size, kdbusPartHeaderSize] using h₃
  unfold Mem.readItem
  rw [hdata, hsize, htype]

/-! ## Walking a blob -/

/-- `KDBUS_ITEM_NEXT(item)`: where the item after the one at `item` starts. -/
def kdbusItemNext (m : Mem) (item : Nat) : Nat := item + kdbusAlign8 (m.itemSize item)

/-- `KDBUS_ITEM_FOREACH(item, head)` from `item`, with `stop` for
`(uint8_t *)(head) + (head)->size`: the offsets the loop body runs at, or `none` when `fuel`
rounds do not bring the cursor to `stop`. -/
def kdbusItemForeach (m : Mem) (stop : Nat) : Nat → Nat → Option (List Nat)
  | 0, item => if item < stop then none else some []
  | fuel + 1, item =>
    if item < stop then (kdbusItemForeach m stop fuel (kdbusItemNext m item)).map (item :: ·)
    else some []

/-- **The walk decodes a blob.**  On a buffer holding the encoding of `items` at `off`, the
walk with the blob's end as its bound stops after one round per item, visiting exactly the
offsets the items were laid at. -/
theorem kdbusItemForeach_encodeItems {m : Mem} {off fuel : Nat} {items : List Item}
    (h : m.Holds off (encodeItems items)) (hs : ∀ it ∈ items, it.size < 2 ^ 64)
    (hf : items.length ≤ fuel) :
    kdbusItemForeach m (off + (encodeItems items).length) fuel off =
      some (itemOffsets off items) := by
  induction items generalizing off fuel with
  | nil => cases fuel <;> simp [kdbusItemForeach, itemOffsets]
  | cons it items ih =>
    obtain ⟨fuel, rfl⟩ : ∃ f, fuel = f + 1 := ⟨fuel - 1, by simp at hf; omega⟩
    rw [encodeItems_cons, Mem.holds_append, Item.length_encode] at h
    have hsize := Mem.itemSize_of_holds h.1.holds_bytes (hs it (by simp))
    have hpos := it.slot_spec
    simp only [kdbusPartHeaderSize] at hpos
    rw [kdbusItemForeach, kdbusItemNext, hsize, ← Item.slot_eq, encodeItems_cons,
      List.length_append, Item.length_encode, ← Nat.add_assoc,
      ih h.2 (fun x hx => hs x (List.mem_cons_of_mem _ hx)) (by simpa using hf),
      if_pos (by omega)]
    rfl

/-- The types a reader sees, walking a blob of `size` bytes from offset `0`. -/
def Mem.itemTypes (m : Mem) (size fuel : Nat) : Option (List Nat) :=
  (kdbusItemForeach m size fuel 0).map (List.map fun item => m.readU64 (item + 8))

/-- At each offset the walk visits, a reader sees the size, type and payload of the item
laid there. -/
theorem readItem_itemOffsets {m : Mem} {off : Nat} {items : List Item}
    (h : m.Holds off (encodeItems items)) (hs : ∀ it ∈ items, it.size < 2 ^ 64) :
    (itemOffsets off items).map m.readItem =
      items.map fun it => (it.size, it.type.code, it.payload) := by
  induction items generalizing off with
  | nil => rfl
  | cons it items ih =>
    rw [encodeItems_cons, Mem.holds_append, Item.length_encode] at h
    rw [itemOffsets, List.map_cons, Mem.readItem_of_holds h.1.holds_bytes (hs it (by simp)),
      ih h.2 (fun x hx => hs x (List.mem_cons_of_mem _ hx)), List.map_cons]

/-! ## The name-list walker -/

/-- `KDBUS_NAME_NEXT(n)`: where the record after the one at `name` starts. -/
def kdbusNameNext (m : Mem) (name : Nat) : Nat := name + kdbusAlign8 (m.readU64 name)

/-- `KDBUS_NAME_FOREACH(name, names)` from `name`, for a reply at offset `0` of `m`: the offsets
whose `name->size` the loop condition `(char *)name < (char *)names + name->size` reads, in
order.  The body runs at all of them but the last, where the condition fails; `none` when
`fuel` rounds do not end the loop. -/
def kdbusNameForeach (m : Mem) : Nat → Nat → Option (List Nat)
  | 0, _ => none
  | fuel + 1, name =>
    if name < m.readU64 name then (kdbusNameForeach m fuel (kdbusNameNext m name)).map (name :: ·)
    else some [name]

set_option maxRecDepth 20000 in
/-- **`KDBUS_NAME_FOREACH` bounds the cursor by the wrong size.**  Two well-formed replies,
with the records starting after a sixteen-byte header (`size`, `flags`) and each record's
`size` field first.  In a reply of two 40-byte records, the loop reads the second record's
size at offset 56, finds `56 ≥ 40`, and stops: the second record is never visited.  In a
reply of one 200-byte record, the loop visits it and then reads a record's size at offset
216, which is `names->size`: past the end of the reply. -/
theorem kdbusNameForeach_record_bound :
    let zero : Mem := fun _ => 0
    let record := le64 40 ++ List.replicate 24 0 ++ [97, 97, 97, 97, 97, 97, 97, 0]
    let twoNames := zero.write 0 (le64 96 ++ le64 0 ++ record ++ record)
    let long := le64 200 ++ List.replicate 24 0 ++ List.replicate 167 97 ++ [0]
    let oneLongName := zero.write 0 (le64 216 ++ le64 0 ++ long)
    twoNames.readU64 0 = 96 ∧ kdbusNameForeach twoNames 4 16 = some [16, 56] ∧
    oneLongName.readU64 0 = 216 ∧ kdbusNameForeach oneLongName 4 16 = some [16, 216] := by
  decide

end Kdbus
