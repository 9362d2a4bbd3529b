import Mathlib

/-!
# Bytes, words and the rounding helpers

`metadata.c` builds its blob with byte arithmetic on one heap buffer: `memcpy`, `memset`,
`strcpy` and stores of `__u64` fields at computed offsets.  This file fixes the vocabulary
every later file uses.

* `Mem` — a buffer seen byte by byte, offsets counted from its start.  `Mem.write` is the one
  store; `memcpy`, `memset`, `strcpy` and the word stores are all instances of it, so the two
  lemmas `Mem.write_of_lt_or_le` (bytes outside the store are kept) and `Mem.write_add`
  (the bytes inside read back) are all a later proof needs about a store.
* `toLE` / `ofLE` — little-endian `__u64` and `__u32` fields, with the round trip
  `ofLE_toLE` (exact below `256 ^ w`).
* `kdbusAlign8` and `roundupPowOfTwo` — the two rounding helpers of the item writer, with the
  arithmetic facts the growth proofs need: `kdbusAlign8_spec`, `roundupPowOfTwo_spec`.
* `CString` — a NUL-terminated kernel string, kept as the characters before its NUL.
-/

namespace Kdbus

/-! ## Memory -/

/-- A buffer of kernel memory, byte by byte; offsets are relative to its start. -/
abbrev Mem := Nat → UInt8

/-- Store the bytes `l` at offset `off`. -/
def Mem.write (m : Mem) (off : Nat) (l : List UInt8) : Mem := fun i =>
  if off ≤ i then (l[i - off]?).getD (m i) else m i

/-- `memset(m + off, v, len)`. -/
def Mem.memset (m : Mem) (off : Nat) (v : UInt8) (len : Nat) : Mem :=
  m.write off (List.replicate len v)

/-- The `len` bytes at `off`. -/
def Mem.read (m : Mem) (off len : Nat) : List UInt8 :=
  (List.range len).map fun k => m (off + k)

/-- `memcpy(dst, src, len)`, both at offset `0`. -/
def Mem.memcpy (dst src : Mem) (len : Nat) : Mem :=
  dst.write 0 (src.read 0 len)

@[simp] lemma Mem.length_read (m : Mem) (off len : Nat) : (m.read off len).length = len := by
  simp [Mem.read]

lemma Mem.getElem?_read (m : Mem) (off len k : Nat) :
    (m.read off len)[k]? = if k < len then some (m (off + k)) else none := by
  simp only [Mem.read, List.getElem?_map, List.getElem?_range']
  split <;> simp_all [List.getElem?_range]

/-- A store leaves every byte outside it alone. -/
lemma Mem.write_of_lt_or_le (m : Mem) (off : Nat) (l : List UInt8) {i : Nat}
    (h : i < off ∨ off + l.length ≤ i) : m.write off l i = m i := by
  unfold Mem.write
  split
  · rw [List.getElem?_eq_none (by omega)]; rfl
  · rfl

/-- The bytes of a store read back. -/
lemma Mem.write_add (m : Mem) (off : Nat) (l : List UInt8) {k : Nat} (hk : k < l.length) :
    m.write off l (off + k) = l[k] := by
  simp [Mem.write, List.getElem?_eq_getElem hk]

/-- Two adjacent stores are one store of the concatenation. -/
lemma Mem.write_write_append (m : Mem) (off : Nat) (l₁ l₂ : List UInt8) :
    (m.write off l₁).write (off + l₁.length) l₂ = m.write off (l₁ ++ l₂) := by
  funext i
  simp only [Mem.write]
  by_cases h₁ : off + l₁.length ≤ i
  · rw [if_pos h₁, if_pos (by omega), List.getElem?_append_right (by omega),
      show i - off - l₁.length = i - (off + l₁.length) by omega]
    cases l₂[i - (off + l₁.length)]? <;>
      simp [List.getElem?_eq_none (show l₁.length ≤ i - off by omega), show off ≤ i by omega]
  · rw [if_neg h₁]
    split
    · rw [List.getElem?_append_left (by omega)]
    · rfl

/-- A store erases every difference inside it. -/
lemma Mem.write_congr {m₁ m₂ : Mem} {off : Nat} {l : List UInt8}
    (h : ∀ i, i < off ∨ off + l.length ≤ i → m₁ i = m₂ i) : m₁.write off l = m₂.write off l := by
  funext i
  by_cases hi : i < off ∨ off + l.length ≤ i
  · rw [Mem.write_of_lt_or_le _ _ _ hi, Mem.write_of_lt_or_le _ _ _ hi, h i hi]
  · obtain ⟨k, rfl⟩ : ∃ k, i = off + k := ⟨i - off, by omega⟩
    rw [Mem.write_add _ _ _ (by omega), Mem.write_add _ _ _ (by omega)]

/-- Disjoint stores commute. -/
lemma Mem.write_comm (m : Mem) {a b : Nat} {la lb : List UInt8}
    (h : a + la.length ≤ b ∨ b + lb.length ≤ a) :
    (m.write a la).write b lb = (m.write b lb).write a la := by
  funext i
  by_cases ha : i < a ∨ a + la.length ≤ i
  · by_cases hb : i < b ∨ b + lb.length ≤ i
    · simp only [Mem.write_of_lt_or_le _ _ _ ha, Mem.write_of_lt_or_le _ _ _ hb]
    · obtain ⟨k, rfl⟩ : ∃ k, i = b + k := ⟨i - b, by omega⟩
      rw [Mem.write_add _ _ _ (by omega), Mem.write_of_lt_or_le _ _ _ ha,
        Mem.write_add _ _ _ (by omega)]
  · obtain ⟨k, rfl⟩ : ∃ k, i = a + k := ⟨i - a, by omega⟩
    rw [Mem.write_of_lt_or_le _ _ _ (by omega), Mem.write_add _ _ _ (by omega),
      Mem.write_add _ _ _ (by omega)]

/-! ## Little-endian fields -/

/-- The `w` little-endian bytes of `n`: a store of a `w`-byte field keeps `n % 256 ^ w`. -/
def toLE : Nat → Nat → List UInt8
  | 0, _ => []
  | w + 1, n => UInt8.ofNat n :: toLE w (n / 256)

/-- The value of a little-endian field. -/
def ofLE : List UInt8 → Nat
  | [] => 0
  | b :: bs => b.toNat + 256 * ofLE bs

@[simp] lemma length_toLE (w n : Nat) : (toLE w n).length = w := by
  induction w generalizing n with
  | zero => rfl
  | succ w ih => simp [toLE, ih]

lemma ofLE_toLE (w n : Nat) : ofLE (toLE w n) = n % 256 ^ w := by
  induction w generalizing n with
  | zero => simp [toLE, ofLE, Nat.mod_one]
  | succ w ih =>
    have hb : (UInt8.ofNat n).toNat = n % 256 := by
      simp [UInt8.toNat, UInt8.ofNat, BitVec.toNat_ofNat]
    rw [toLE, ofLE, ih, hb, Nat.pow_succ', Nat.mod_mul]

/-- A `__u64` field. -/
def le64 (n : Nat) : List UInt8 := toLE 8 n

/-- A `__u32` field. -/
def le32 (n : Nat) : List UInt8 := toLE 4 n

@[simp] lemma length_le64 (n : Nat) : (le64 n).length = 8 := length_toLE 8 n

@[simp] lemma length_le32 (n : Nat) : (le32 n).length = 4 := length_toLE 4 n

/-- Load a `__u64` field at `off`. -/
def Mem.readU64 (m : Mem) (off : Nat) : Nat := ofLE (m.read off 8)

/-- Store a `__u64` field at `off`. -/
def Mem.writeU64 (m : Mem) (off v : Nat) : Mem := m.write off (le64 v)

/-- A stored `__u64` field loads back, modulo `2 ^ 64`. -/
lemma Mem.readU64_of_read (m : Mem) (off v : Nat) (h : m.read off 8 = le64 v) :
    m.readU64 off = v % 2 ^ 64 := by
  rw [Mem.readU64, h, le64, ofLE_toLE, show (256 : Nat) ^ 8 = 2 ^ 64 by decide]

/-! ## Rounding -/

/-- `KDBUS_ALIGN8(l)`, that is `((l) + 7) & ~7`: `l` rounded up to a multiple of eight. -/
def kdbusAlign8 (l : Nat) : Nat := (l + 7) / 8 * 8

lemma kdbusAlign8_spec (l : Nat) :
    kdbusAlign8 l % 8 = 0 ∧ l ≤ kdbusAlign8 l ∧ kdbusAlign8 l < l + 8 := by
  unfold kdbusAlign8; omega

lemma kdbusAlign8_of_mod (l : Nat) (h : l % 8 = 0) : kdbusAlign8 l = l := by
  unfold kdbusAlign8; omega

/-- `fls_long` by structural recursion on a fuel bound: the position, counted from one, of the
most significant set bit, and `0` for `0`.  `x` itself is enough fuel (`flsLong`). -/
def flsAux : Nat → Nat → Nat
  | 0, _ => 0
  | k + 1, x => if x = 0 then 0 else flsAux k (x / 2) + 1

/-- `fls_long(x)`. -/
def flsLong (x : Nat) : Nat := flsAux x x

/-- `roundup_pow_of_two(n)`, that is `1UL << fls_long(n - 1)`. -/
def roundupPowOfTwo (n : Nat) : Nat := 2 ^ flsLong (n - 1)

lemma flsAux_zero (k : Nat) : flsAux k 0 = 0 := by cases k <;> rfl

/-- The bit length is the least `f` with `x < 2 ^ f`. -/
lemma flsAux_spec : ∀ k x, x ≤ k → x < 2 ^ flsAux k x ∧ (x ≠ 0 → 2 ^ flsAux k x ≤ 2 * x)
  | 0, x, h => by simp [flsAux]; omega
  | k + 1, x, h => by
    by_cases hx : x = 0
    · simp [flsAux, hx]
    · obtain ⟨ih₁, ih₂⟩ := flsAux_spec k (x / 2) (by omega)
      simp only [flsAux, hx, if_false, Nat.pow_succ]
      by_cases hx2 : x / 2 = 0
      · simp only [hx2, flsAux_zero] at ih₁ ⊢; omega
      · have := ih₂ hx2; omega

/-- `roundup_pow_of_two(n)` is the least power of two at least `n`. -/
lemma roundupPowOfTwo_spec {n : Nat} (hn : 0 < n) :
    n ≤ roundupPowOfTwo n ∧ roundupPowOfTwo n < 2 * n := by
  obtain ⟨h₁, h₂⟩ := flsAux_spec (n - 1) (n - 1) le_rfl
  unfold roundupPowOfTwo flsLong
  by_cases h : n - 1 = 0
  · simp only [h, flsAux_zero] at h₁ ⊢; omega
  · have := h₂ h; omega

/-- `roundup_pow_of_two` of at least eight is a multiple of eight. -/
lemma roundupPowOfTwo_mod_eight {n : Nat} (h : 8 ≤ n) : roundupPowOfTwo n % 8 = 0 := by
  have h₁ := (roundupPowOfTwo_spec (n := n) (by omega)).1
  unfold roundupPowOfTwo at *
  have hk : 3 ≤ flsLong (n - 1) := by
    by_contra hk
    have : 2 ^ flsLong (n - 1) ≤ 2 ^ 2 := Nat.pow_le_pow_right (by decide) (by omega)
    omega
  exact Nat.mod_eq_zero_of_dvd (Nat.pow_dvd_pow 2 hk)

/-- A power of two above `2 ^ k` is at least `2 ^ (k + 1)`. -/
lemma two_pow_succ_le_of_lt {j k : Nat} (h : 2 ^ k < 2 ^ j) : 2 ^ (k + 1) ≤ 2 ^ j :=
  Nat.pow_le_pow_right (by decide) ((Nat.pow_lt_pow_iff_right (by decide)).mp h)

/-! ## Strings -/

/-- A NUL-terminated kernel string, kept as the characters before its NUL. -/
structure CString where
  chars : List UInt8
  nul_free : (0 : UInt8) ∉ chars
deriving DecidableEq

/-- `strlen(s)`. -/
def CString.strlen (s : CString) : Nat := s.chars.length

/-- The bytes `strcpy` copies: the characters and the terminating NUL. -/
def CString.bytes (s : CString) : List UInt8 := s.chars ++ [0]

@[simp] lemma CString.length_bytes (s : CString) : s.bytes.length = s.strlen + 1 := by
  simp [CString.bytes, CString.strlen]

/-- `strcpy(m + off, s)`. -/
def Mem.strcpy (m : Mem) (off : Nat) (s : CString) : Mem := m.write off s.bytes

end Kdbus
