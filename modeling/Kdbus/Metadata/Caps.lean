import Kdbus.Metadata.Append

/-!
# The capability sets in `KDBUS_ITEM_CAPS`

`kdbus_meta_append_caps` copies the four capability sets of the current task, each as
`_KERNEL_CAPABILITY_U32S` `u32`s, and then clears the bits above `CAP_LAST_CAP`: it masks the
word `CAP_TO_INDEX(CAP_LAST_CAP)` with `CAP_TO_MASK(CAP_LAST_CAP + 1) - 1`.

* `KernelCap.toU64` — a set as the 64-bit mask its two words make, low word first.
* **`capsPayload_masks`** — on a kernel whose last capability lies in the upper word,
  `32 ≤ CAP_LAST_CAP < 63`, the payload holds each set as a little-endian `__u64` with exactly
  the capabilities `0 .. CAP_LAST_CAP` the task has.  So a reader testing bit `CAP_TO_MASK(c)`
  of word `CAP_TO_INDEX(c)` sees capability `c` iff the task has it and `c ≤ CAP_LAST_CAP`.
* **`capsPayload_last_word_cleared`** — the bound is needed: when `CAP_LAST_CAP` is `31` or
  `63`, `CAP_TO_MASK(CAP_LAST_CAP + 1) - 1` is `0` (`KernelCap.clearUnused_of_mod`), and the
  word of the last capability is reported cleared whole, valid capabilities included.
-/

namespace Kdbus

/-! ## Little-endian fields -/

/-- A `w`-byte field keeps only `n % 256 ^ w`. -/
lemma toLE_mod (w n : Nat) : toLE w (n % 256 ^ w) = toLE w n := by
  induction w generalizing n with
  | zero => rfl
  | succ w ih =>
    have hb : UInt8.ofNat (n % 256 ^ (w + 1)) = UInt8.ofNat n := by
      apply UInt8.toNat.inj
      simp only [UInt8.toNat, UInt8.ofNat, BitVec.toNat_ofNat]
      exact Nat.mod_mod_of_dvd _ (dvd_pow_self 256 w.succ_ne_zero)
    rw [toLE, toLE, hb, Nat.pow_succ', Nat.mod_mul_right_div_self, ih]

/-- A field of `a + b` bytes is its low `a` bytes, then the `b` bytes above them. -/
lemma toLE_add (a b n : Nat) : toLE (a + b) n = toLE a n ++ toLE b (n / 256 ^ a) := by
  induction a generalizing n with
  | zero => simp [toLE]
  | succ a ih =>
    rw [Nat.succ_add, toLE, toLE, ih, Nat.div_div_eq_div_mul, ← Nat.pow_succ']
    rfl

/-! ## The masked sets -/

/-- The lower word of a capability set. -/
def KernelCap.low (c : KernelCap) : Nat := c.cap ⟨0, by decide⟩

/-- The upper word of a capability set. -/
def KernelCap.high (c : KernelCap) : Nat := c.cap ⟨1, by decide⟩

/-- A capability set as the 64-bit mask its two `u32`s make: capability `c` is bit `c`. -/
def KernelCap.toU64 (c : KernelCap) : Nat := c.low % 2 ^ 32 + 2 ^ 32 * (c.high % 2 ^ 32)

/-- The lower word of a set's mask is its lower `u32`. -/
lemma KernelCap.toU64_mod (c : KernelCap) : c.toU64 % 2 ^ 32 = c.low % 2 ^ 32 := by
  rw [KernelCap.toU64, Nat.add_mul_mod_self_left, Nat.mod_mod]

/-- The upper word of a set's mask is its upper `u32`. -/
lemma KernelCap.toU64_div (c : KernelCap) : c.toU64 / 2 ^ 32 = c.high % 2 ^ 32 := by
  rw [KernelCap.toU64, Nat.add_mul_div_left _ _ (by norm_num),
    Nat.div_eq_of_lt (Nat.mod_lt _ (by norm_num)), Nat.zero_add]

/-- A `u32` field keeps only the value's lower 32 bits. -/
lemma toLE_four_mod (n : Nat) : toLE 4 (n % 2 ^ 32) = toLE 4 n := by
  rw [show (2 : Nat) ^ 32 = 256 ^ 4 by norm_num, toLE_mod]

/-- A little-endian `__u64` is its two `u32` words, low first. -/
lemma le64_eq (n : Nat) : le64 n = toLE 4 (n % 2 ^ 32) ++ toLE 4 (n / 2 ^ 32) := by
  rw [le64, show 8 = 4 + 4 from rfl, toLE_add, toLE_four_mod, show (256 : Nat) ^ 4 = 2 ^ 32 by
    norm_num]

/-- The four sets of the payload, each as its two words after clearing. -/
lemma capsPayload_eq (cfg : Config) (task : Task) :
    capsPayload cfg task =
      [task.capInheritable, task.capPermitted, task.capEffective, task.capBset].flatMap fun c =>
        toLE 4 ((c.clearUnused cfg.capLastCap).cap ⟨0, by decide⟩) ++
          toLE 4 ((c.clearUnused cfg.capLastCap).cap ⟨1, by decide⟩) := by
  simp only [capsPayload, List.finRange, kernelCapabilityU32s, List.ofFn_succ, List.ofFn_zero,
    List.flatMap_cons, List.flatMap_nil, List.append_nil, le32]
  rfl

/-- `CAP_TO_MASK(x) - 1` keeps the bits below `x % 32`. -/
lemma and_capToMask_sub_one (a x : Nat) : a &&& (capToMask x - 1) = a % 2 ^ (x % 32) := by
  rw [capToMask, Nat.shiftLeft_eq, Nat.one_mul, Nat.and_pow_two_sub_one_eq_mod]

/-- On a kernel whose last capability is in the upper word, the two words of a cleared set are
the low and high halves of the set's mask of capabilities `0 .. CAP_LAST_CAP`. -/
lemma KernelCap.encode_clearUnused (c : KernelCap) {capLastCap : Nat}
    (h₁ : 32 ≤ capLastCap) (h₂ : capLastCap < 63) :
    toLE 4 ((c.clearUnused capLastCap).cap ⟨0, by decide⟩) ++
        toLE 4 ((c.clearUnused capLastCap).cap ⟨1, by decide⟩) =
      le64 (c.toU64 % 2 ^ (capLastCap + 1)) := by
  have hsplit : (2 : Nat) ^ (capLastCap + 1) = 2 ^ 32 * 2 ^ (capLastCap - 31) := by
    rw [← Nat.pow_add]; congr 1; omega
  have hlow : (c.clearUnused capLastCap).cap ⟨0, by decide⟩ = c.low := by
    simp only [KernelCap.clearUnused, KernelCap.low, capToIndex]
    rw [if_neg (by omega)]
  have hhigh : (c.clearUnused capLastCap).cap ⟨1, by decide⟩ = c.high % 2 ^ (capLastCap - 31) := by
    simp only [KernelCap.clearUnused, KernelCap.high, capToIndex]
    rw [if_pos (by omega), and_capToMask_sub_one, show (capLastCap + 1) % 32 = capLastCap - 31 by
      omega]
  rw [le64_eq, hsplit, Nat.mod_mul_right_mod, c.toU64_mod, toLE_four_mod,
    Nat.mod_mul_right_div_self, c.toU64_div,
    Nat.mod_mod_of_dvd _ (Nat.pow_dvd_pow 2 (by omega : capLastCap - 31 ≤ 32)), hlow, hhigh]

/-- **The CAPS item reports exactly the capabilities up to `CAP_LAST_CAP`.**  On a kernel with
`32 ≤ CAP_LAST_CAP < 63`, the payload of `kdbus_meta_append_caps` is the inheritable,
permitted, effective and bounding sets of the task, in that order, each as a little-endian
`__u64` whose bit `c` is set iff the task has capability `c` and `c ≤ CAP_LAST_CAP`. -/
theorem capsPayload_masks (cfg : Config) (task : Task) (h₁ : 32 ≤ cfg.capLastCap)
    (h₂ : cfg.capLastCap < 63) :
    capsPayload cfg task =
      [task.capInheritable, task.capPermitted, task.capEffective, task.capBset].flatMap
        fun c => le64 (c.toU64 % 2 ^ (cfg.capLastCap + 1)) := by
  rw [capsPayload_eq]
  congr 1
  funext c
  exact c.encode_clearUnused h₁ h₂

/-- A task with every capability on a kernel whose last capability is `40`: each set is
reported as its mask of capabilities `0 .. 40`. -/
theorem capsPayload_masks_forty :
    let cfg : Config := ⟨false, false, false, 40⟩
    let task : Task := { sampleTask 0 0 with
      capInheritable := ⟨fun _ => 2 ^ 32 - 1⟩, capPermitted := ⟨fun _ => 2 ^ 32 - 1⟩,
      capEffective := ⟨fun _ => 2 ^ 32 - 1⟩, capBset := ⟨fun _ => 2 ^ 32 - 1⟩ }
    32 ≤ cfg.capLastCap ∧ cfg.capLastCap < 63 ∧
    capsPayload cfg task =
      [task.capInheritable, task.capPermitted, task.capEffective, task.capBset].flatMap
        fun c => le64 (c.toU64 % 2 ^ (cfg.capLastCap + 1)) := by
  intro cfg task
  exact ⟨by decide, by decide, capsPayload_masks cfg task (by decide) (by decide)⟩

/-- When `CAP_LAST_CAP % 32 = 31` the mask `CAP_TO_MASK(CAP_LAST_CAP + 1) - 1` is `0`: the word
that holds the last capability is cleared whole. -/
lemma KernelCap.clearUnused_of_mod (c : KernelCap) {capLastCap : Nat} (h : capLastCap % 32 = 31)
    (i : Fin kernelCapabilityU32s) (hi : i.val = capToIndex capLastCap) :
    (c.clearUnused capLastCap).cap i = 0 := by
  dsimp only [KernelCap.clearUnused]
  rw [if_pos hi, and_capToMask_sub_one,
    show (capLastCap + 1) % 32 = 0 by omega, Nat.pow_zero, Nat.mod_one]

/-- **When `CAP_LAST_CAP` ends a word, the CAPS item loses that word.**  On a kernel with
`CAP_LAST_CAP` `31` or `63`, `CAP_TO_MASK(CAP_LAST_CAP + 1) - 1` is `0`, so every set is
reported with the whole word of `CAP_LAST_CAP` cleared, valid capabilities included.  With
`63` each set keeps only capabilities `0 .. 31` and loses `32 .. 63`; with `31` it loses
`0 .. 31` and its upper word is reported uncleared. -/
theorem capsPayload_last_word_cleared (cfg : Config) (task : Task)
    (h : cfg.capLastCap % 32 = 31) (hlt : cfg.capLastCap < 64) :
    capsPayload cfg task =
      [task.capInheritable, task.capPermitted, task.capEffective, task.capBset].flatMap fun c =>
        le64 (if cfg.capLastCap = 63 then c.toU64 % 2 ^ 32 else c.toU64 / 2 ^ 32 * 2 ^ 32) := by
  rw [capsPayload_eq]
  congr 1
  funext c
  have h₀ := c.clearUnused_of_mod h
  rw [le64_eq]
  rcases (by omega : cfg.capLastCap = 63 ∨ cfg.capLastCap = 31) with hc | hc
  · -- the upper word is cleared, the lower one kept
    have hlow : (c.clearUnused cfg.capLastCap).cap ⟨0, by decide⟩ = c.low := by
      simp [KernelCap.clearUnused, KernelCap.low, capToIndex, hc]
    rw [if_pos hc, Nat.mod_mod, c.toU64_mod, toLE_four_mod, hlow,
      Nat.div_eq_of_lt (Nat.mod_lt _ (by norm_num)), h₀ ⟨1, by decide⟩ (by rw [hc]; rfl)]
  · -- the lower word is cleared, the upper one kept as it is
    have hhigh : (c.clearUnused cfg.capLastCap).cap ⟨1, by decide⟩ = c.high := by
      simp [KernelCap.clearUnused, KernelCap.high, capToIndex, hc]
    rw [if_neg (by omega), Nat.mul_mod_left, Nat.mul_div_cancel _ (by norm_num), c.toU64_div,
      toLE_four_mod, hhigh, h₀ ⟨0, by decide⟩ (by rw [hc]; rfl)]

/-- On a kernel with `CAP_LAST_CAP = 63`, a task holding every capability is reported with
capabilities `0 .. 31` only. -/
theorem capsPayload_last_word_cleared_sixtythree :
    let cfg : Config := ⟨false, false, false, 63⟩
    let task : Task := { sampleTask 0 0 with
      capInheritable := ⟨fun _ => 2 ^ 32 - 1⟩, capPermitted := ⟨fun _ => 2 ^ 32 - 1⟩,
      capEffective := ⟨fun _ => 2 ^ 32 - 1⟩, capBset := ⟨fun _ => 2 ^ 32 - 1⟩ }
    cfg.capLastCap % 32 = 31 ∧ cfg.capLastCap < 64 ∧
    capsPayload cfg task =
      [task.capInheritable, task.capPermitted, task.capEffective, task.capBset].flatMap fun c =>
        le64 (if cfg.capLastCap = 63 then c.toU64 % 2 ^ 32 else c.toU64 / 2 ^ 32 * 2 ^ 32) := by
  intro cfg task
  exact ⟨by decide, by decide, capsPayload_last_word_cleared cfg task (by decide) (by decide)⟩

end Kdbus
