import Kdbus.Item
import Kdbus.Connection

/-!
# The metadata writer of `metadata.c`

A translation of `metadata.c`, function by function.  `struct kdbus_meta` is `KdbusMeta`; the
state a call changes is a `World`, the snapshot together with the number of allocation
attempts made so far, and every function takes the world and returns the new world with its
return value.

Three things the C code gets from its surroundings are inputs here.

* `Slab` — the allocators, as an oracle indexed by the attempt counter: attempt `n` fails when
  `fails n`, and a `kmalloc` that succeeds hands out a buffer holding `junk n`.  Every failure
  schedule and every content of fresh memory is a choice of `Slab`.
* `Task` — what the producers read of `current`.
* `Config` — the kernel build: which of `CONFIG_CGROUPS`, `CONFIG_AUDITSYSCALL`,
  `CONFIG_SECURITY` are set, and `CAP_LAST_CAP`.

`meta->data` is `KdbusMeta.data`: `none` for `NULL`, or the number of the allocation it points
to, so that a pointer into the buffer (`meta->src_names`) can be compared with the buffer that
is current.  The bytes of the current buffer are `KdbusMeta.bytes`; bytes outside the
allocation read as zero.
-/

namespace Kdbus

/-! ## State -/

/-- A pointer into a heap buffer: the allocation it points into, and the offset there. -/
structure Ptr where
  alloc : Nat
  off : Nat
deriving DecidableEq, Repr

/-- `struct kdbus_meta`. -/
structure KdbusMeta where
  data : Option Nat
  bytes : Mem
  size : Nat
  allocatedSize : Nat
  attached : BitVec 64
  srcNames : Option Ptr
  srcNamesLen : Nat

/-- A zero-initialised snapshot: `data` is `NULL`, nothing attached. -/
def KdbusMeta.zero : KdbusMeta :=
  { data := none, bytes := fun _ => 0, size := 0, allocatedSize := 0, attached := 0,
    srcNames := none, srcNamesLen := 0 }

/-- The snapshot and the number of allocation attempts made so far. -/
structure World where
  meta : KdbusMeta
  allocs : Nat

/-- The allocators: attempt `n` fails when `fails n`; otherwise `kmalloc` returns a buffer
holding `junk n` (`kzalloc` and `__get_free_page(__GFP_ZERO)` return cleared memory). -/
structure Slab where
  fails : Nat → Bool
  junk : Nat → Mem

/-- The buffer `kmalloc(size)` hands out on attempt `n`. -/
def Slab.kmalloc (slab : Slab) (n size : Nat) : Mem := fun i =>
  if i < size then slab.junk n i else 0

/-- The kernel build. -/
structure Config where
  cgroups : Bool
  auditsyscall : Bool
  security : Bool
  capLastCap : Nat

/-! ## Inputs of the producers -/

/-- `mm->exe_file` and what `d_path` makes of it: no executable (no `mm`, or no
`exe_file`), a path `d_path` cannot produce, or the path. -/
inductive ExePath
  | none
  | unresolvable
  | path (p : CString)

/-- The argument area `[mm->arg_start, mm->arg_end)` of a task that has one, and how many of
the bytes asked for `copy_from_user` fails to copy. -/
structure ArgArea where
  args : List UInt8
  uncopied : Nat

/-- `_KERNEL_CAPABILITY_U32S`. -/
def kernelCapabilityU32s : Nat := 2

/-- `kernel_cap_t`. -/
structure KernelCap where
  cap : Fin kernelCapabilityU32s → Nat

/-- What the producers read of `current`.  `args` is `none` when there is no `mm` or
`mm->arg_end` is `0`; `cgroupPath` and `secctx` are the results of `task_cgroup_path` and
`security_secid_to_secctx`, an error being a positive errno. -/
structure Task where
  monotonicNs : Nat
  realtimeNs : Nat
  uid : Nat
  gid : Nat
  pid : Nat
  tgid : Nat
  startTime : Nat
  groupLeaderComm : CString
  comm : CString
  exePath : ExePath
  args : Option ArgArea
  capInheritable : KernelCap
  capPermitted : KernelCap
  capEffective : KernelCap
  capBset : KernelCap
  cgroupPath : Except ℕ+ CString
  loginuid : Nat
  sessionid : Nat
  secctx : Except ℕ+ (List UInt8)

/-- `PAGE_SIZE`. -/
def pageSize : Nat := 4096

/-! ## The item writer -/

/-- An allocation attempt that failed. -/
def World.attempt (w : World) : World := { w with allocs := w.allocs + 1 }

/-- `meta->data = kzalloc(size)` on attempt `w.allocs`, and `meta->allocated_size = size`. -/
def World.kzallocData (w : World) (size : Nat) : World :=
  { meta := { w.meta with data := some w.allocs, bytes := fun _ => 0, allocatedSize := size },
    allocs := w.allocs + 1 }

/-- The growth path: `data = kmalloc(size)`, copy the first `meta->size` bytes, clear from the
old `allocated_size` on, release the old buffer and take the new one. -/
def World.kmallocData (slab : Slab) (w : World) (size : Nat) : World :=
  let data := (slab.kmalloc w.allocs size).memcpy w.meta.bytes w.meta.size
  let data := data.memset w.meta.allocatedSize 0 (size - w.meta.allocatedSize)
  { meta := { w.meta with data := some w.allocs, bytes := data, allocatedSize := size },
    allocs := w.allocs + 1 }

/-- `meta->size += KDBUS_ALIGN8(extra_size)`. -/
def World.reserve (w : World) (extraSize : Nat) : World :=
  { w with meta := { w.meta with size := w.meta.size + kdbusAlign8 extraSize } }

/-- `kdbus_meta_append_item(meta, extra_size)`: make room for `KDBUS_ALIGN8(extra_size)` more
bytes, allocating the buffer (at least 512 bytes) or growing it to the next power of two as
needed; the offset of the new record, or `-ENOMEM`.  The source's comment speaks of doubling
the buffer, but the code rounds the needed size up to a power of two, which may grow it more
than twofold. -/
def kdbusMetaAppendItem (slab : Slab) (w : World) (extraSize : Nat) :
    World × Except Int Nat :=
  if w.meta.data.isNone ∧ slab.fails w.allocs then (w.attempt, .error (-enomem)) else
  let w := if w.meta.data.isNone then
    w.kzallocData (roundupPowOfTwo (256 + kdbusAlign8 extraSize)) else w
  let size := w.meta.size + kdbusAlign8 extraSize
  if size > w.meta.allocatedSize ∧ slab.fails w.allocs then (w.attempt, .error (-enomem)) else
  let w := if size > w.meta.allocatedSize then w.kmallocData slab (roundupPowOfTwo size) else w
  (w.reserve extraSize, .ok w.meta.size)

/-- Replace the bytes of the current buffer. -/
def World.setBytes (w : World) (b : Mem) : World := { w with meta := { w.meta with bytes := b } }

/-- `item->type = type; item->size = size;` for the item at `item`. -/
def Mem.setItemHeader (m : Mem) (item : Nat) (type : ItemType) (size : Nat) : Mem :=
  (m.writeU64 (item + 8) type.code).writeU64 item size

/-! ## The producers -/

/-- `sizeof(struct kdbus_timestamp)`: `monotonic_ns`, `realtime_ns`. -/
def kdbusTimestampSize : Nat := 16

/-- `sizeof(struct kdbus_creds)`: `uid`, `gid`, `pid`, `tid`, `starttime`. -/
def kdbusCredsSize : Nat := 40

/-- `kdbus_meta_append_timestamp`. -/
def kdbusMetaAppendTimestamp (slab : Slab) (task : Task) (w : World) : World × Int :=
  let size := kdbusItemSize kdbusTimestampSize
  match kdbusMetaAppendItem slab w size with
  | (w, .error e) => (w, e)
  | (w, .ok item) =>
    let b := w.meta.bytes.setItemHeader item .timestamp size
    let b := b.writeU64 (item + kdbusPartHeaderSize) task.monotonicNs
    (w.setBytes (b.writeU64 (item + kdbusPartHeaderSize + 8) task.realtimeNs), 0)

/-- `kdbus_meta_append_data(meta, type, buf, len)`. -/
def kdbusMetaAppendData (slab : Slab) (w : World) (type : ItemType) (buf : List UInt8) :
    World × Int :=
  if buf.length = 0 then (w, 0) else
  let size := kdbusItemSize buf.length
  match kdbusMetaAppendItem slab w size with
  | (w, .error e) => (w, e)
  | (w, .ok item) =>
    let b := w.meta.bytes.setItemHeader item type (kdbusPartHeaderSize + buf.length)
    (w.setBytes (b.write (item + kdbusPartHeaderSize) buf), 0)

/-- `kdbus_meta_append_str(meta, type, str)`: the string and its NUL. -/
def kdbusMetaAppendStr (slab : Slab) (w : World) (type : ItemType) (str : CString) :
    World × Int :=
  kdbusMetaAppendData slab w type str.bytes

/-- The second loop of `kdbus_meta_append_src_names`: `strcpy` each name to
`item->data + pos` and advance `pos` past its NUL. -/
def copyNames (data : Nat) (acc : Mem × Nat) (names : List CString) : Mem × Nat :=
  names.foldl (fun (b, pos) name => (b.strcpy (data + pos) name, pos + (name.strlen + 1))) acc

/-- `kdbus_meta_append_src_names(meta, conn)`: one item with the names `conn` owns, each with
its NUL, and `meta->src_names` pointing at its payload. -/
def kdbusMetaAppendSrcNames (slab : Slab) (w : World) (conn : Option KdbusConn) :
    World × Int :=
  match conn with
  | none => (w, 0)
  | some conn =>
    let strsize := conn.namesList.foldl (fun s name => s + (name.strlen + 1)) 0
    if strsize = 0 then (w, 0) else
    let size := kdbusItemSize strsize
    match kdbusMetaAppendItem slab w size with
    | (w, .error e) => (w, e)
    | (w, .ok item) =>
      let b := w.meta.bytes.setItemHeader item .names (kdbusPartHeaderSize + strsize)
      let (b, pos) := copyNames (item + kdbusPartHeaderSize) (b, 0) conn.namesList
      let srcNames := w.meta.data.map fun a => ⟨a, item + kdbusPartHeaderSize⟩
      ({ w with meta := { w.meta with bytes := b, srcNames := srcNames, srcNamesLen := pos } }, 0)

/-- The payload of a `KDBUS_ITEM_CREDS` item. -/
def credsPayload (task : Task) : List UInt8 :=
  le64 task.uid ++ le64 task.gid ++ le64 task.pid ++ le64 task.tgid ++ le64 task.startTime

/-- `kdbus_meta_append_cred`.  Note `creds.pid = current->pid`, `creds.tid = current->tgid`. -/
def kdbusMetaAppendCred (slab : Slab) (task : Task) (w : World) : World × Int :=
  let size := kdbusItemSize kdbusCredsSize
  match kdbusMetaAppendItem slab w size with
  | (w, .error e) => (w, e)
  | (w, .ok item) =>
    let b := w.meta.bytes.setItemHeader item .creds size
    (w.setBytes (b.write (item + kdbusPartHeaderSize) (credsPayload task)), 0)

/-- `__get_free_page(GFP_TEMPORARY | __GFP_ZERO)` on attempt `w.allocs`: whether it succeeded.
The page is scratch space and released before the producer returns. -/
def getFreePage (slab : Slab) (w : World) : World × Bool :=
  (w.attempt, !slab.fails w.allocs)

/-- `kdbus_meta_append_exe`. -/
def kdbusMetaAppendExe (slab : Slab) (task : Task) (w : World) : World × Int :=
  match task.exePath with
  | .none => (w, 0)
  | exe =>
    match getFreePage slab w with
    | (w, false) => (w, -enomem)
    | (w, true) =>
      match exe with
      | .path p => kdbusMetaAppendData slab w .exe p.bytes
      | _ => (w, 0)

/-- `kdbus_meta_append_cmdline`: at most a page of the argument area; `copy_from_user`
returns the number of bytes it could not copy, and that number is returned. -/
def kdbusMetaAppendCmdline (slab : Slab) (task : Task) (w : World) : World × Int :=
  match getFreePage slab w with
  | (w, false) => (w, -enomem)
  | (w, true) =>
    match task.args with
    | none => (w, 0)
    | some a =>
      let len := min a.args.length pageSize
      let ret := min a.uncopied len
      if ret = 0 then kdbusMetaAppendData slab w .cmdline (a.args.take len) else (w, ret)

/-- `CAP_TO_INDEX(x)`. -/
def capToIndex (x : Nat) : Nat := x / 32

/-- `CAP_TO_MASK(x)`. -/
def capToMask (x : Nat) : Nat := 1 <<< (x % 32)

/-- `cap[i].cap[CAP_TO_INDEX(CAP_LAST_CAP)] &= CAP_TO_MASK(CAP_LAST_CAP + 1) - 1`. -/
def KernelCap.clearUnused (c : KernelCap) (capLastCap : Nat) : KernelCap :=
  ⟨fun i => if i.val = capToIndex capLastCap then c.cap i &&& (capToMask (capLastCap + 1) - 1)
    else c.cap i⟩

/-- The four capability sets, each as `_KERNEL_CAPABILITY_U32S` `u32`s. -/
def capsPayload (cfg : Config) (task : Task) : List UInt8 :=
  [task.capInheritable, task.capPermitted, task.capEffective, task.capBset].flatMap fun c =>
    (List.finRange kernelCapabilityU32s).flatMap fun i => le32 ((c.clearUnused cfg.capLastCap).cap i)

/-- `kdbus_meta_append_caps`. -/
def kdbusMetaAppendCaps (slab : Slab) (cfg : Config) (task : Task) (w : World) : World × Int :=
  kdbusMetaAppendData slab w .caps (capsPayload cfg task)

/-- `kdbus_meta_append_cgroup`. -/
def kdbusMetaAppendCgroup (slab : Slab) (task : Task) (w : World) : World × Int :=
  match getFreePage slab w with
  | (w, false) => (w, -enomem)
  | (w, true) =>
    match task.cgroupPath with
    | .error e => (w, -(e : Nat))
    | .ok path => kdbusMetaAppendStr slab w .cgroup path

/-- `struct kdbus_audit`: `sessionid`, `loginuid`. -/
def auditPayload (task : Task) : List UInt8 := le64 task.sessionid ++ le64 task.loginuid

/-- `kdbus_meta_append_audit`. -/
def kdbusMetaAppendAudit (slab : Slab) (task : Task) (w : World) : World × Int :=
  kdbusMetaAppendData slab w .audit (auditPayload task)

/-- `kdbus_meta_append_seclabel`: no security module is not an error. -/
def kdbusMetaAppendSeclabel (slab : Slab) (task : Task) (w : World) : World × Int :=
  match task.secctx with
  | .error e => if (e : Nat) = eopnotsupp then (w, 0) else (w, -(e : Nat))
  | .ok label => if label.length > 0 then kdbusMetaAppendData slab w .seclabel label else (w, 0)

/-- The body of the `KDBUS_ATTACH_COMM` block of `kdbus_meta_append`: the group leader's
`comm` as `KDBUS_ITEM_TID_COMM`, then the task's own as `KDBUS_ITEM_PID_COMM`. -/
def appendComm (slab : Slab) (task : Task) (w : World) : World × Int :=
  match kdbusMetaAppendStr slab w .tidComm task.groupLeaderComm with
  | (w, ret) => if ret < 0 then (w, ret) else kdbusMetaAppendStr slab w .pidComm task.comm

/-! ## `kdbus_meta_append` -/

/-- The metadata categories, in the bit order of `KDBUS_ATTACH_*`. -/
inductive Category
  | timestamp | creds | names | comm | exe | cmdline | cgroup | caps | seclabel | audit
deriving DecidableEq, Repr

/-- The bit of `KDBUS_ATTACH_*` for a category. -/
def Category.index : Category → Nat
  | .timestamp => 0 | .creds => 1 | .names => 2 | .comm => 3 | .exe => 4 | .cmdline => 5
  | .cgroup => 6 | .caps => 7 | .seclabel => 8 | .audit => 9

/-- `KDBUS_ATTACH_*`. -/
def Category.bit (c : Category) : BitVec 64 := 1#64 <<< c.index

/-- `meta->attached |= bit`. -/
def World.attach (w : World) (c : Category) : World :=
  { w with meta := { w.meta with attached := w.meta.attached ||| c.bit } }

/-- The blocks of `kdbus_meta_append`, in order: each category with the producer its block
runs.  The last three exist only when the kernel is built with them. -/
def metaBlocks (cfg : Config) (task : Task) (conn : KdbusConn) :
    List (Category × (Slab → World → World × Int)) :=
  [(.timestamp, fun slab => kdbusMetaAppendTimestamp slab task),
   (.creds, fun slab => kdbusMetaAppendCred slab task),
   (.names, fun slab w => kdbusMetaAppendSrcNames slab w (some conn)),
   (.comm, fun slab => appendComm slab task),
   (.exe, fun slab => kdbusMetaAppendExe slab task),
   (.cmdline, fun slab => kdbusMetaAppendCmdline slab task),
   (.caps, fun slab => kdbusMetaAppendCaps slab cfg task)] ++
  (if cfg.cgroups then [(.cgroup, fun slab => kdbusMetaAppendCgroup slab task)] else []) ++
  (if cfg.auditsyscall then [(.audit, fun slab => kdbusMetaAppendAudit slab task)] else []) ++
  (if cfg.security then [(.seclabel, fun slab => kdbusMetaAppendSeclabel slab task)] else [])

/-- Run the blocks: a block whose category `which` asks for and `meta->attached` lacks runs its
producer, stops the call on a negative return (`goto exit`), and otherwise marks the category
attached.  `ret` is the last producer's return value, which the call returns. -/
def attachBlocks (slab : Slab) (which : BitVec 64) :
    List (Category × (Slab → World → World × Int)) → World → Int → World × Int
  | [], w, ret => (w, ret)
  | (c, produce) :: blocks, w, ret =>
    if which &&& c.bit ≠ 0 ∧ w.meta.attached &&& c.bit = 0 then
      match produce slab w with
      | (w, r) => if r < 0 then (w, r) else attachBlocks slab which blocks (w.attach c) r
    else attachBlocks slab which blocks w ret

/-- `kdbus_meta_append(meta, conn, which)`. -/
def kdbusMetaAppend (cfg : Config) (slab : Slab) (task : Task) (w : World)
    (conn : Option KdbusConn) (which : BitVec 64) : World × Int :=
  match conn with
  | none => (w, 0)
  | some conn =>
    if which &&& w.meta.attached = which then (w, 0)
    else attachBlocks slab which (metaBlocks cfg task conn) w 0

/-- One call of `kdbus_meta_append` on the snapshot, made while `task` is current. -/
structure Call where
  task : Task
  conn : Option KdbusConn
  which : BitVec 64

/-- A sequence of calls on one snapshot. -/
def runAppend (cfg : Config) (slab : Slab) : World → List Call → World
  | w, [] => w
  | w, c :: calls => runAppend cfg slab (kdbusMetaAppend cfg slab c.task w c.conn c.which).1 calls

end Kdbus
