import CanGateway.Library.ByteMemory
import CanGateway.Library.Transfer

/-!
# Reading and writing the flash device

`safe_read` and `safe_write` make a system call again while a signal interrupts it; `full_read` and
`full_write` go on behind a short one.  The device answers every call as it likes: its answers are
those of a machine of any state type.  The calls made and their answers are kept as events.
-/

open ByteMemory
open Transfer (CallResult Attempt SysCall SafeCall Outcome Calls Stopped)

namespace CanGateway

/-- `EINTR`. -/
def eintr : Nat := 4
/-- `MAX_RETRY_CNT`. -/
def maxRetryCnt : Nat := 10000

/-! ## The device -/

/-- What `read` comes to: the bytes read, or -1 with `errno`. -/
inductive ReadResult where
  | data (bytes : List UInt8)
  | error (errno : Nat)
  deriving DecidableEq, Repr

def ReadResult.bytes : ReadResult → List UInt8
  | .data bytes => bytes
  | .error _ => []

def ReadResult.toCall : ReadResult → CallResult
  | .data bytes => .count bytes.length
  | .error errno => .error errno

theorem ReadResult.moved_toCall (r : ReadResult) : r.toCall.moved = r.bytes.length := by
  cases r with
  | data bytes => rfl
  | error errno => rfl

/-- `struct mtd_info_user`: a device that can be erased has erase blocks of some size. -/
structure MtdInfo where
  size : UInt32
  erasesize : UInt32
  erasesize_pos : 0 < erasesize.toNat

/-- The answers to the system calls.  `write` takes no more than it is given and `read` gives no
    more than it is asked for. -/
structure MtdDevice (σ : Type) where
  openDevice : σ → Bool × σ
  memGetInfo : σ → Option MtdInfo × σ
  memErase : σ → UInt32 → UInt32 → Bool × σ
  lseek : σ → Bool × σ
  write : σ → List UInt8 → CallResult × σ
  write_le : ∀ s data n, (write s data).1 = .count n → n ≤ data.length
  read : σ → Nat → ReadResult × σ
  read_le : ∀ s count, (read s count).1.bytes.length ≤ count

/-- The calls a caller can tell apart: a block erased; data handed to `write` or asked of `read` at
    a file position, with the answer. -/
inductive FlashEvent where
  | erased (start length : UInt32)
  | wrote (pos : Nat) (data : List UInt8) (result : CallResult)
  | read (pos count : Nat) (result : ReadResult)
  deriving DecidableEq, Repr

/-- The bytes `write` took. -/
def FlashEvent.accepted : FlashEvent → List UInt8
  | .wrote _ data result => data.take result.moved
  | _ => []

/-- The bytes `read` gave. -/
def FlashEvent.delivered : FlashEvent → List UInt8
  | .read _ _ result => result.bytes
  | _ => []

/-- The bytes `read` gave, each with its offset on the device. -/
def FlashEvent.readBytes : FlashEvent → List (UInt8 × Nat)
  | .read pos _ result => result.bytes.zipIdx pos
  | _ => []

def accepted (events : List FlashEvent) : List UInt8 := events.flatMap FlashEvent.accepted

def delivered (events : List FlashEvent) : List UInt8 := events.flatMap FlashEvent.delivered

def readBytes (events : List FlashEvent) : List (UInt8 × Nat) :=
  events.flatMap FlashEvent.readBytes

theorem accepted_cons (event : FlashEvent) (events : List FlashEvent) :
    accepted (event :: events) = event.accepted ++ accepted events := List.flatMap_cons

theorem delivered_append (events events' : List FlashEvent) :
    delivered (events ++ events') = delivered events ++ delivered events' := List.flatMap_append

theorem readBytes_append (events events' : List FlashEvent) :
    readBytes (events ++ events') = readBytes events ++ readBytes events' := List.flatMap_append

/-- The device once it is open, with the file position and the calls made so far. -/
structure OpenFile (σ : Type) where
  device : σ
  pos : Nat
  events : List FlashEvent

section Calls

variable {σ : Type} (dev : MtdDevice σ)

/-- The system call `write`. -/
def sysWrite (file : OpenFile σ) (data : List UInt8) : CallResult × OpenFile σ :=
  let r := dev.write file.device data
  (r.1,
    { device := r.2
      pos := file.pos + r.1.moved
      events := file.events ++ [.wrote file.pos data r.1] })

/-- The system call `read`. -/
def sysRead (file : OpenFile σ) (count : Nat) : ReadResult × OpenFile σ :=
  let r := dev.read file.device count
  (r.1,
    { device := r.2
      pos := file.pos + r.1.bytes.length
      events := file.events ++ [.read file.pos count r.1] })

theorem sysWrite_slice_le {file : OpenFile σ} {buf : List UInt8} {offset len n : Nat}
    (h : (sysWrite dev file (slice buf offset len)).1 = .count n) : n ≤ len :=
  (dev.write_le _ _ _ h).trans (List.length_take_le _ _)

/-- `write(fd, buf + offset, len)`. -/
def writeCall (buf : List UInt8) : SysCall (OpenFile σ) where
  call file offset len := sysWrite dev file (slice buf offset len)
  count_le _ _ _ _ h := sysWrite_slice_le dev h

/-- `read(fd, buf + offset, len)`; `buf` is the second part of the state. -/
def readCall : SysCall (OpenFile σ × List UInt8) where
  call s offset len :=
    let r := sysRead dev s.1 len
    (r.1.toCall, (r.2, write s.2 offset r.1.bytes))
  count_le := by
    intro s offset len n h
    have hle := dev.read_le s.1.device len
    rw [← ReadResult.moved_toCall] at hle
    have hcount : (dev.read s.1.device len).1.toCall = .count n := h
    rw [hcount] at hle
    exact hle

/-! ## The functions of the source -/

/-- `safe_read` and `safe_write`, for their system call. -/
def safeCall {τ : Type} (c : SysCall τ) : SafeCall c eintr maxRetryCnt where
  run s offset count :=
    if count = 0 then ⟨-1, [], s⟩ else Transfer.retry c eintr maxRetryCnt offset count s
  calls := by
    intro s offset count
    split
    · exact .nil s
    · exact (Transfer.retry_spec c eintr maxRetryCnt offset count s).1
  retried := by
    intro s offset count hcount
    rw [if_neg (Nat.pos_iff_ne_zero.mp hcount)]
    exact (Transfer.retry_spec c eintr maxRetryCnt offset count s).2

def safeWrite (buf : List UInt8) : SafeCall (writeCall dev buf) eintr maxRetryCnt :=
  safeCall (writeCall dev buf)

def safeRead : SafeCall (readCall dev) eintr maxRetryCnt := safeCall (readCall dev)

def fullWrite (file : OpenFile σ) (buf : List UInt8) (len : Nat) : Outcome (OpenFile σ) :=
  Transfer.full (safeWrite dev buf) len file

def fullRead (file : OpenFile σ) (buf : List UInt8) (len : Nat) :
    Outcome (OpenFile σ × List UInt8) :=
  Transfer.full (safeRead dev) len (file, buf)

/-- A short read is printed, and that is all: the caller learns nothing of it. -/
def xread (file : OpenFile σ) (buf : List UInt8) (count : Nat) : OpenFile σ × List UInt8 :=
  if count = 0 then (file, buf) else (fullRead dev file buf count).state

theorem xread_of_pos (file : OpenFile σ) (buf : List UInt8) {count : Nat} (h : 0 < count) :
    xread dev file buf count = (fullRead dev file buf count).state :=
  if_neg (Nat.pos_iff_ne_zero.mp h)

/-! ## What the calls leave behind -/

variable {dev} {file file' : OpenFile σ} {buf buf' : List UInt8} {trace : List Attempt}

/-- The event of a call of `full_write` that began at file position `base`. -/
def writeEvent (buf : List UInt8) (base : Nat) (attempt : Attempt) : FlashEvent :=
  .wrote (base + attempt.offset) (slice buf attempt.offset attempt.len) attempt.result

-- By induction on the calls: the file position moves along with the buffer.
theorem writeCalls_events (h : Calls (writeCall dev buf) file trace file') {base offset : Nat}
    (hadvances : Transfer.Advances offset trace) (hpos : file.pos = base + offset) :
    file'.events = file.events ++ trace.map (writeEvent buf base) ∧
      file'.pos = file.pos + Transfer.moved trace := by
  induction h generalizing offset with
  | nil file => exact ⟨(List.append_nil _).symm, rfl⟩
  | @cons file file' start len trace _ ih =>
      obtain ⟨hstart, hrest⟩ := hadvances
      change start = offset at hstart
      have hnext : ((writeCall dev buf).call file start len).2.pos =
          base + (offset + ((writeCall dev buf).call file start len).1.moved) := by
        rw [← Nat.add_assoc, ← hpos]
        rfl
      obtain ⟨hevents, hlast⟩ := ih hrest hnext
      constructor
      · have hevent :
            writeEvent buf base ⟨start, len, ((writeCall dev buf).call file start len).1⟩ =
              .wrote file.pos (slice buf start len)
                ((writeCall dev buf).call file start len).1 := by
          rw [writeEvent, hpos, hstart]
        rw [hevents, List.map_cons, hevent]
        exact List.append_assoc _ _ _
      · rw [hlast, Transfer.moved_cons, ← Nat.add_assoc]
        rfl

-- The bytes of the buffer from the first position on.
theorem accepted_writeEvents {offset : Nat} (base : Nat)
    (hadvances : Transfer.Advances offset trace)
    (hcount : ∀ attempt ∈ trace, attempt.result.moved ≤ attempt.len) :
    accepted (trace.map (writeEvent buf base)) = slice buf offset (Transfer.moved trace) := by
  induction trace generalizing offset with
  | nil => exact (slice_zero buf offset).symm
  | cons attempt trace ih =>
      obtain ⟨hstart, hrest⟩ := hadvances
      have hle := hcount attempt List.mem_cons_self
      rw [List.map_cons, accepted_cons,
        ih hrest fun a hmem => hcount a (List.mem_cons_of_mem _ hmem), Transfer.moved_cons,
        slice_add, writeEvent, FlashEvent.accepted, hstart, slice, List.take_take,
        Nat.min_eq_left hle, slice, slice]

/-- What reads leave behind in the file. -/
structure Reads (file file' : OpenFile σ) (calls : List FlashEvent) : Prop where
  events : file'.events = file.events ++ calls
  onlyReads : ∀ event ∈ calls, ∃ pos count result, event = .read pos count result
  pos : file'.pos = file.pos + (delivered calls).length
  readBytes : readBytes calls = (delivered calls).zipIdx file.pos

theorem Reads.nil (file : OpenFile σ) : Reads file file [] where
  events := (List.append_nil _).symm
  onlyReads := fun _ hmem => absurd hmem List.not_mem_nil
  pos := rfl
  readBytes := rfl

theorem Reads.append {file'' : OpenFile σ} {calls calls' : List FlashEvent}
    (h : Reads file file' calls) (h' : Reads file' file'' calls') :
    Reads file file'' (calls ++ calls') where
  events := by rw [h'.events, h.events, List.append_assoc]
  onlyReads := by
    intro event hmem
    rcases List.mem_append.mp hmem with hmem | hmem
    · exact h.onlyReads event hmem
    · exact h'.onlyReads event hmem
  pos := by
    rw [h'.pos, h.pos, delivered_append, List.length_append, Nat.add_assoc]
  readBytes := by
    rw [readBytes_append, h.readBytes, h'.readBytes, h.pos, delivered_append, List.zipIdx_append]

theorem sysRead_reads (file : OpenFile σ) (count : Nat) :
    Reads file (sysRead dev file count).2 [.read file.pos count (sysRead dev file count).1] where
  events := rfl
  onlyReads := by
    intro event hmem
    exact ⟨_, _, _, List.mem_singleton.mp hmem⟩
  pos := by
    rw [delivered, List.flatMap_singleton]
    rfl
  readBytes := by
    rw [CanGateway.readBytes, List.flatMap_singleton, delivered, List.flatMap_singleton]
    rfl

-- By induction on the calls: what they deliver is put together in the buffer.
theorem readCalls_reads {s s' : OpenFile σ × List UInt8} (h : Calls (readCall dev) s trace s')
    {offset : Nat} (hadvances : Transfer.Advances offset trace) (hoffset : offset ≤ s.2.length) :
    ∃ calls, Reads s.1 s'.1 calls ∧ (delivered calls).length = Transfer.moved trace ∧
      s'.2 = write s.2 offset (delivered calls) := by
  induction h generalizing offset with
  | nil s => exact ⟨[], Reads.nil s.1, rfl, (write_nil s.2 offset).symm⟩
  | @cons s s' start len trace _ ih =>
      obtain ⟨hstart, hrest⟩ := hadvances
      change start = offset at hstart
      have hmoved : ((readCall dev).call s start len).1.moved =
          (sysRead dev s.1 len).1.bytes.length := (sysRead dev s.1 len).1.moved_toCall
      have hbuf : ((readCall dev).call s start len).2.2 =
          write s.2 offset (sysRead dev s.1 len).1.bytes := by
        rw [← hstart]
        rfl
      have hroom : offset + (sysRead dev s.1 len).1.bytes.length ≤
          ((readCall dev).call s start len).2.2.length := by
        rw [hbuf]
        simp only [write, List.length_append, List.length_take, List.length_drop]
        omega
      rw [hmoved] at hrest
      obtain ⟨calls, hreads, hlen, hwritten⟩ := ih hrest hroom
      have hdelivered : delivered (.read s.1.pos len (sysRead dev s.1 len).1 :: calls) =
          (sysRead dev s.1 len).1.bytes ++ delivered calls := rfl
      refine ⟨_, (sysRead_reads s.1 len).append hreads, ?_, ?_⟩
      · rw [List.singleton_append, hdelivered, List.length_append, hlen, Transfer.moved_cons,
          hmoved]
      · rw [List.singleton_append, hdelivered, hwritten, hbuf]
        exact write_write_behind s.2 _ _ _ hoffset

variable (dev)

theorem fullWrite_spec (file : OpenFile σ) (buf : List UInt8) (len : Nat) :
    Calls (writeCall dev buf) file (fullWrite dev file buf len).trace
        (fullWrite dev file buf len).state ∧
      Transfer.Transferred eintr maxRetryCnt len (fullWrite dev file buf len) :=
  Transfer.full_spec (safeWrite dev buf) len file

theorem fullRead_spec (file : OpenFile σ) (buf : List UInt8) (len : Nat) :
    Calls (readCall dev) (file, buf) (fullRead dev file buf len).trace
        (fullRead dev file buf len).state ∧
      Transfer.Transferred eintr maxRetryCnt len (fullRead dev file buf len) :=
  Transfer.full_spec (safeRead dev) len (file, buf)

-- The device has taken the first `ret` bytes of the buffer, and the file position is behind them.
theorem fullWrite_accepted (file : OpenFile σ) (buf : List UInt8) (len : Nat) :
    let o := fullWrite dev file buf len
    o.state.events = file.events ++ o.trace.map (writeEvent buf file.pos) ∧
      accepted (o.trace.map (writeEvent buf file.pos)) = buf.take o.ret.toNat ∧
        o.state.pos = file.pos + o.ret.toNat := by
  intro o
  obtain ⟨hcalls, htransferred⟩ := fullWrite_spec dev file buf len
  obtain ⟨hevents, hpos⟩ := writeCalls_events hcalls htransferred.advances rfl
  refine ⟨hevents, ?_, ?_⟩
  · rw [accepted_writeEvents _ htransferred.advances hcalls.count_le, htransferred.moved, slice,
      List.drop_zero]
  · rw [hpos, htransferred.moved]

-- What the device has given is at the start of the buffer, the rest of which is as it was.
theorem fullRead_delivered (file : OpenFile σ) (buf : List UInt8) (len : Nat) :
    let o := fullRead dev file buf len
    ∃ calls, Reads file o.state.1 calls ∧ (delivered calls).length = o.ret.toNat ∧
      o.state.2 = write buf 0 (delivered calls) := by
  intro o
  obtain ⟨hcalls, htransferred⟩ := fullRead_spec dev file buf len
  obtain ⟨calls, hreads, hlen, hbuf⟩ :=
    readCalls_reads hcalls htransferred.advances (Nat.zero_le _)
  rw [htransferred.moved] at hlen
  exact ⟨calls, hreads, hlen, hbuf⟩

/-! ## Exact prefixes -/

/-- The `moved` bytes are the first `ret` of `buf`; a return of -1 means that none was moved, and a
    return below `len` that the device moved nothing, failed or interrupted too often. -/
structure ExactPrefix {τ : Type} (len : Nat) (buf moved : List UInt8) (o : Outcome τ) : Prop where
  moved_eq : moved = buf.take o.ret.toNat
  length : moved.length = o.ret.toNat
  ret_range : -1 ≤ o.ret ∧ o.ret ≤ len
  failed : o.ret = -1 → moved = []
  stopped : o.ret < len → Stopped eintr maxRetryCnt o.trace

theorem ExactPrefix.of_transferred {τ : Type} {len : Nat} {buf moved : List UInt8} {o : Outcome τ}
    (h : Transfer.Transferred eintr maxRetryCnt len o) (hmoved : moved = buf.take o.ret.toNat)
    (hlength : moved.length = o.ret.toNat) : ExactPrefix len buf moved o where
  moved_eq := hmoved
  length := hlength
  ret_range := h.ret_range
  failed := by
    intro hret
    rw [hret] at hlength
    exact List.length_eq_zero_iff.mp hlength
  stopped := h.stopped

/-- **The full transfers move an exact prefix.**  Whatever the device answers, `full_write` and
    `full_read` terminate, as does every call they make again; the device has taken the first `ret`
    bytes of the buffer, or has given them, in order and each once. -/
theorem full_transfer_exact (file : OpenFile σ) (buf : List UInt8) :
    let w := fullWrite dev file buf buf.length
    let r := fullRead dev file buf buf.length
    (Loop.Returns (Transfer.fullBody (safeWrite dev buf)) ⟨0, 0, buf.length, [], file⟩ w ∧
      ∃ calls, w.state.events = file.events ++ calls ∧
        ExactPrefix buf.length buf (accepted calls) w) ∧
    (Loop.Returns (Transfer.fullBody (safeRead dev)) ⟨0, 0, buf.length, [], (file, buf)⟩ r ∧
      ∃ calls, r.state.1.events = file.events ++ calls ∧
        ExactPrefix buf.length r.state.2 (delivered calls) r ∧
          r.state.2.drop r.ret.toNat = buf.drop r.ret.toNat) ∧
    (∀ file' offset count,
      Loop.Returns (Transfer.retryBody (writeCall dev buf) eintr maxRetryCnt offset count)
        ⟨0, [], file'⟩ (Transfer.retry (writeCall dev buf) eintr maxRetryCnt offset count file')) ∧
    ∀ s offset count,
      Loop.Returns (Transfer.retryBody (readCall dev) eintr maxRetryCnt offset count)
        ⟨0, [], s⟩ (Transfer.retry (readCall dev) eintr maxRetryCnt offset count s) := by
  intro w r
  refine ⟨⟨Transfer.full_returns _ _ _, ?_⟩, ⟨Transfer.full_returns _ _ _, ?_⟩,
    fun _ _ _ => Transfer.retry_returns _ _ _ _ _ _,
    fun _ _ _ => Transfer.retry_returns _ _ _ _ _ _⟩
  · have htransferred := (fullWrite_spec dev file buf buf.length).2
    obtain ⟨hevents, haccepted, _⟩ := fullWrite_accepted dev file buf buf.length
    refine ⟨_, hevents, ExactPrefix.of_transferred htransferred haccepted ?_⟩
    have hle : (fullWrite dev file buf buf.length).ret.toNat ≤ buf.length := by
      have hrange := htransferred.ret_range
      omega
    rw [haccepted, List.length_take]
    exact Nat.min_eq_left hle
  · have htransferred := (fullRead_spec dev file buf buf.length).2
    obtain ⟨calls, hreads, hlength, hbuf⟩ := fullRead_delivered dev file buf buf.length
    refine ⟨calls, hreads.events, ExactPrefix.of_transferred htransferred ?_ hlength, ?_⟩
    · rw [hbuf, ← hlength, write, List.take_zero, List.nil_append, List.take_left]
    · rw [hbuf, ← hlength, write, List.take_zero, List.nil_append, List.drop_left, Nat.zero_add]

end Calls

end CanGateway
