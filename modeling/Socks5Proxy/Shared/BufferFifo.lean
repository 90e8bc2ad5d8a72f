import Socks5Proxy.Library.Run
import Socks5Proxy.Shared.Buffer

/-!
# The buffer is a bounded queue of bytes

A run records the bytes that go in, by `buffer_write` or behind the write
pointer, and the bytes that come out, by `buffer_read` or at the read pointer.
Whatever the order of the operations, and wherever they compact, what has come
out followed by the content is what has gone in.
-/

namespace Socks5Proxy

open Library Library.Memory

/-- The operations on a buffer.  `fill` is the caller's own store behind
`buffer_write_ptr`. -/
inductive BufferOp
  | fill (bytes : List UInt8)
  | writeAdv (bytes : ℤ)
  | readAdv (bytes : ℤ)
  | write (c : UInt8)
  | read
  | compact
  | reset
  deriving Repr

inductive BufferFault
  | assertion
  deriving DecidableEq, Repr

/-- A buffer, with the bytes put in and taken out since it was last empty by
`buffer_init` or `buffer_reset`. -/
structure BufferRun where
  buffer : Buffer
  input : List UInt8
  output : List UInt8

namespace BufferRun

def init (n : ℕ) (data : ℕ → UInt8) : BufferRun :=
  ⟨bufferInit n data, [], []⟩

/-- The bytes behind the write pointer go in. -/
def writeAdv (r : BufferRun) (bytes : ℤ) : Except BufferFault BufferRun :=
  match bufferWriteAdv r.buffer bytes with
  | none => .error .assertion
  | some b =>
    .ok ⟨b, r.input ++ slice r.buffer.data (bufferWritePtr r.buffer).1 bytes.toNat, r.output⟩

/-- The bytes at the read pointer come out. -/
def readAdv (r : BufferRun) (bytes : ℤ) : Except BufferFault BufferRun :=
  match bufferReadAdv r.buffer bytes with
  | none => .error .assertion
  | some b =>
    .ok ⟨b, r.input, r.output ++ slice r.buffer.data (bufferReadPtr r.buffer).1 bytes.toNat⟩

def step (r : BufferRun) : BufferOp → Except BufferFault BufferRun
  | .fill bytes =>
    .ok { r with buffer.data := store r.buffer.data (bufferWritePtr r.buffer).1 bytes }
  | .writeAdv bytes => r.writeAdv bytes
  | .readAdv bytes => r.readAdv bytes
  | .write c =>
    .ok { r with
      buffer := bufferWrite r.buffer c
      input := r.input ++ if bufferCanWrite r.buffer then [c] else [] }
  | .read =>
    let (byte, b) := bufferRead r.buffer
    .ok { r with
      buffer := b
      output := r.output ++ if bufferCanRead r.buffer then [byte] else [] }
  | .compact => .ok { r with buffer := bufferCompact r.buffer }
  | .reset => .ok ⟨bufferReset r.buffer, [], []⟩

/-- The caller stays within the counts it has been given. -/
def Within (r : BufferRun) : BufferOp → Prop
  | .fill bytes => bytes.length ≤ (bufferWritePtr r.buffer).2
  | .writeAdv bytes => bytes ≤ (bufferWritePtr r.buffer).2
  | .readAdv bytes => bytes ≤ (bufferReadPtr r.buffer).2
  | .write _ => True
  | .read => True
  | .compact => True
  | .reset => True

instance (r : BufferRun) : (op : BufferOp) → Decidable (r.Within op)
  | .fill bytes => inferInstanceAs (Decidable (bytes.length ≤ (bufferWritePtr r.buffer).2))
  | .writeAdv bytes => inferInstanceAs (Decidable (bytes ≤ (bufferWritePtr r.buffer).2))
  | .readAdv bytes => inferInstanceAs (Decidable (bytes ≤ (bufferReadPtr r.buffer).2))
  | .write _ | .read | .compact | .reset => .isTrue trivial

/-- What every operation keeps. -/
structure Queues (n : ℕ) (r : BufferRun) : Prop where
  limit : r.buffer.limit = n
  order : r.input = r.output ++ r.buffer.content
  settled : r.buffer.Settled

variable {n : ℕ} {r : BufferRun}

theorem queues_init (n : ℕ) (data : ℕ → UInt8) : (init n data).Queues n where
  limit := rfl
  order := rfl
  settled := bufferInit_settled n data

theorem Queues.fill (h : r.Queues n) (bytes : List UInt8) :
    { r with buffer.data := store r.buffer.data (bufferWritePtr r.buffer).1 bytes }.Queues n := by
  have hrw := r.buffer.read_le_write
  have hcontent : slice (store r.buffer.data r.buffer.write bytes) r.buffer.read
      (r.buffer.write - r.buffer.read) = r.buffer.content :=
    slice_store_of_le r.buffer.data bytes (by omega)
  refine ⟨h.limit, h.order.trans (congrArg (r.output ++ ·) hcontent.symm), ?_⟩
  intro hempty
  exact h.settled (hcontent.symm.trans hempty)

/-- The bytes behind the write pointer are appended to the content. -/
theorem content_advanceWrite {b : Buffer} {k : ℕ} (hk : b.write + k ≤ b.limit) :
    (b.advanceWrite k hk).content = b.content ++ slice b.data b.write k := by
  have hrw := b.read_le_write
  have hlen : b.write + k - b.read = (b.write - b.read) + k := by omega
  have hend : b.read + (b.write - b.read) = b.write := by omega
  change slice b.data b.read (b.write + k - b.read) = _
  rw [hlen, slice_add, hend]
  rfl

theorem Queues.writeAdv (h : r.Queues n) {bytes : ℤ}
    (hbytes : bytes ≤ (bufferWritePtr r.buffer).2) :
    ∃ r', r.writeAdv bytes = .ok r' ∧ r'.Queues n := by
  have hwl := r.buffer.write_le_limit
  by_cases hneg : -1 < bytes
  · change bytes ≤ (r.buffer.limit - r.buffer.write : ℕ) at hbytes
    have hfit : r.buffer.write + bytes.toNat ≤ r.buffer.limit := by omega
    have hadv : bufferWriteAdv r.buffer bytes =
        some (r.buffer.advanceWrite bytes.toNat hfit) := by
      rw [bufferWriteAdv, if_pos hneg, dif_pos hfit]
    refine ⟨⟨r.buffer.advanceWrite bytes.toNat hfit,
      r.input ++ slice r.buffer.data r.buffer.write bytes.toNat, r.output⟩, ?_, h.limit, ?_, ?_⟩
    · rw [BufferRun.writeAdv, hadv]
      rfl
    · rw [content_advanceWrite hfit, h.order, List.append_assoc]
    · intro hempty
      rw [content_advanceWrite hfit, List.append_eq_nil_iff, slice_eq_nil_iff] at hempty
      have hspace := h.settled hempty.1
      change r.buffer.limit - (r.buffer.write + bytes.toNat) = r.buffer.limit
      rw [hempty.2]
      exact hspace
  · have hadv : bufferWriteAdv r.buffer bytes = some r.buffer := if_neg hneg
    refine ⟨⟨r.buffer, r.input ++ [], r.output⟩, ?_, h.limit, ?_, h.settled⟩
    · have hzero : bytes.toNat = 0 := by omega
      rw [BufferRun.writeAdv, hadv, hzero]
      rfl
    · rw [List.append_nil]
      exact h.order

theorem Queues.readAdv (h : r.Queues n) {bytes : ℤ}
    (hbytes : bytes ≤ (bufferReadPtr r.buffer).2) :
    ∃ r', r.readAdv bytes = .ok r' ∧ r'.Queues n := by
  have hrw := r.buffer.read_le_write
  by_cases hneg : -1 < bytes
  · change bytes ≤ (r.buffer.write - r.buffer.read : ℕ) at hbytes
    have hfit : r.buffer.read + bytes.toNat ≤ r.buffer.write := by omega
    have hadv : bufferReadAdv r.buffer bytes =
        some (r.buffer.advanceRead bytes.toNat hfit) := by
      rw [bufferReadAdv, if_pos hneg, dif_pos hfit]
    have hfront : slice r.buffer.data r.buffer.read bytes.toNat =
        r.buffer.content.take bytes.toNat := by
      rw [Buffer.content, take_slice r.buffer.data r.buffer.read (by omega)]
    refine ⟨⟨r.buffer.advanceRead bytes.toNat hfit, r.input,
      r.output ++ slice r.buffer.data r.buffer.read bytes.toNat⟩, ?_, ?_, ?_, ?_⟩
    · rw [BufferRun.readAdv, hadv]
      rfl
    · exact advanceRead_limit.trans h.limit
    · rw [advanceRead_content, hfront, List.append_assoc, List.take_append_drop]
      exact h.order
    · exact advanceRead_settled
  · have hadv : bufferReadAdv r.buffer bytes = some r.buffer := if_neg hneg
    refine ⟨⟨r.buffer, r.input, r.output ++ []⟩, ?_, h.limit, ?_, h.settled⟩
    · have hzero : bytes.toNat = 0 := by omega
      rw [BufferRun.readAdv, hadv, hzero]
      rfl
    · rw [List.append_nil]
      exact h.order

theorem Queues.write (h : r.Queues n) (c : UInt8) :
    ({ r with
      buffer := bufferWrite r.buffer c
      input := r.input ++ if bufferCanWrite r.buffer then [c] else [] } : BufferRun).Queues n := by
  refine ⟨(bufferWrite_limit c).trans h.limit, ?_, bufferWrite_settled h.settled c⟩
  by_cases hspace : 0 < r.buffer.space
  · rw [(bufferWrite_of_space hspace c).1, if_pos (bufferCanWrite_iff.mpr hspace), h.order,
      List.append_assoc]
  · have hfull : r.buffer.space = 0 := by omega
    rw [bufferWrite_of_full hfull, if_neg (fun hcan => hspace (bufferCanWrite_iff.mp hcan)),
      List.append_nil, h.order]

theorem Queues.read (h : r.Queues n) :
    ({ r with
      buffer := (bufferRead r.buffer).2
      output := r.output ++
        if bufferCanRead r.buffer then [(bufferRead r.buffer).1] else [] } : BufferRun).Queues
      n := by
  refine ⟨bufferRead_limit.trans h.limit, ?_, bufferRead_settled h.settled⟩
  rw [bufferRead_content]
  rcases hcontent : r.buffer.content with _ | ⟨byte, rest⟩
  · have hcan : ¬ bufferCanRead r.buffer = true := fun hcan => bufferCanRead_iff.mp hcan hcontent
    rw [if_neg hcan, List.append_nil, h.order, hcontent]
    rfl
  · have hne : r.buffer.content ≠ [] := by
      rw [hcontent]
      exact List.cons_ne_nil _ _
    rw [if_pos (bufferCanRead_iff.mpr hne), bufferRead_fst hcontent, h.order, hcontent]
    simp

theorem Queues.step (h : r.Queues n) {op : BufferOp} (hop : r.Within op) :
    ∃ r', r.step op = .ok r' ∧ r'.Queues n := by
  rcases op with bytes | bytes | bytes | c | - | - | -
  · exact ⟨_, rfl, h.fill bytes⟩
  · exact h.writeAdv hop
  · exact h.readAdv hop
  · exact ⟨_, rfl, h.write c⟩
  · exact ⟨_, rfl, h.read⟩
  · refine ⟨_, rfl, bufferCompact_limit.trans h.limit, ?_, bufferCompact_settled⟩
    rw [bufferCompact_content]
    exact h.order
  · exact ⟨_, rfl, h.limit, rfl, bufferReset_settled⟩

end BufferRun

/-- The buffer after a run, as a queue of capacity `n`. -/
structure BufferRun.Refines (n : ℕ) (r : BufferRun) : Prop where
  read_le_write : r.buffer.read ≤ r.buffer.write
  write_le_limit : r.buffer.write ≤ r.buffer.limit
  limit : r.buffer.limit = n
  order : r.input = r.output ++ r.buffer.content
  compact_content : (bufferCompact r.buffer).content = r.buffer.content
  compact_space : (bufferCompact r.buffer).space = n - r.buffer.content.length
  space_of_empty : r.buffer.content = [] → r.buffer.space = n

/-- No assertion of `buffer.c` fails in a run, and the buffer is a bounded
queue of bytes. -/
theorem buffer_refines_fifo (n : ℕ) (data : ℕ → UInt8) (ops : List BufferOp)
    (hops : Steps BufferRun.step BufferRun.Within (BufferRun.init n data) ops) :
    ∃ r, run BufferRun.step (BufferRun.init n data) ops = .ok r ∧ r.Refines n := by
  obtain ⟨r, hrun, h⟩ := run_no_fault (I := BufferRun.Queues n) (fun _ _ hs hop => hs.step hop)
    (BufferRun.queues_init n data) hops
  refine ⟨r, hrun, r.buffer.read_le_write, r.buffer.write_le_limit, h.limit, h.order,
    bufferCompact_content, ?_, ?_⟩
  · rw [bufferCompact_space, h.limit]
  · intro hempty
    rw [h.settled hempty, h.limit]

/-- The run drawn in `buffer.h`. -/
theorem buffer_refines_fifo_drawn :
    ∃ r, run BufferRun.step (BufferRun.init 6 fun _ => 0)
        [.fill [72, 79, 76, 65], .writeAdv 4, .readAdv 3, .fill [32, 77], .writeAdv 2, .compact,
          .read, .readAdv 2] = .ok r ∧ r.Refines 6 :=
  buffer_refines_fifo 6 (fun _ => 0) [.fill [72, 79, 76, 65], .writeAdv 4, .readAdv 3,
    .fill [32, 77], .writeAdv 2, .compact, .read, .readAdv 2] (by decide)

end Socks5Proxy
