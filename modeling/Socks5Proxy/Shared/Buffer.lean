import Socks5Proxy.Library.Memory

/-!
# The direct-access buffer

`buffer.c` keeps an array and three pointers into it.  Pointers are offsets
from `data` here.  The order of the pointers is part of the type, so the
functions whose assertions enforce that order return `none` exactly where the
assertion aborts the process.

Above the pointer operations the module gives the view every caller works
with: the unread `content`, the `space` left for writing and the `limit`.
Callers never unfold a pointer operation; they use the equations of this view.
-/

namespace Socks5Proxy

open Library.Memory

/-- `struct buffer`, with the invariant of `buffer.h` as fields. -/
structure Buffer where
  data : ℕ → UInt8
  read : ℕ
  write : ℕ
  limit : ℕ
  read_le_write : read ≤ write
  write_le_limit : write ≤ limit

namespace Buffer

/-- The bytes written and not yet read. -/
def content (b : Buffer) : List UInt8 :=
  slice b.data b.read (b.write - b.read)

/-- The bytes that can be written before the limit. -/
def space (b : Buffer) : ℕ := b.limit - b.write

end Buffer

/-! ## The pointer operations -/

def bufferReset (b : Buffer) : Buffer :=
  { b with
    read := 0
    write := 0
    read_le_write := Nat.le_refl 0
    write_le_limit := Nat.zero_le b.limit }

def bufferInit (n : ℕ) (data : ℕ → UInt8) : Buffer where
  data := data
  read := 0
  write := 0
  limit := n
  read_le_write := Nat.le_refl 0
  write_le_limit := Nat.zero_le n

instance : Inhabited Buffer := ⟨bufferInit 0 fun _ => 0⟩

def bufferCanWrite (b : Buffer) : Bool := decide (0 < b.limit - b.write)

def bufferCanRead (b : Buffer) : Bool := decide (0 < b.write - b.read)

/-- The write pointer and the number of bytes that fit behind it. -/
def bufferWritePtr (b : Buffer) : ℕ × ℕ := (b.write, b.limit - b.write)

/-- The read pointer and the number of bytes available behind it. -/
def bufferReadPtr (b : Buffer) : ℕ × ℕ := (b.read, b.write - b.read)

def bufferCompact (b : Buffer) : Buffer :=
  if b.read = 0 then
    b
  else if b.read = b.write then
    bufferReset b
  else
    { b with
      data := move b.data 0 b.read (b.write - b.read)
      read := 0
      write := b.write - b.read
      read_le_write := Nat.zero_le _
      write_le_limit := Nat.le_trans (Nat.sub_le _ _) b.write_le_limit }

/-- `buffer_write_adv` once its assertion has passed. -/
def Buffer.advanceWrite (b : Buffer) (n : ℕ) (h : b.write + n ≤ b.limit) : Buffer :=
  { b with
    write := b.write + n
    read_le_write := Nat.le_trans b.read_le_write (Nat.le_add_right _ _)
    write_le_limit := h }

def Buffer.shiftRead (b : Buffer) (n : ℕ) (h : b.read + n ≤ b.write) : Buffer :=
  { b with
    read := b.read + n
    read_le_write := h }

/-- `buffer_read_adv` once its assertion has passed. -/
def Buffer.advanceRead (b : Buffer) (n : ℕ) (h : b.read + n ≤ b.write) : Buffer :=
  if b.read + n = b.write then bufferCompact (b.shiftRead n h) else b.shiftRead n h

def bufferWriteAdv (b : Buffer) (bytes : ℤ) : Option Buffer :=
  if -1 < bytes then
    if h : b.write + bytes.toNat ≤ b.limit then
      some (b.advanceWrite bytes.toNat h)
    else
      none
  else
    some b

def bufferReadAdv (b : Buffer) (bytes : ℤ) : Option Buffer :=
  if -1 < bytes then
    if h : b.read + bytes.toNat ≤ b.write then
      some (b.advanceRead bytes.toNat h)
    else
      none
  else
    some b

/-- The assertion inside `buffer_read` is guarded by its own test, so the
function is total. -/
def bufferRead (b : Buffer) : UInt8 × Buffer :=
  if h : b.read + 1 ≤ b.write then
    (b.data b.read, b.advanceRead 1 h)
  else
    (0, b)

def bufferWrite (b : Buffer) (c : UInt8) : Buffer :=
  if h : b.write + 1 ≤ b.limit then
    { b with data := store b.data b.write [c] }.advanceWrite 1 h
  else
    b

/-! ## Composite accesses of the callers -/

/-- `ptr = buffer_write_ptr(b, &n); r = recv(fd, ptr, n, 0);
buffer_write_adv(b, r)`, where `none` is a `recv` that returned `-1` and
`some bytes` is what the kernel holds for the descriptor.  The first component
is what `recv` returned. -/
def bufferRecv (b : Buffer) (answer : Option (List UInt8)) :
    Option (List UInt8) × Buffer :=
  match answer with
  | none => (none, b)
  | some bytes =>
    let received := bytes.take b.space
    (some received,
      { b with data := store b.data b.write received }.advanceWrite received.length (by
        have hlen : received.length ≤ b.space := List.length_take_le _ _
        have hspace : b.space = b.limit - b.write := rfl
        have := b.write_le_limit
        simp only [hspace] at hlen
        simp only
        omega))

/-- `ptr = buffer_read_ptr(b, &n); r = send(fd, ptr, n, 0);
buffer_read_adv(b, r)`, where `none` is a `send` that returned `-1` and
`some k` is how many bytes the kernel accepts.  The first component is what
was sent. -/
def bufferSend (b : Buffer) (answer : Option ℕ) : Option (List UInt8) × Buffer :=
  match answer with
  | none => (none, b)
  | some k =>
    let sent := min k (b.write - b.read)
    (some (b.content.take sent), b.advanceRead sent (by
      have := b.read_le_write
      omega))

/-- `n` calls of `buffer_read` in a row, as the copying loops make them. -/
def bufferReadN : ℕ → Buffer → List UInt8 × Buffer
  | 0, b => ([], b)
  | n + 1, b =>
    let (byte, b) := bufferRead b
    let (bytes, b) := bufferReadN n b
    (byte :: bytes, b)

/-- One `buffer_write` for each byte of a list. -/
def bufferWriteAll (b : Buffer) (bytes : List UInt8) : Buffer :=
  bytes.foldl bufferWrite b

/-! ## The content view -/

namespace Buffer

variable (b : Buffer)

theorem length_content : b.content.length = b.write - b.read := by
  simp [content]

theorem length_content_add_space :
    b.read + b.content.length + b.space = b.limit := by
  have hrw := b.read_le_write
  have hwl := b.write_le_limit
  rw [length_content, space]
  omega

theorem content_eq_nil_iff : b.content = [] ↔ b.read = b.write := by
  have hrw := b.read_le_write
  rw [content, slice_eq_nil_iff]
  omega

/-- An empty buffer has been compacted: its whole capacity is writable. -/
def Settled : Prop := b.content = [] → b.space = b.limit

theorem settled_iff : b.Settled ↔ (b.read = b.write → b.read = 0) := by
  have hwl := b.write_le_limit
  rw [Settled, content_eq_nil_iff, space]
  constructor
  · intro h hempty
    have := h hempty
    have hrw := b.read_le_write
    omega
  · intro h hempty
    have := h hempty
    omega

end Buffer

section View

variable {b : Buffer}

open Buffer

@[simp] theorem bufferReset_content : (bufferReset b).content = [] := rfl

@[simp] theorem bufferReset_space : (bufferReset b).space = b.limit := rfl

@[simp] theorem bufferReset_limit : (bufferReset b).limit = b.limit := rfl

theorem bufferReset_settled : (bufferReset b).Settled := fun _ => rfl

@[simp] theorem bufferInit_content (n : ℕ) (data : ℕ → UInt8) :
    (bufferInit n data).content = [] := rfl

@[simp] theorem bufferInit_space (n : ℕ) (data : ℕ → UInt8) :
    (bufferInit n data).space = n := rfl

@[simp] theorem bufferInit_limit (n : ℕ) (data : ℕ → UInt8) :
    (bufferInit n data).limit = n := rfl

theorem bufferInit_settled (n : ℕ) (data : ℕ → UInt8) :
    (bufferInit n data).Settled := fun _ => rfl

theorem bufferCanRead_iff : bufferCanRead b = true ↔ b.content ≠ [] := by
  have hrw := b.read_le_write
  rw [Ne, content_eq_nil_iff, bufferCanRead, decide_eq_true_eq]
  omega

theorem bufferCanWrite_iff : bufferCanWrite b = true ↔ 0 < b.space := by
  rw [bufferCanWrite, decide_eq_true_eq, space]

@[simp] theorem bufferWritePtr_snd : (bufferWritePtr b).2 = b.space := rfl

@[simp] theorem bufferReadPtr_snd : (bufferReadPtr b).2 = b.content.length := by
  rw [length_content]
  rfl

@[simp] theorem bufferCompact_content : (bufferCompact b).content = b.content := by
  unfold bufferCompact
  split
  · rfl
  · split
    · next hempty =>
      rw [bufferReset_content, eq_comm, content_eq_nil_iff]
      exact hempty
    · exact slice_move b.data 0 b.read (b.write - b.read)

@[simp] theorem bufferCompact_limit : (bufferCompact b).limit = b.limit := by
  unfold bufferCompact
  split
  · rfl
  · split <;> rfl

theorem bufferCompact_space :
    (bufferCompact b).space = b.limit - b.content.length := by
  have hlen := b.length_content_add_space
  have hempty := b.content_eq_nil_iff
  unfold bufferCompact
  split
  · next hread => omega
  · split
    · next _ hrw =>
      rw [hempty.mpr hrw, bufferReset_space]
      rfl
    · change b.limit - (b.write - b.read) = _
      rw [length_content]

theorem bufferCompact_settled : (bufferCompact b).Settled := by
  intro hempty
  rw [bufferCompact_content] at hempty
  rw [bufferCompact_space, bufferCompact_limit, hempty]
  rfl

/-! ### Advancing the read pointer -/

section AdvanceRead

variable {n : ℕ} {h : b.read + n ≤ b.write}

@[simp] theorem advanceRead_content :
    (b.advanceRead n h).content = b.content.drop n := by
  have hwindow : (b.shiftRead n h).content = b.content.drop n := by
    rw [content, content, drop_slice b.data b.read (by omega), ← Nat.sub_add_eq]
    rfl
  unfold advanceRead
  split
  · rw [bufferCompact_content]
    exact hwindow
  · exact hwindow

@[simp] theorem advanceRead_limit : (b.advanceRead n h).limit = b.limit := by
  unfold advanceRead
  split
  · rw [bufferCompact_limit, shiftRead]
  · rfl

theorem advanceRead_space_of_ne (hne : b.content.drop n ≠ []) :
    (b.advanceRead n h).space = b.space := by
  have hlen := b.length_content
  unfold advanceRead
  split
  · next hempty =>
    have hdrop : b.content.drop n = [] := List.drop_eq_nil_of_le (by omega)
    exact absurd hdrop hne
  · rfl

theorem advanceRead_space_of_eq (heq : b.content.drop n = []) :
    (b.advanceRead n h).space = b.limit := by
  have hlen := b.length_content
  rw [List.drop_eq_nil_iff] at heq
  unfold advanceRead
  split
  · rw [bufferCompact_space]
    change b.limit - (slice b.data (b.read + n) (b.write - (b.read + n))).length = _
    rw [length_slice]
    omega
  · next hne => exact absurd (by omega) hne

theorem advanceRead_settled : (b.advanceRead n h).Settled := by
  unfold advanceRead
  split
  · exact bufferCompact_settled
  · next hne =>
    rw [settled_iff]
    intro hempty
    exact absurd hempty hne

end AdvanceRead

/-- The assertion of `buffer_read_adv` passes exactly when the caller counted
the available bytes correctly. -/
theorem bufferReadAdv_eq_none_iff {bytes : ℤ} :
    bufferReadAdv b bytes = none ↔ (b.content.length : ℤ) < bytes := by
  have hlen := b.length_content
  have hrw := b.read_le_write
  unfold bufferReadAdv
  by_cases hneg : -1 < bytes
  · rw [if_pos hneg]
    by_cases hfit : b.read + bytes.toNat ≤ b.write
    · rw [dif_pos hfit]
      simp only [reduceCtorEq, false_iff]
      omega
    · rw [dif_neg hfit]
      simp only [true_iff]
      omega
  · rw [if_neg hneg]
    simp only [reduceCtorEq, false_iff]
    omega

theorem bufferReadAdv_nat {n : ℕ} (h : b.read + n ≤ b.write) :
    bufferReadAdv b n = some (b.advanceRead n h) := by
  have hneg : (-1 : ℤ) < n := by omega
  simp only [bufferReadAdv, hneg, if_true]
  exact dif_pos h

/-! ### Single bytes -/

theorem bufferRead_nil (h : b.content = []) : bufferRead b = (0, b) := by
  rw [content_eq_nil_iff] at h
  unfold bufferRead
  rw [dif_neg (by omega)]

theorem bufferRead_fst {x : UInt8} {xs : List UInt8} (h : b.content = x :: xs) :
    (bufferRead b).1 = x := by
  have hlen := b.length_content
  rw [h, List.length_cons] at hlen
  have hsplit : b.write - b.read = (b.write - b.read - 1) + 1 := by omega
  rw [content, hsplit, slice_succ, List.cons.injEq] at h
  unfold bufferRead
  rw [dif_pos (by omega)]
  exact h.1

/-- `buffer_read` returns zero when nothing is left. -/
theorem bufferRead_getD : (bufferRead b).1 = b.content.getD 0 0 := by
  cases hcontent : b.content with
  | nil => rw [bufferRead_nil hcontent, List.getD_nil]
  | cons x xs => rw [bufferRead_fst hcontent, List.getD_cons_zero]

@[simp] theorem bufferRead_content :
    (bufferRead b).2.content = b.content.drop 1 := by
  unfold bufferRead
  split
  · exact advanceRead_content
  · next h =>
    have hempty : b.content = [] := by
      rw [content_eq_nil_iff]
      have := b.read_le_write
      omega
    simp [hempty]

@[simp] theorem bufferRead_limit : (bufferRead b).2.limit = b.limit := by
  unfold bufferRead
  split
  · exact advanceRead_limit
  · rfl

theorem bufferRead_settled (hb : b.Settled) : (bufferRead b).2.Settled := by
  unfold bufferRead
  split
  · exact advanceRead_settled
  · exact hb

/-- `b'` is `b` after reads that have left `rest`. -/
structure Buffer.ReadTo (b : Buffer) (rest : List UInt8) (b' : Buffer) : Prop where
  content : b'.content = rest
  limit : b'.limit = b.limit
  space : b'.space = if rest = [] then b.limit else b.space

theorem Buffer.ReadTo.trans {rest rest' : List UInt8} {b' b'' : Buffer} (h : b.ReadTo rest b')
    (h' : b'.ReadTo rest' b'') (hrest : rest = [] → rest' = []) : b.ReadTo rest' b'' where
  content := h'.content
  limit := h'.limit.trans h.limit
  space := by
    rw [h'.space, h.limit, h.space]
    split_ifs with hnil hleft
    · rfl
    · exact absurd (hrest hleft) hnil
    · rfl

theorem Buffer.ReadTo.space_le {rest : List UInt8} {b' : Buffer} (h : b.ReadTo rest b') :
    b.space ≤ b'.space := by
  have hlimit := b.length_content_add_space
  rw [h.space]
  split_ifs
  · omega
  · exact Nat.le_refl _

theorem readTo_advanceRead {n : ℕ} {h : b.read + n ≤ b.write} :
    b.ReadTo (b.content.drop n) (b.advanceRead n h) where
  content := advanceRead_content
  limit := advanceRead_limit
  space := by
    split_ifs with hnil
    · exact advanceRead_space_of_eq hnil
    · exact advanceRead_space_of_ne hnil

theorem readTo_bufferRead (hne : b.content ≠ []) :
    b.ReadTo (b.content.drop 1) (bufferRead b).2 := by
  have hrw := b.read_le_write
  rw [Ne, content_eq_nil_iff] at hne
  unfold bufferRead
  rw [dif_pos (show b.read + 1 ≤ b.write by omega)]
  exact readTo_advanceRead

theorem space_le_bufferRead : b.space ≤ (bufferRead b).2.space := by
  by_cases hne : b.content = []
  · have hsame : (bufferRead b).2 = b := congrArg Prod.snd (bufferRead_nil hne)
    exact Nat.le_of_eq (congrArg Buffer.space hsame).symm
  · exact (readTo_bufferRead hne).space_le

theorem space_le_bufferReadN (n : ℕ) (b : Buffer) : b.space ≤ (bufferReadN n b).2.space := by
  induction n generalizing b with
  | zero => exact Nat.le_refl _
  | succ n ih => exact Nat.le_trans space_le_bufferRead (ih (bufferRead b).2)

/-- `buffer_read` makes the call of `buffer_read_adv` that the source makes,
and that call's assertion passes. -/
theorem bufferRead_eq_readAdv (h : b.content ≠ []) :
    bufferReadAdv b 1 = some (bufferRead b).2 := by
  have hrw := b.read_le_write
  rw [Ne, content_eq_nil_iff] at h
  have hfit : b.read + 1 ≤ b.write := by omega
  have hadv : bufferReadAdv b 1 = some (b.advanceRead 1 hfit) := bufferReadAdv_nat hfit
  rw [hadv]
  unfold bufferRead
  rw [dif_pos hfit]

theorem bufferWrite_of_space (h : 0 < b.space) (c : UInt8) :
    (bufferWrite b c).content = b.content ++ [c] ∧
      (bufferWrite b c).space = b.space - 1 := by
  have hrw := b.read_le_write
  rw [space] at h
  unfold bufferWrite
  rw [dif_pos (by omega)]
  constructor
  · change slice (store b.data b.write [c]) b.read (b.write + 1 - b.read) = _
    have hend : b.write = b.read + (b.write - b.read) := by omega
    have hlen : b.write + 1 - b.read = (b.write - b.read) + [c].length := by
      simp only [List.length_singleton]
      omega
    rw [hlen]
    conv_lhs => rw [show store b.data b.write [c] =
      store b.data (b.read + (b.write - b.read)) [c] by rw [← hend]]
    exact slice_store_append b.data b.read (b.write - b.read) [c]
  · change b.limit - (b.write + 1) = b.limit - b.write - 1
    omega

theorem bufferWrite_of_full (h : b.space = 0) (c : UInt8) : bufferWrite b c = b := by
  have hwl := b.write_le_limit
  rw [space] at h
  unfold bufferWrite
  rw [dif_neg (by omega)]

@[simp] theorem bufferWrite_limit (c : UInt8) : (bufferWrite b c).limit = b.limit := by
  unfold bufferWrite
  split <;> rfl

/-! ### Runs of bytes -/

theorem bufferReadN_snd_content (n : ℕ) (b : Buffer) :
    (bufferReadN n b).2.content = b.content.drop n := by
  induction n generalizing b with
  | zero => rfl
  | succ n ih =>
      simp only [bufferReadN]
      rw [ih, bufferRead_content, List.drop_drop, Nat.add_comm]

/-- The loops read the available bytes in order and zeros after them. -/
theorem bufferReadN_fst (n : ℕ) (b : Buffer) :
    (bufferReadN n b).1 =
      b.content.take n ++ List.replicate (n - b.content.length) 0 := by
  induction n generalizing b with
  | zero => simp [bufferReadN]
  | succ n ih =>
      simp only [bufferReadN]
      rw [ih, bufferRead_content]
      cases hcontent : b.content with
      | nil =>
          rw [bufferRead_nil hcontent]
          simp [List.replicate_succ]
      | cons x xs =>
          rw [bufferRead_fst hcontent]
          simp

theorem bufferReadN_fst_of_le {n : ℕ} (h : n ≤ b.content.length) :
    (bufferReadN n b).1 = b.content.take n := by
  rw [bufferReadN_fst, Nat.sub_eq_zero_of_le h]
  simp

@[simp] theorem length_bufferReadN_fst (n : ℕ) (b : Buffer) :
    (bufferReadN n b).1.length = n := by
  rw [bufferReadN_fst, List.length_append, List.length_take, List.length_replicate]
  omega

@[simp] theorem bufferReadN_limit (n : ℕ) (b : Buffer) :
    (bufferReadN n b).2.limit = b.limit := by
  induction n generalizing b with
  | zero => rfl
  | succ n ih =>
      simp only [bufferReadN]
      rw [ih, bufferRead_limit]

theorem bufferReadN_settled (n : ℕ) {b : Buffer} (hb : b.Settled) :
    (bufferReadN n b).2.Settled := by
  induction n generalizing b with
  | zero => exact hb
  | succ n ih => exact ih (bufferRead_settled hb)

/-- What does not fit is dropped. -/
theorem bufferWriteAll_view (b : Buffer) (bytes : List UInt8) :
    (bufferWriteAll b bytes).content = b.content ++ bytes.take b.space ∧
      (bufferWriteAll b bytes).space = b.space - bytes.length := by
  induction bytes generalizing b with
  | nil => simp [bufferWriteAll]
  | cons c bytes ih =>
      have hrest := ih (bufferWrite b c)
      simp only [bufferWriteAll, List.foldl_cons] at hrest ⊢
      rw [hrest.1, hrest.2]
      rcases Nat.eq_zero_or_pos b.space with hfull | hspace
      · rw [bufferWrite_of_full hfull, hfull]
        simp
      · obtain ⟨hcontent, hless⟩ := bufferWrite_of_space hspace c
        rw [hcontent, hless]
        constructor
        · rw [List.append_assoc, List.singleton_append, List.take_cons hspace]
        · simp only [List.length_cons]
          omega

theorem bufferWriteAll_of_le {b : Buffer} {bytes : List UInt8}
    (h : bytes.length ≤ b.space) :
    (bufferWriteAll b bytes).content = b.content ++ bytes ∧
      (bufferWriteAll b bytes).space = b.space - bytes.length := by
  obtain ⟨hcontent, hspace⟩ := bufferWriteAll_view b bytes
  rw [List.take_of_length_le h] at hcontent
  exact ⟨hcontent, hspace⟩

theorem bufferWriteAll_append (b : Buffer) (bytes bytes' : List UInt8) :
    bufferWriteAll (bufferWriteAll b bytes) bytes' = bufferWriteAll b (bytes ++ bytes') :=
  List.foldl_append.symm

@[simp] theorem bufferWriteAll_limit (b : Buffer) (bytes : List UInt8) :
    (bufferWriteAll b bytes).limit = b.limit := by
  induction bytes generalizing b with
  | nil => rfl
  | cons c bytes ih =>
      simp only [bufferWriteAll, List.foldl_cons] at ih ⊢
      rw [ih, bufferWrite_limit]

/-! ### Receiving and sending -/

@[simp] theorem bufferRecv_none : bufferRecv b none = (none, b) := rfl

@[simp] theorem bufferRecv_some_fst (bytes : List UInt8) :
    (bufferRecv b (some bytes)).1 = some (bytes.take b.space) := rfl

@[simp] theorem bufferRecv_some_content (bytes : List UInt8) :
    (bufferRecv b (some bytes)).2.content = b.content ++ bytes.take b.space := by
  have hrw := b.read_le_write
  change slice (store b.data b.write (bytes.take b.space)) b.read
    (b.write + (bytes.take b.space).length - b.read) = _
  have hend : b.write = b.read + (b.write - b.read) := by omega
  have hlen : b.write + (bytes.take b.space).length - b.read =
      (b.write - b.read) + (bytes.take b.space).length := by omega
  rw [hlen]
  conv_lhs => rw [show store b.data b.write (bytes.take b.space) =
    store b.data (b.read + (b.write - b.read)) (bytes.take b.space) by rw [← hend]]
  exact slice_store_append b.data b.read (b.write - b.read) _

@[simp] theorem bufferRecv_some_space (bytes : List UInt8) :
    (bufferRecv b (some bytes)).2.space = b.space - bytes.length := by
  change b.limit - (b.write + (bytes.take b.space).length) = b.limit - b.write - bytes.length
  rw [List.length_take, space]
  omega

@[simp] theorem bufferRecv_limit (answer : Option (List UInt8)) :
    (bufferRecv b answer).2.limit = b.limit := by
  cases answer <;> rfl

theorem bufferRecv_settled (hb : b.Settled) (answer : Option (List UInt8)) :
    (bufferRecv b answer).2.Settled := by
  cases answer with
  | none => exact hb
  | some bytes =>
      intro hempty
      rw [bufferRecv_some_content, List.append_eq_nil_iff] at hempty
      have hspace := hb hempty.1
      rw [bufferRecv_some_space, bufferRecv_limit]
      rw [List.take_eq_nil_iff] at hempty
      rcases hempty.2 with hzero | hnil
      · omega
      · simp [hnil, hspace]

/-- A `recv` that succeeded put what it returned behind the content. -/
theorem bufferRecv_eq_some {answer : Option (List UInt8)} {bytes : List UInt8} {b' : Buffer}
    (h : bufferRecv b answer = (some bytes, b')) :
    b'.content = b.content ++ bytes ∧ b'.space = b.space - bytes.length := by
  cases answer with
  | none => simp at h
  | some offered =>
      have hfst := congrArg Prod.fst h
      have hsnd : (bufferRecv b (some offered)).2 = b' := congrArg Prod.snd h
      rw [bufferRecv_some_fst, Option.some.injEq] at hfst
      rw [← hsnd, bufferRecv_some_content, bufferRecv_some_space, ← hfst]
      refine ⟨rfl, ?_⟩
      rw [List.length_take]
      omega

/-- The assertion of the `buffer_write_adv` inside `bufferRecv` passes. -/
theorem bufferRecv_eq_writeAdv (bytes : List UInt8) :
    bufferWriteAdv { b with data := store b.data b.write (bytes.take b.space) }
        (bytes.take b.space).length =
      some (bufferRecv b (some bytes)).2 := by
  have hneg : (-1 : ℤ) < (bytes.take b.space).length := by omega
  have hlen : (bytes.take b.space).length ≤ b.limit - b.write := List.length_take_le _ _
  have hwl := b.write_le_limit
  simp only [bufferWriteAdv, hneg, if_true, Int.toNat_natCast]
  exact dif_pos (by omega)

@[simp] theorem bufferSend_none : bufferSend b none = (none, b) := rfl

theorem bufferSend_some_fst (k : ℕ) :
    (bufferSend b (some k)).1 = some (b.content.take k) := by
  change some (b.content.take (min k (b.write - b.read))) = _
  rw [← b.length_content, ← List.take_eq_take_min]

theorem readTo_bufferSend (k : ℕ) : b.ReadTo (b.content.drop k) (bufferSend b (some k)).2 := by
  have hdrop : b.content.drop (min k (b.write - b.read)) = b.content.drop k := by
    rw [← b.length_content]
    rcases Nat.le_total k b.content.length with hle | hge
    · rw [Nat.min_eq_left hle]
    · rw [Nat.min_eq_right hge, List.drop_length, List.drop_eq_nil_of_le hge]
  rw [← hdrop]
  exact readTo_advanceRead

@[simp] theorem bufferSend_some_content (k : ℕ) :
    (bufferSend b (some k)).2.content = b.content.drop k := (readTo_bufferSend k).content

@[simp] theorem bufferSend_limit (answer : Option ℕ) :
    (bufferSend b answer).2.limit = b.limit := by
  cases answer with
  | none => rfl
  | some k => exact advanceRead_limit

theorem bufferSend_settled (hb : b.Settled) (answer : Option ℕ) :
    (bufferSend b answer).2.Settled := by
  cases answer with
  | none => exact hb
  | some k => exact advanceRead_settled

/-- A `send` that succeeded took what it returned from the front. -/
theorem bufferSend_eq_some {answer : Option ℕ} {bytes : List UInt8} {b' : Buffer}
    (h : bufferSend b answer = (some bytes, b')) : b.content = bytes ++ b'.content := by
  cases answer with
  | none => simp at h
  | some k =>
      have hfst := congrArg Prod.fst h
      have hsnd : (bufferSend b (some k)).2 = b' := congrArg Prod.snd h
      rw [bufferSend_some_fst, Option.some.injEq] at hfst
      rw [← hsnd, bufferSend_some_content, ← hfst, List.take_append_drop]

/-- The assertion of the `buffer_read_adv` inside `bufferSend` passes. -/
theorem bufferSend_eq_readAdv (k : ℕ) :
    bufferReadAdv b (min k b.content.length : ℕ) =
      some (bufferSend b (some k)).2 := by
  have hrw := b.read_le_write
  have hlen := b.length_content
  have hfit : b.read + min k (b.write - b.read) ≤ b.write := by omega
  rw [hlen, bufferReadAdv_nat hfit]
  rfl

/-! ### What every operation keeps -/

/-- `b'` has the limit of `b`, and is compacted when empty if `b` was. -/
def Buffer.Keeps (b b' : Buffer) : Prop := b'.limit = b.limit ∧ (b.Settled → b'.Settled)

theorem Buffer.Keeps.refl : b.Keeps b := ⟨rfl, id⟩

theorem Buffer.Keeps.trans {b' b'' : Buffer} (h : b.Keeps b') (h' : b'.Keeps b'') : b.Keeps b'' :=
  ⟨h'.1.trans h.1, fun hb => h'.2 (h.2 hb)⟩

theorem keeps_bufferRead : b.Keeps (bufferRead b).2 :=
  ⟨bufferRead_limit, bufferRead_settled⟩

theorem keeps_bufferReadN (n : ℕ) : b.Keeps (bufferReadN n b).2 :=
  ⟨bufferReadN_limit n b, bufferReadN_settled n⟩

theorem keeps_bufferRecv (answer : Option (List UInt8)) : b.Keeps (bufferRecv b answer).2 :=
  ⟨bufferRecv_limit answer, fun hb => bufferRecv_settled hb answer⟩

theorem keeps_bufferSend (answer : Option ℕ) : b.Keeps (bufferSend b answer).2 :=
  ⟨bufferSend_limit answer, fun hb => bufferSend_settled hb answer⟩

theorem bufferWrite_settled (hb : b.Settled) (c : UInt8) : (bufferWrite b c).Settled := by
  rcases Nat.eq_zero_or_pos b.space with hfull | hspace
  · rw [bufferWrite_of_full hfull]
    exact hb
  · intro hempty
    rw [(bufferWrite_of_space hspace c).1] at hempty
    simp at hempty

theorem keeps_bufferWriteAll (bytes : List UInt8) : b.Keeps (bufferWriteAll b bytes) := by
  refine ⟨bufferWriteAll_limit b bytes, ?_⟩
  intro hb
  exact List.foldlRecOn bytes bufferWrite hb fun _ hc c _ => bufferWrite_settled hc c

end View

end Socks5Proxy
