import Socks5Proxy.Pam.ResponseMemory

/-!
# Reading the metrics back

The body of a metrics response is a text with the four counters in lines of
their own.  The counters have 64 bits; the format string prints each with a
conversion for an `int`.
-/

namespace Socks5Proxy

open Library.Memory

/-! ## Reading numbers -/

/-- The number a text begins with, behind blanks and a sign. -/
def readNumber (text : List UInt8) : ℤ :=
  let (negative, rest) := splitSign (text.dropWhile isSpace)
  let value : ℤ := atoi (rest.takeWhile isDigit)
  if negative then -value else value

/-- What follows the colon of a line. -/
def afterColon (line : List UInt8) : Option (List UInt8) :=
  match line.dropWhile (· != 58) with
  | [] => none
  | _ :: rest => some rest

/-- The numbers in the lines that have a colon, in order. -/
def metricsNumbers (body : List UInt8) : List ℤ :=
  (body.splitOnP (· == 10)).filterMap fun line => (afterColon line).map readNumber

theorem isDigit_of_mem_decimalDigits {fuel n : ℕ} {d : UInt8} (h : d ∈ decimalDigits fuel n) :
    isDigit d := by
  have hdigit : ∀ k < 10, isDigit (UInt8.ofNat (48 + k)) := by decide
  induction fuel generalizing n with
  | zero => cases h
  | succ fuel ih =>
      unfold decimalDigits at h
      split_ifs at h with hn
      · rw [List.mem_singleton.mp h]
        exact hdigit n hn
      · rcases List.mem_cons.mp h with rfl | h
        · exact hdigit (n % 10) (Nat.mod_lt n (by decide))
        · exact ih h

theorem isDigit_of_mem_decimal {n : ℕ} {d : UInt8} (h : d ∈ decimal n) : isDigit d :=
  isDigit_of_mem_decimalDigits (List.mem_reverse.mp h)

theorem decimal_ne_nil (n : ℕ) : decimal n ≠ [] := by
  intro hnil
  rw [decimal, List.reverse_eq_nil_iff, decimalDigits] at hnil
  split_ifs at hnil

theorem takeWhile_decimal (n : ℕ) : (decimal n).takeWhile isDigit = decimal n :=
  List.takeWhile_eq_self_iff.mpr fun _ => isDigit_of_mem_decimal

/-- A numeral of `k` digits is less than `10 ^ k`. -/
theorem length_decimalDigits_le {fuel n k : ℕ} (hk : 0 < k) (h : n < 10 ^ k) :
    (decimalDigits fuel n).length ≤ k := by
  induction fuel generalizing n k with
  | zero => exact Nat.zero_le k
  | succ fuel ih =>
      unfold decimalDigits
      split_ifs with hn
      · exact hk
      · obtain ⟨k, rfl⟩ : ∃ m, k = m + 1 := ⟨k - 1, by omega⟩
        have hk' : 0 < k := by
          rcases Nat.eq_zero_or_pos k with rfl | hpos
          · rw [Nat.zero_add, Nat.pow_one] at h
            exact absurd h hn
          · exact hpos
        rw [Nat.pow_succ] at h
        exact Nat.succ_le_succ (ih hk' (by omega))

/-! ## One counter -/

section Counter

variable {counter : UInt64}

theorem toNat_low (counter : UInt64) : counter.toUInt32.toNat = counter.toNat % 2 ^ 32 :=
  UInt64.toNat_toUInt32 counter

theorem readNumber_decimal (n : ℕ) : readNumber (32 :: decimal n) = n := by
  obtain ⟨d, rest, hdecimal⟩ := List.exists_cons_of_ne_nil (decimal_ne_nil n)
  have hd : isDigit d := isDigit_of_mem_decimal (hdecimal ▸ List.mem_cons_self)
  have hall := takeWhile_decimal n
  have hvalue := atoi_decimal n
  rw [readNumber, List.dropWhile_cons_of_pos (by decide)]
  rw [hdecimal] at hall hvalue ⊢
  rw [List.dropWhile_cons_of_neg (by simp [not_isSpace_of_isDigit hd]), splitSign_of_isDigit hd]
  simp only [hall, hvalue, Bool.false_eq_true, if_false]

theorem readNumber_minus_decimal (n : ℕ) : readNumber (32 :: 45 :: decimal n) = -n := by
  have hsign : splitSign (45 :: decimal n) = (true, decimal n) := rfl
  rw [readNumber, List.dropWhile_cons_of_pos (by decide),
    List.dropWhile_cons_of_neg (by decide), hsign]
  simp only [takeWhile_decimal, atoi_decimal, if_true]

/-- A counter reads back as itself exactly if it fits an `int`. -/
theorem readNumber_formatCounter_iff :
    readNumber (32 :: formatCounter counter) = counter.toNat ↔ counter.toNat < 2 ^ 31 := by
  have hlow := toNat_low counter
  unfold formatCounter
  dsimp only
  split_ifs with hsmall
  · rw [readNumber_decimal]
    omega
  · rw [readNumber_minus_decimal]
    omega

theorem length_formatCounter_le (counter : UInt64) : (formatCounter counter).length ≤ 11 := by
  have hlow := counter.toUInt32.toNat_lt
  unfold formatCounter
  dsimp only
  split_ifs with hsmall
  · rw [decimal, List.length_reverse]
    exact Nat.le_succ_of_le (length_decimalDigits_le (by decide) (by omega))
  · rw [List.length_cons, decimal, List.length_reverse]
    exact Nat.succ_le_succ (length_decimalDigits_le (by decide) (by omega))

theorem newline_not_mem_formatCounter : (10 : UInt8) ∉ formatCounter counter := by
  have hdecimal : ∀ n, (10 : UInt8) ∉ decimal n := by
    intro n hmem
    exact absurd (isDigit_of_mem_decimal hmem) (by decide)
  unfold formatCounter
  dsimp only
  split_ifs
  · exact hdecimal _
  · rw [List.mem_cons, not_or]
    exact ⟨by decide, hdecimal _⟩

end Counter

/-! ## The text -/

section Text

/-- A line of the text: a label up to its colon, and a counter. -/
def metricsLine (label : List UInt8) (counter : UInt64) : List UInt8 :=
  label ++ 58 :: 32 :: formatCounter counter

theorem metricsNumbers_cons {line : List UInt8} (hline : (10 : UInt8) ∉ line)
    (rest : List UInt8) : metricsNumbers (line ++ 10 :: rest) =
      ((afterColon line).map readNumber).toList ++ metricsNumbers rest := by
  have hsplit : ∀ x ∈ line, (x == 10) = false := by
    intro x hx
    rw [beq_eq_false_iff_ne]
    rintro rfl
    exact hline hx
  rw [metricsNumbers, List.splitOnP_append_cons_of_forall_mem hsplit 10 rfl, List.filterMap_cons]
  rcases (afterColon line).map readNumber with _ | number
  · rfl
  · rfl

theorem afterColon_metricsLine {label : List UInt8} (hlabel : (58 : UInt8) ∉ label)
    (counter : UInt64) :
    afterColon (metricsLine label counter) = some (32 :: formatCounter counter) := by
  have hskip : ∀ x ∈ label, (x != 58) = true := by
    intro x hx
    rw [bne_iff_ne]
    rintro rfl
    exact hlabel hx
  rw [afterColon, metricsLine, List.dropWhile_append_of_pos hskip]
  rfl

theorem newline_not_mem_metricsLine {label : List UInt8} (hlabel : (10 : UInt8) ∉ label)
    (counter : UInt64) : (10 : UInt8) ∉ metricsLine label counter := by
  rw [metricsLine, List.mem_append, List.mem_cons, List.mem_cons, not_or, not_or, not_or]
  exact ⟨hlabel, by decide, by decide, newline_not_mem_formatCounter⟩

theorem metricsNumbers_line {label : List UInt8} (hcolon : (58 : UInt8) ∉ label)
    (hnewline : (10 : UInt8) ∉ label) (counter : UInt64) (rest : List UInt8) :
    metricsNumbers (metricsLine label counter ++ 10 :: rest) =
      readNumber (32 :: formatCounter counter) :: metricsNumbers rest := by
  rw [metricsNumbers_cons (newline_not_mem_metricsLine hnewline counter),
    afterColon_metricsLine hcolon]
  rfl

/-- The numbers in the text are the counters as they are printed. -/
theorem metricsNumbers_text (m : MetricSnapshot) :
    metricsNumbers (metricsMessage ++ metricsInfo m) =
      [readNumber (32 :: formatCounter m.currentConnections),
        readNumber (32 :: formatCounter m.totalConnections),
        readNumber (32 :: formatCounter m.totalBytesSent),
        readNumber (32 :: formatCounter m.totalBytesReceived)] := by
  have htext : metricsMessage ++ metricsInfo m =
      metricsMessage.dropLast ++ 10 ::
        (metricsLine [67, 117, 114, 114, 101, 110, 116, 32, 67, 111, 110, 110, 101, 99, 116, 105,
          111, 110, 115] m.currentConnections ++ 10 ::
        (metricsLine [84, 111, 116, 97, 108, 32, 67, 111, 110, 110, 101, 99, 116, 105, 111, 110,
          115] m.totalConnections ++ 10 ::
        (metricsLine [84, 111, 116, 97, 108, 32, 66, 121, 116, 101, 115, 32, 83, 101, 110, 116]
          m.totalBytesSent ++ 10 ::
        (metricsLine [84, 111, 116, 97, 108, 32, 66, 121, 116, 101, 115, 32, 82, 101, 99, 101,
          105, 118, 101, 100] m.totalBytesReceived ++ 10 :: [])))) := by
    simp only [metricsMessage, metricsInfo, metricsLine, List.append_assoc, List.cons_append,
      List.nil_append, List.dropLast]
  rw [htext, metricsNumbers_cons (by decide), metricsNumbers_line (by decide) (by decide),
    metricsNumbers_line (by decide) (by decide), metricsNumbers_line (by decide) (by decide),
    metricsNumbers_line (by decide) (by decide)]
  rfl

theorem length_metricsInfo_le (m : MetricSnapshot) : (metricsInfo m).length ≤ 128 := by
  have hcurrent := length_formatCounter_le m.currentConnections
  have htotal := length_formatCounter_le m.totalConnections
  have hsent := length_formatCounter_le m.totalBytesSent
  have hreceived := length_formatCounter_le m.totalBytesReceived
  simp only [metricsInfo, List.length_append, List.length_cons, List.length_nil]
  omega

end Text

/-! ## The response -/

section Response

variable (env : PamEnv) (s : PamSession)

/-- The BODY of the response in the record. -/
def PamSession.writtenBody (s : PamSession) : List UInt8 :=
  slice s.conn.request.writeBody 0 s.conn.request.writeNbody.toNat

/-- The body is the whole text, and its numbers are the counters. -/
structure MetricsRoundTrip (env : PamEnv) (s : PamSession) : Prop where
  length : (handleGetMetrics env s).conn.request.writeNbody.toNat =
    (metricsMessage ++ metricsInfo s.metrics).length
  numbers : metricsNumbers (handleGetMetrics env s).writtenBody =
    [(s.metrics.currentConnections.toNat : ℤ), s.metrics.totalConnections.toNat,
      s.metrics.totalBytesSent.toNat, s.metrics.totalBytesReceived.toNat]

/-- All four counters fit an `int`. -/
def FitInt (m : MetricSnapshot) : Prop :=
  m.currentConnections.toNat < 2 ^ 31 ∧ m.totalConnections.toNat < 2 ^ 31 ∧
    m.totalBytesSent.toNat < 2 ^ 31 ∧ m.totalBytesReceived.toNat < 2 ^ 31

/-- What `snprintf` has written, without the terminator. -/
theorem handleGetMetrics_body (hsnprintf : env.snprintf = true) :
    (handleGetMetrics env s).conn.request.writeNbody.toNat =
        (metricsMessage ++ metricsInfo s.metrics).length ∧
      (handleGetMetrics env s).writtenBody = metricsMessage ++ metricsInfo s.metrics := by
  have hbound := length_metricsInfo_le s.metrics
  have hmessage : metricsMessage.length = 21 := rfl
  generalize htext : metricsMessage ++ metricsInfo s.metrics = text
  have hlen : text.length = metricsMessage.length + (metricsInfo s.metrics).length := by
    rw [← htext, List.length_append]
  have hnbody : (UInt16.ofNat (metricsMessage.length + (metricsInfo s.metrics).length)).toNat =
      text.length := by
    rw [hlen]
    exact UInt16.toNat_ofNat_of_lt' (show _ < 65536 by omega)
  rw [PamSession.writtenBody, handleGetMetrics_formatted hsnprintf]
  refine ⟨hnbody, ?_⟩
  change slice (store s.conn.request.writeBody 0
    (metricsMessage ++ (metricsInfo s.metrics ++ [0]))) 0 _ = text
  rw [hnbody, ← List.append_assoc, htext, ← store_append, Nat.zero_add,
    slice_store_of_le _ _ (Nat.le_of_eq (Nat.zero_add _)), slice_store_same]

/-- The counters can be read back from the response exactly if `snprintf`
succeeds and each of them fits the conversion. -/
theorem metrics_roundTrip_iff :
    MetricsRoundTrip env s ↔ env.snprintf = true ∧ FitInt s.metrics := by
  rcases hsnprintf : env.snprintf with _ | _
  · -- the response has no body
    refine iff_of_false ?_ fun hboth => Bool.false_ne_true hboth.1
    intro h
    have hlength := h.length
    rw [handleGetMetrics_failed hsnprintf, List.length_append] at hlength
    have hmessage : metricsMessage.length = 21 := rfl
    change 0 = _ at hlength
    omega
  · obtain ⟨hlength, hbody⟩ := handleGetMetrics_body env s hsnprintf
    have hnumbers : MetricsRoundTrip env s ↔ metricsNumbers (handleGetMetrics env s).writtenBody =
        [(s.metrics.currentConnections.toNat : ℤ), s.metrics.totalConnections.toNat,
          s.metrics.totalBytesSent.toNat, s.metrics.totalBytesReceived.toNat] :=
      ⟨fun h => h.numbers, fun h => ⟨hlength, h⟩⟩
    rw [hnumbers, hbody, metricsNumbers_text, FitInt]
    simp only [List.cons.injEq, and_true, readNumber_formatCounter_iff, true_and]

end Response

/-- After 2 GiB sent, the text says -2147483648. -/
theorem metrics_wrapped :
    ¬ MetricsRoundTrip { (default : PamEnv) with snprintf := true }
        { (default : PamSession) with
          metrics := { metricsInit with totalBytesSent := 2147483648 } } := by
  intro h
  have hnumbers := h.numbers
  rw [(handleGetMetrics_body _ _ rfl).2, metricsNumbers_text] at hnumbers
  injection hnumbers with _ hnumbers
  injection hnumbers with _ hnumbers
  injection hnumbers with hsent _
  exact absurd (readNumber_formatCounter_iff.mp hsent) (by decide)

end Socks5Proxy
