import Socks5Proxy.Client.Commands
import Socks5Proxy.Library.Stream
import Socks5Proxy.Pam.Request

/-!
# The response of the server

`receive_response` of `client_utils.c` makes one `recv` for the header and one
for the body.  A response is decoded for certain only if each of the two finds
all it asks for; the cells of the header that `recv` has not reached keep what
the stack held.
-/

namespace Socks5Proxy.Client

open Library Library.Stream Library.Memory

/-- `ServerResponse`; the body is `none` when the pointer is null. -/
structure ServerResponse where
  ver : UInt8
  status : UInt8
  nbody : UInt16
  body : Option (List UInt8)
  deriving DecidableEq

/-- `receive_response`, with the results of its two `malloc`s and what the
array `header` holds before `recv`.  A `recv` that finds nothing fails the test
that a `recv` of `-1` fails. -/
def receiveResponse (alloc allocBody : Bool) (stack : ℕ → UInt8)
    (segments : List (List UInt8)) : Option ServerResponse :=
  if alloc = false then
    none
  else
    let (received, segments) := receive 4 segments
    if received.length < 2 then
      none
    else
      let header := store stack 0 received
      let ver := header 0
      let status := header 1
      if status ≠ 0x00 then
        some { ver := ver, status := status, nbody := 0, body := none }
      else
        let nbody := UInt16.ofNat ((header 2).toNat * 256 + (header 3).toNat)
        if 0 < nbody.toNat then
          if allocBody = false then
            none
          else
            let (received, _) := receive nbody.toNat segments
            if received.length < nbody.toNat then
              none
            else
              some { ver := ver, status := status, nbody := nbody, body := some received }
        else
          some { ver := ver, status := status, nbody := nbody, body := none }

/-- `VER STATUS NBODY`. -/
def responseHeader (ver status : UInt8) (body : List UInt8) : List UInt8 :=
  ver :: status :: networkOrder (UInt16.ofNat body.length)

/-- `VER STATUS NBODY BODY`. -/
def responseFrame (ver status : UInt8) (body : List UInt8) : List UInt8 :=
  responseHeader ver status body ++ body

/-- The server answers with such a frame. -/
theorem pamResponse_eq_responseFrame (request : PamRequestSt) :
    pamResponse request = responseFrame pamVersion1 request.status
      (slice request.writeBody 0 request.writeNbody.toNat) := by
  have hcount : UInt16.ofNat (slice request.writeBody 0 request.writeNbody.toNat).length =
      request.writeNbody := by
    rw [length_slice, UInt16.ofNat_toNat]
  rw [responseFrame, responseHeader, hcount]
  rfl

/-- The response is decoded, whatever the stack held. -/
def Decodes (segments : List (List UInt8)) (ver status : UInt8) (body : List UInt8) : Prop :=
  ∀ stack, ∃ response, receiveResponse true true stack segments = some response ∧
    response.ver = ver ∧ response.status = status ∧
    (status = 0x00 → response.nbody.toNat = body.length ∧ response.body.getD [] = body)

/-- The first `recv` finds all that is looked at of the header, and the second
all of the body. -/
def InTwoReads (segments : List (List UInt8)) (ver status : UInt8) (body : List UInt8) : Prop :=
  if status = 0x00 then
    segments = [responseFrame ver status body] ∨
      segments = [responseHeader ver status body, body]
  else
    ∃ first rest, segments = first :: rest ∧ 2 ≤ first.length

/-! ## The result of the first `recv` -/

section FirstRead

variable {ver status : UInt8} {body received : List UInt8} {segments left : List (List UInt8)}

theorem length_responseHeader : (responseHeader ver status body).length = 4 := rfl

theorem receiveResponse_of_short (hfirst : receive 4 segments = (received, left))
    (hshort : received.length < 2) (stack : ℕ → UInt8) :
    receiveResponse true true stack segments = none := by
  simp only [receiveResponse, hfirst, hshort, Bool.true_eq_false, if_true, if_false]

/-- What the header bytes say, where both of the first two have arrived. -/
theorem receiveResponse_of_status {rest : List UInt8}
    (hfirst : receive 4 segments = (ver :: status :: rest, left)) (hstatus : status ≠ 0x00)
    (stack : ℕ → UInt8) :
    receiveResponse true true stack segments =
      some { ver := ver, status := status, nbody := 0, body := none } := by
  have hlong : ¬ (ver :: status :: rest).length < 2 := by simp
  have hver : store stack 0 (ver :: status :: rest) 0 = ver := rfl
  have hfound : store stack 0 (ver :: status :: rest) 1 = status := rfl
  simp only [receiveResponse, hfirst, hlong, hver, hfound, hstatus, Bool.true_eq_false, if_false,
    ne_eq, not_false_iff, if_true]

/-- Where all of the header has arrived, the second `recv` decides. -/
theorem receiveResponse_of_header (hbody : body.length ≤ 65535)
    (hfirst : receive 4 segments = (responseHeader ver 0x00 body, left)) (stack : ℕ → UInt8) :
    receiveResponse true true stack segments =
      if body = [] then some { ver := ver, status := 0x00, nbody := 0, body := none }
      else if (receive body.length left).1.length < body.length then none
      else some
        { ver := ver
          status := 0x00
          nbody := UInt16.ofNat body.length
          body := some (receive body.length left).1 } := by
  have hlong : ¬ (responseHeader ver 0x00 body).length < 2 := by rw [length_responseHeader]; omega
  have hcount : (UInt16.ofNat body.length).toNat = body.length :=
    UInt16.toNat_ofNat_of_lt' (by rw [UInt16.size]; omega)
  have hver : store stack 0 (responseHeader ver 0x00 body) 0 = ver := rfl
  have hfound : store stack 0 (responseHeader ver 0x00 body) 1 = 0x00 := rfl
  have hnbody : UInt16.ofNat ((store stack 0 (responseHeader ver 0x00 body) 2).toNat * 256 +
      (store stack 0 (responseHeader ver 0x00 body) 3).toNat) = UInt16.ofNat body.length :=
    ofNat_networkOrder _
  simp only [receiveResponse, hfirst, hlong, hver, hfound, hnbody, hcount, Bool.true_eq_false,
    if_false, ne_eq, not_true_eq_false]
  by_cases hnil : body = []
  · subst hnil
    rfl
  · have hpos : 0 < body.length := List.length_pos_of_ne_nil hnil
    simp only [hpos, hnil, if_true, if_false]

/-- The length of a decoded response is read from the header, its unwritten
cells included. -/
theorem nbody_of_decoded {rest : List UInt8} {stack : ℕ → UInt8} {response : ServerResponse}
    (hfirst : receive 4 segments = (ver :: 0x00 :: rest, left))
    (h : receiveResponse true true stack segments = some response) :
    response.nbody.toNat = (rest.getD 0 (stack 2)).toNat * 256 + (rest.getD 1 (stack 3)).toNat := by
  have hlong : ¬ (ver :: 0x00 :: rest).length < 2 := by simp
  have hfound : store stack 0 (ver :: 0x00 :: rest) 1 = 0x00 := rfl
  have hhigh : store stack 0 (ver :: 0x00 :: rest) 2 = rest.getD 0 (stack 2) := by
    simp [store, List.getD]
  have hlow : store stack 0 (ver :: 0x00 :: rest) 3 = rest.getD 1 (stack 3) := by
    simp [store, List.getD]
  have hnbody : response.nbody = UInt16.ofNat
      ((rest.getD 0 (stack 2)).toNat * 256 + (rest.getD 1 (stack 3)).toNat) := by
    simp only [receiveResponse, hfirst, hlong, hfound, hhigh, hlow, Bool.true_eq_false, if_false,
      ne_eq, not_true_eq_false] at h
    split_ifs at h <;> exact (congrArg ServerResponse.nbody (Option.some.inj h)).symm
  have hhi := (rest.getD 0 (stack 2)).toNat_lt
  have hlo := (rest.getD 1 (stack 3)).toNat_lt
  rw [hnbody]
  exact UInt16.toNat_ofNat_of_lt' (by rw [UInt16.size]; omega)

end FirstRead

/-! ## When the response is decoded -/

section Decoding

variable {ver status : UInt8} {body received : List UInt8} {left : List (List UInt8)}

/-- What has arrived of a frame starts with its version and status. -/
theorem received_cases (arrival : Cut (responseFrame ver status body))
    (hfirst : receive 4 arrival.segments = (received, left)) :
    received.length < 2 ∨
      ∃ rest, received = ver :: status :: rest ∧
        rest ++ left.flatten = networkOrder (UInt16.ofNat body.length) ++ body := by
  have hsplit := receive_append_flatten 4 arrival.segments
  rw [hfirst, arrival.flatten] at hsplit
  match received with
  | [] => exact .inl Nat.zero_lt_two
  | [x] => exact .inl Nat.one_lt_two
  | x :: y :: rest =>
    refine .inr ⟨rest, ?_⟩
    simp only [responseFrame, responseHeader, List.cons_append, List.cons.injEq] at hsplit
    obtain ⟨rfl, rfl, hrest⟩ := hsplit
    exact ⟨rfl, hrest⟩

/-- The whole header has been received, or its last byte is missing. -/
theorem header_cases (arrival : Cut (responseFrame ver status body)) {rest : List UInt8}
    (hfirst : receive 4 arrival.segments = (ver :: status :: rest, left))
    (hrest : rest ++ left.flatten = networkOrder (UInt16.ofNat body.length) ++ body) :
    rest.length < 2 ∨
      (rest = networkOrder (UInt16.ofNat body.length) ∧ left.flatten = body) := by
  have hle := length_receive_le 4 arrival.segments
  rw [hfirst, List.length_cons, List.length_cons] at hle
  rcases Nat.lt_or_ge rest.length 2 with hshort | hlong
  · exact .inl hshort
  · have hlen : rest.length = (networkOrder (UInt16.ofNat body.length)).length :=
      Nat.le_antisymm (by rw [networkOrder, List.length_cons, List.length_singleton]; omega) hlong
    exact .inr (List.append_inj hrest hlen)

/-- Two `recv`s that find what they ask for find the header first. -/
theorem receive_of_inTwoReads {segments : List (List UInt8)}
    (h : InTwoReads segments ver 0x00 body) :
    ∃ left, receive 4 segments = (responseHeader ver 0x00 body, left) := by
  rw [InTwoReads, if_pos rfl] at h
  have htake : (responseFrame ver 0x00 body).take 4 = responseHeader ver 0x00 body :=
    List.take_left' length_responseHeader
  rcases h with rfl | rfl
  · exact ⟨_, Prod.ext (by rw [receive_cons_fst, htake]) rfl⟩
  · exact ⟨_, receive_cons_of_le (Nat.le_of_eq length_responseHeader)⟩

/-- Of a failure, the first `recv` has to find two bytes. -/
theorem inTwoReads_of_failure {rest : List UInt8} {segments : List (List UInt8)}
    (hstatus : status ≠ 0x00) (hfirst : receive 4 segments = (ver :: status :: rest, left)) :
    InTwoReads segments ver status body := by
  rw [InTwoReads, if_neg hstatus]
  match segments with
  | [] => cases hfirst
  | first :: segments =>
    refine ⟨first, segments, rfl, ?_⟩
    have htake : first.take 4 = ver :: status :: rest :=
      receive_cons_fst.symm.trans (congrArg Prod.fst hfirst)
    have hlen := congrArg List.length htake
    rw [List.length_take, List.length_cons, List.length_cons] at hlen
    omega

theorem two_le_of_inTwoReads {segments : List (List UInt8)}
    (h : InTwoReads segments ver status body)
    (hfirst : receive 4 segments = (received, left)) : 2 ≤ received.length := by
  by_cases hstatus : status = 0x00
  · subst hstatus
    obtain ⟨left', hwhole⟩ := receive_of_inTwoReads h
    rw [hfirst, Prod.mk.injEq] at hwhole
    rw [hwhole.1, length_responseHeader]
    omega
  · rw [InTwoReads, if_neg hstatus] at h
    obtain ⟨first, rest, rfl, hlong⟩ := h
    have htake : first.take 4 = received :=
      receive_cons_fst.symm.trans (congrArg Prod.fst hfirst)
    rw [← htake, List.length_take]
    omega

theorem inTwoReads_of_header (arrival : Cut (responseFrame ver 0x00 body))
    (hfirst : receive 4 arrival.segments = (responseHeader ver 0x00 body, left))
    (hleft : left.flatten = body) :
    InTwoReads arrival.segments ver 0x00 body ↔ body = [] ∨ left = [body] := by
  have hkept : ∀ segment ∈ left, segment ≠ [] := by
    have h : ∀ segment ∈ (receive 4 arrival.segments).2, segment ≠ [] :=
      receive_nonempty arrival.nonempty
    rwa [hfirst] at h
  have hsome : arrival.segments ≠ [] := by
    intro hnil
    rw [hnil] at hfirst
    cases hfirst
  rw [InTwoReads, if_pos rfl]
  constructor
  · rintro (hone | htwo)
    · rcases eq_of_receive hsome hfirst with hcut | ⟨back, rest, rfl, hcut⟩
      · rw [hone, List.cons.injEq] at hcut
        rw [← hcut.2, List.flatten_nil] at hleft
        exact .inl hleft.symm
      · rw [hone, List.cons.injEq, responseFrame, List.append_cancel_left_eq] at hcut
        rw [← hcut.1, ← hcut.2]
        exact .inr rfl
    · rw [htwo, receive_cons_of_le (Nat.le_of_eq length_responseHeader), Prod.mk.injEq] at hfirst
      exact .inr hfirst.2.symm
  · intro h
    rcases h with hnil | hbody
    · have hnone : left = [] := eq_nil_of_flatten_eq_nil hkept (hleft.trans hnil)
      rcases eq_of_receive hsome hfirst with hcut | ⟨back, rest, hback, hcut⟩
      · rw [hcut, hnone, responseFrame, hnil, List.append_nil]
        exact .inl rfl
      · exact absurd (hback.symm.trans hnone) (List.cons_ne_nil _ _)
    · rcases eq_of_receive hsome hfirst with hcut | ⟨back, rest, hback, hcut⟩
      · rw [hcut, hbody]
        exact .inr rfl
      · rw [hbody, List.cons.injEq] at hback
        rw [hcut, ← hback.1, ← hback.2]
        exact .inl rfl

/-- A header whose last byte is missing is decoded differently on two
stacks. -/
theorem not_decodes_of_cut {rest : List UInt8} {segments : List (List UInt8)}
    (hfirst : receive 4 segments = (ver :: 0x00 :: rest, left)) (hshort : rest.length < 2) :
    ¬ Decodes segments ver 0x00 body := by
  intro h
  have hlast : ∀ x : UInt8, rest.getD 1 x = x := by
    intro x
    rw [List.getD, List.getElem?_eq_none (by omega), Option.getD_none]
  obtain ⟨zero, hzero, -, -, hzeroBody⟩ := h fun _ => 0
  obtain ⟨one, hone, -, -, honeBody⟩ := h fun i => if i = 3 then 1 else 0
  have hzeroLen := nbody_of_decoded hfirst hzero
  have honeLen := nbody_of_decoded hfirst hone
  rw [hlast, (hzeroBody rfl).1] at hzeroLen
  rw [hlast, (honeBody rfl).1] at honeLen
  have htwo : (if (2 : ℕ) = 3 then (1 : UInt8) else 0) = 0 := rfl
  have hthree : (if (3 : ℕ) = 3 then (1 : UInt8) else 0).toNat = 1 := rfl
  rw [htwo, hthree, hzeroLen, UInt8.toNat_zero] at honeLen
  omega

/-- Behind a whole header the second `recv` has to find the whole body. -/
theorem decodes_of_header (hbody : body.length ≤ 65535) {segments : List (List UInt8)}
    (hfirst : receive 4 segments = (responseHeader ver 0x00 body, left))
    (hkept : ∀ segment ∈ left, segment ≠ []) (hleft : left.flatten = body) :
    Decodes segments ver 0x00 body ↔ body = [] ∨ left = [body] := by
  have hcount : (UInt16.ofNat body.length).toNat = body.length :=
    UInt16.toNat_ofNat_of_lt' (by rw [UInt16.size]; omega)
  simp only [Decodes, receiveResponse_of_header hbody hfirst]
  by_cases hnil : body = []
  · subst hnil
    simp
  · have hwhole := receive_all_iff hkept hleft hnil
    simp only [hnil, if_false, false_or]
    rw [← hwhole]
    constructor
    · intro h
      obtain ⟨response, hsome, -⟩ := h fun _ => 0
      split_ifs at hsome with hshort
      exact Nat.le_of_not_lt hshort
    · intro hall stack
      have hone := hwhole.mp hall
      refine ⟨_, if_neg (Nat.not_lt.mpr hall), rfl, rfl, ?_⟩
      intro _
      rw [hone, receive_cons_of_le (Nat.le_refl _)]
      exact ⟨hcount, rfl⟩

end Decoding

/-- A response is decoded, whatever the stack held, exactly where each of the
two `recv`s finds all it asks for; of a failure two bytes are enough. -/
theorem response_decoded_iff {ver status : UInt8} {body : List UInt8}
    (hbody : body.length ≤ 65535) (arrival : Cut (responseFrame ver status body)) :
    Decodes arrival.segments ver status body ↔ InTwoReads arrival.segments ver status body := by
  obtain ⟨received, left, hfirst⟩ :
      ∃ received left, receive 4 arrival.segments = (received, left) :=
    ⟨_, _, rfl⟩
  rcases received_cases arrival hfirst with hshort | ⟨rest, rfl, hrest⟩
  · constructor
    · intro h
      obtain ⟨response, hsome, -⟩ := h fun _ => 0
      rw [receiveResponse_of_short hfirst hshort] at hsome
      cases hsome
    · intro h
      exact absurd (two_le_of_inTwoReads h hfirst) (Nat.not_le.mpr hshort)
  · by_cases hstatus : status = 0x00
    · subst hstatus
      rcases header_cases arrival hfirst hrest with hcut | ⟨hheader, hleft⟩
      · constructor
        · intro h
          exact absurd h (not_decodes_of_cut hfirst hcut)
        · intro h
          obtain ⟨left', hwhole⟩ := receive_of_inTwoReads h
          rw [hfirst, Prod.mk.injEq, responseHeader, List.cons.injEq, List.cons.injEq] at hwhole
          rw [hwhole.1.2.2] at hcut
          exact absurd hcut (Nat.lt_irrefl 2)
      · have hkept : ∀ segment ∈ (receive 4 arrival.segments).2, segment ≠ [] :=
          receive_nonempty arrival.nonempty
        rw [hfirst] at hkept
        rw [hheader] at hfirst
        exact (decodes_of_header hbody hfirst hkept hleft).trans
          (inTwoReads_of_header arrival hfirst hleft).symm
    · constructor
      · intro _
        exact inTwoReads_of_failure hstatus hfirst
      · intro _ stack
        exact ⟨_, receiveResponse_of_status hfirst hstatus stack, rfl, rfl,
          fun hzero => absurd hzero hstatus⟩

/-- The header of a frame and its body, each in a segment of its own. -/
def splitFrame : Cut (responseFrame 0x01 0x00 [65, 66]) where
  segments := [responseHeader 0x01 0x00 [65, 66], [65, 66]]
  nonempty := by
    rintro segment hsegment rfl
    rcases List.mem_cons.mp hsegment with hnil | hrest
    · cases hnil
    · cases List.mem_singleton.mp hrest
  flatten := rfl

theorem response_decoded_split : Decodes splitFrame.segments 0x01 0x00 [65, 66] :=
  (response_decoded_iff (by decide) splitFrame).mpr (.inr rfl)

/-- A body of two bytes that arrives in two segments is not decoded. -/
theorem response_cut_body :
    [[0x01, 0x00, 0x00, 0x02, 65], [66]].flatten = responseFrame 0x01 0x00 [65, 66] ∧
      ¬ Decodes [[0x01, 0x00, 0x00, 0x02, 65], [66]] 0x01 0x00 [65, 66] := by
  constructor
  · rfl
  · intro h
    obtain ⟨response, hsome, -⟩ := h fun _ => 0
    cases hsome

end Socks5Proxy.Client
