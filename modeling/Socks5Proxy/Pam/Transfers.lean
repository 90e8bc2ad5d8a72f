import Socks5Proxy.Pam.Assertions

/-!
# The bytes of a management connection

What `recv` has returned to a management connection and what `send` has taken
from it, read off its calls, and what one event adds to them.
-/

namespace Socks5Proxy

open Library

/-- What a `recv` has returned. -/
def PamAction.bytesIn : PamAction → List UInt8
  | .recv _ bytes => bytes
  | _ => []

/-- What a `send` has taken. -/
def PamAction.bytesOut : PamAction → List UInt8
  | .send _ bytes => bytes
  | _ => []

def PamSession.bytesIn (s : PamSession) : List UInt8 := s.log.flatMap PamAction.bytesIn

def PamSession.bytesOut (s : PamSession) : List UInt8 := s.log.flatMap PamAction.bytesOut

/-- From `s` to `t` the connection has received and sent so much more. -/
structure PamTransfers (s t : PamSession) (received sent : List UInt8) : Prop where
  bytesIn : t.bytesIn = s.bytesIn ++ received
  bytesOut : t.bytesOut = s.bytesOut ++ sent

/-- What the event makes of the bytes that wait and those that are queued. -/
def PamMoves (s : PamSession) : PamEvent → PamSession → Prop
  | .read _ env, t => PamTransfers s t ((env.recv.getD []).take s.conn.clientBuffer.space) []
  | .write _ env, t => PamTransfers s t [] (s.conn.clientBuffer.content.take (env.send.getD 0))
  | .others _ _, t => t.log = s.log

section Transfers

variable {env : PamEnv} {key : SelectorKey} {s t u : PamSession}
  {received sent received' sent' : List UInt8}

theorem PamTransfers.of_log (h : t.log = s.log) : PamTransfers s t [] [] := by
  constructor
  · rw [PamSession.bytesIn, h, List.append_nil]
    rfl
  · rw [PamSession.bytesOut, h, List.append_nil]
    rfl

theorem PamTransfers.trans (h : PamTransfers s t received sent)
    (h' : PamTransfers t u received' sent') :
    PamTransfers s u (received ++ received') (sent ++ sent') where
  bytesIn := by rw [h'.bytesIn, h.bytesIn, List.append_assoc]
  bytesOut := by rw [h'.bytesOut, h.bytesOut, List.append_assoc]

/-- A call made at the end. -/
theorem PamTransfers.of_concat (action : PamAction) (h : t.log = s.log ++ [action]) :
    PamTransfers s t action.bytesIn action.bytesOut := by
  constructor
  · rw [PamSession.bytesIn, h, List.flatMap_append, List.flatMap_singleton]
    rfl
  · rw [PamSession.bytesOut, h, List.flatMap_append, List.flatMap_singleton]
    rfl

/-- After a transfer only calls that move nothing have been made. -/
theorem PamTransfers.quiet (h : PamTransfers s t received sent) (h' : PamTransfers t u [] []) :
    PamTransfers s u received sent := by
  have hboth := h.trans h'
  rwa [List.append_nil, List.append_nil] at hboth

/-- Before a transfer no calls have been made. -/
theorem PamTransfers.after (h : PamTransfers t u received sent) (hlog : t.log = s.log) :
    PamTransfers s u received sent :=
  (PamTransfers.of_log hlog).trans h

theorem recvClientBuffer_transfers (fd : ℤ) (answer : Option (List UInt8)) :
    PamTransfers s (s.recvClientBuffer fd answer).2
      ((answer.getD []).take s.conn.clientBuffer.space) [] := by
  rcases answer with _ | bytes
  · rw [Option.getD_none, List.take_nil]
    exact .of_concat (.recvFailed fd) rfl
  · exact .of_concat (.recv fd (bytes.take s.conn.clientBuffer.space)) rfl

theorem pamSending_transfers (answer : Option ℕ) :
    PamTransfers s (s.sending answer) []
      (s.conn.clientBuffer.content.take (answer.getD 0)) := by
  rcases answer with _ | k
  · rw [Option.getD_none, List.take_zero]
    exact .of_concat (.sendFailed s.conn.clientFd) rfl
  · have hsent := bufferSend_some_fst (b := s.conn.clientBuffer) k
    unfold PamSession.sending PamSession.sendClientBuffer
    generalize bufferSend s.conn.clientBuffer (some k) = r at hsent ⊢
    obtain ⟨written, buffer⟩ := r
    obtain rfl := hsent
    exact .of_concat (.send s.conn.clientFd _) rfl

theorem pamChecked_transfers : PamTransfers s (s.checked key) [] [] :=
  .of_concat (.authenticate s.conn.username s.conn.pass
    (userAuthenticate s.users s.conn.username s.conn.pass)) rfl

theorem pamGone_transfers : PamTransfers s s.gone [] [] := by
  have hfree : PamTransfers s (pamClose s) [] [] := .of_concat .free rfl
  have hclose : PamTransfers (pamClose s) s.gone [] [] :=
    .of_concat (.close s.conn.clientFd) rfl
  exact hfree.trans hclose

end Transfers

/-! ## The readers -/

section Readers

variable {env : PamEnv} {key : SelectorKey} {s t u x : PamSession} {ret : PamState}
  {buffer : Buffer}

/-- The blocks behind `recv` keep the calls, up to the check of the
credentials. -/
theorem pamAuthBlocks_transfers (key : SelectorKey) (s : PamSession) :
    Block.All (fun x _ => PamTransfers s x [] []) (fun x => PamTransfers s x [] [])
      (((pamAuthVerNNuserNNpass s).andThen pamAuthUsername).andThen (pamAuthPass key)) := by
  have hheader : Block.All (fun x (_ : PamState) => x.log = s.log) (fun x => x.log = s.log)
      (pamAuthVerNNuserNNpass s) := by
    unfold pamAuthVerNNuserNNpass
    split_ifs
    · dsimp only
      split_ifs <;> exact rfl
    · exact rfl
  have hname : ∀ x : PamSession, x.log = s.log →
      Block.All (fun y (_ : PamState) => y.log = s.log) (fun y => y.log = s.log)
        (pamAuthUsername x) := by
    intro x hx
    unfold pamAuthUsername
    split_ifs
    · dsimp only
      split_ifs <;> exact hx
    · exact hx
  have hpass : ∀ x : PamSession, x.log = s.log →
      Block.All (fun y (_ : PamState) => PamTransfers s y [] [])
        (fun y => PamTransfers s y [] []) (pamAuthPass key x) := by
    intro x hx
    unfold pamAuthPass
    split_ifs
    · dsimp only
      split_ifs
      · exact .of_log hx
      · rw [pamCheckCredentials_eq]
        exact pamChecked_transfers.after hx
    · exact .of_log hx
  refine Block.All.andThen ?_ hpass
  refine Block.All.mono (Block.All.andThen hheader hname) ?_ fun x hx => hx
  intro x ret hx
  exact .of_log hx

theorem pamAuthRead_transfers (env : PamEnv) (key : SelectorKey) (s : PamSession) :
    PamTransfers s (pamAuthRead env key s).1
      ((env.recv.getD []).take s.conn.clientBuffer.space) [] := by
  have hrecv := recvClientBuffer_transfers (s := s) key.fd env.recv
  unfold pamAuthRead
  generalize s.recvClientBuffer key.fd env.recv = received at hrecv ⊢
  obtain ⟨readn, u⟩ := received
  rcases readn with _ | _ | ⟨c, bytes⟩
  · exact hrecv
  · exact hrecv
  · have hblocks := pamAuthBlocks_transfers key u
    dsimp only
    generalize ((pamAuthVerNNuserNNpass u).andThen pamAuthUsername).andThen (pamAuthPass key) = b
      at hblocks ⊢
    rcases b with ⟨x, ret⟩ | x
    · exact hrecv.quiet hblocks
    · exact hrecv.quiet hblocks

/-- So do the handlers. -/
theorem pamHandled_transfers (key : SelectorKey)
    (h : handlePamRequestMethod env s buffer = .ok t) :
    PamTransfers s (pamRequestAnswer key t).1 [] [] := by
  obtain ⟨users, status, nbody, body, rfl⟩ := handlePamRequestMethod_leaving h
  exact .of_concat (.handle s.conn.request.method buffer.content) rfl

theorem pamRequestHeader_log (hreserved : s.conn.request.reserved = reservedByte)
    (hstate : s.conn.request.state = .verNReserved ∨ s.conn.request.state = .readBody)
    {r : PamBlock PamSession} (h : pamRequestHeader s = .ok r) :
    r.All (fun x _ => x.log = s.log) fun x => x.log = s.log ∧ x.conn.request.state = .readBody := by
  rcases hstate with hfirst | hbody
  · have hends := pamRequestHeader_ends hfirst hreserved
    rw [h] at hends
    generalize hr : (Except.ok r : Except Fault (PamBlock PamSession)) = header at hends
    rcases hends with hspace | ⟨buffer, hlimit, hstart⟩ | ⟨hstart, hlen⟩ |
      ⟨method, nbody, rest, buffer, hcontent, hbuffer⟩
    · obtain rfl := Except.ok.inj hr
      exact rfl
    · obtain rfl := Except.ok.inj hr
      exact rfl
    · cases hr
    · obtain rfl := Except.ok.inj hr
      exact ⟨rfl, rfl⟩
  · rw [pamRequestHeader_of_readBody hbody] at h
    obtain rfl := Except.ok.inj h
    exact ⟨rfl, hbody⟩

theorem pamRequestReadBody_transfers {r : PamBlock PamSession}
    (hstate : s.conn.request.state = .readBody)
    (h : pamRequestReadBody env key s = .ok r) :
    r.All (fun x _ => PamTransfers s x [] []) (fun x => PamTransfers s x [] []) := by
  by_cases hspace : s.conn.clientBuffer.space < s.conn.request.readNbody.toNat
  · rw [pamRequestReadBody_waits hstate hspace] at h
    cases h
    exact .of_log rfl
  · rw [pamRequestReadBody_handles hstate (Nat.le_of_not_lt hspace)] at h
    rcases hhandle : handlePamRequestMethod env s.bodied (bodyBuffer s.bodied.conn.request) with
      fault | y
    · rw [hhandle] at h
      cases h
    · rw [hhandle] at h
      cases h
      exact (pamHandled_transfers key hhandle).after rfl

theorem pamRequestRead_transfers (hreserved : s.conn.request.reserved = reservedByte)
    (hstate : s.conn.request.state = .verNReserved ∨ s.conn.request.state = .readBody)
    (h : pamRequestRead env key s = .ok (t, ret)) :
    PamTransfers s t ((env.recv.getD []).take s.conn.clientBuffer.space) [] := by
  have hrecv := recvClientBuffer_transfers (s := s) key.fd env.recv
  have hreading := PamReading.recvClientBuffer (s := s) key.fd env.recv
  rcases hreceived : s.recvClientBuffer key.fd env.recv with ⟨_ | _ | ⟨c, bytes⟩, u⟩
  · rw [hreceived] at hrecv
    rw [pamRequestRead, hreceived] at h
    cases h
    exact hrecv
  · rw [hreceived] at hrecv
    rw [pamRequestRead, hreceived] at h
    cases h
    exact hrecv
  · have hu := recvClientBuffer_requestState hreceived
    rw [hreceived] at hrecv hreading
    rw [pamRequestRead_received hreceived] at h
    rcases hheader : pamRequestHeader u with fault | r
    · rw [hheader] at h
      cases h
    · have hlog := pamRequestHeader_log (hreading.reserved.trans hreserved)
        (hstate.imp hu.trans hu.trans) hheader
      rw [hheader] at h
      rcases r with ⟨x, ret'⟩ | x
      · cases h
        exact hrecv.quiet (.of_log hlog)
      · change pamRequestFinish (pamRequestReadBody env key x) = .ok (t, ret) at h
        rcases hread : pamRequestReadBody env key x with fault | r
        · rw [hread] at h
          cases h
        · have hr := pamRequestReadBody_transfers hlog.2 hread
          rw [hread] at h
          rcases r with ⟨y, ret'⟩ | y
          · cases h
            exact hrecv.quiet (hr.after hlog.1)
          · cases h
            exact hrecv.quiet (hr.after hlog.1)

end Readers

/-! ## One event -/

section Step

variable {env : PamEnv} {key : SelectorKey} {s t u : PamSession} {e : PamEvent} {fd : ℤ}
  {st ret : PamState} {received sent : List UInt8}

theorem PamTransfers.settle (h : PamTransfers s u received sent) (hu : PamRegistered u)
    (hst : st = .auth ∨ st = .request)
    (hret : ret = st ∨ ret = .error ∨ ret = .done ∨ st = .auth ∧ ret = .request)
    (ht : pamSettle env key st (u, ret) = .ok t) : PamTransfers s t received sent := by
  have hstop : ret = .error ∨ ret = .done → PamTransfers s t received sent := by
    intro hret
    have hstm : PamRegistered { u with conn.stm := some ret } := ⟨hu.owns, hu.only, hu.handler⟩
    rw [pamSettle_stop hret, pamDone_of_registered hstm] at ht
    rw [← Except.ok.inj ht]
    exact h.quiet (pamGone_transfers.after rfl)
  rcases hret with rfl | herror | hdone | ⟨rfl, rfl⟩
  · have hlive : ret ≠ .error ∧ ret ≠ .done := by
      rcases hst with rfl | rfl
      · exact ⟨nofun, nofun⟩
      · exact ⟨nofun, nofun⟩
    rw [pamSettle_stay hlive.1 hlive.2] at ht
    rw [← Except.ok.inj ht]
    exact h.quiet (.of_log rfl)
  · exact hstop (.inl herror)
  · exact hstop (.inr hdone)
  · rw [pamSettle_request] at ht
    rw [← Except.ok.inj ht]
    exact h.quiet (.of_log rfl)

/-- One write, of whichever state. -/
theorem PamWriteEnds.transfers {stay next : PamState} {i : FdInterest} {answer : Option ℕ}
    {r : PamSession × PamState} (h : PamWriteEnds key stay next i s answer r) :
    PamTransfers s r.1 [] (s.conn.clientBuffer.content.take (answer.getD 0)) ∧ PamFrame s r.1 ∧
      (r.2 = stay ∨ r.2 = .error ∨ r.2 = next) := by
  rcases h with rfl | ⟨k, rfl, -⟩ | ⟨k, rfl, -⟩
  · exact ⟨pamSending_transfers none, pamSending_frame none, .inr (.inl rfl)⟩
  · exact ⟨pamSending_transfers (some k), pamSending_frame (some k), .inl rfl⟩
  · exact ⟨(pamSending_transfers (some k)).quiet (.of_log rfl), pamSent_frame (some k) key.fd i,
      .inr (.inr rfl)⟩

/-- Entering PAM_AUTH moves nothing. -/
theorem pamArrived_bytes (s : PamSession) :
    s.arrived.log = s.log ∧ s.arrived.conn.clientBuffer = s.conn.clientBuffer := by
  unfold PamSession.arrived
  split
  · exact ⟨rfl, rfl⟩
  · exact ⟨rfl, rfl⟩

theorem pamRead_transfers (hs : PamSound s) (ht : pamRead env key s = .ok t) :
    PamTransfers s t ((env.recv.getD []).take s.conn.clientBuffer.space) [] := by
  rcases hs.phase with hstate | ⟨hstate, hexpects⟩
  · have hread := pamAuthRead_transfers env key s.arrived
    obtain ⟨hlog, hbuffer⟩ := pamArrived_bytes s
    rw [hbuffer] at hread
    have hends := pamAuthRead_ends env key s.arrived
    rw [pamRead_auth hstate] at ht
    generalize pamAuthRead env key s.arrived = r at hends hread ht
    obtain ⟨u, ret⟩ := r
    have hu : PamRegistered u ∧ (ret = .auth ∨ ret = .error ∨ ret = .done) := by
      rcases hends with ⟨_, _, hx, hret⟩ | ⟨_, hx⟩ | ⟨x, hx, -⟩
      · exact ⟨(pamArrived_frame.trans hx.toPamFrame).registered hs.registered, .inr hret⟩
      · exact ⟨(pamArrived_frame.trans hx.toPamFrame).registered hs.registered, .inl rfl⟩
      · exact ⟨((pamArrived_frame.trans hx.toPamFrame).trans pamChecked_frame).registered
          hs.registered, .inl rfl⟩
    refine (hread.after hlog).settle hu.1 (.inl rfl) ?_ ht
    rcases hu.2 with hstay | herror | hdone
    · exact .inl hstay
    · exact .inr (.inl herror)
    · exact .inr (.inr (.inl hdone))
  · rw [pamRead_request hstate] at ht
    rcases hread : pamRequestRead env key s with fault | ⟨u, ret⟩
    · rw [hread] at ht
      cases ht
    · rw [hread] at ht
      have htransfers := pamRequestRead_transfers hexpects.reserved hexpects.state hread
      have hends := pamRequestRead_ends env key hexpects.reserved hexpects.state
      rw [hread] at hends
      generalize hr : (Except.ok (u, ret) : Except Fault (PamSession × PamState)) = r at hends
      have hu : PamFrame s u ∧ (ret = .request ∨ ret = .error ∨ ret = .done) := by
        rcases hends with ⟨x, ret', hx, hret, -⟩ | - | ⟨x, hx, -, -⟩ | ⟨x, buffer, hx, -, -⟩
        · obtain ⟨rfl, rfl⟩ := Prod.mk.inj (Except.ok.inj hr)
          exact ⟨hx.toPamFrame, .inr hret⟩
        · cases hr
        · obtain ⟨rfl, rfl⟩ := Prod.mk.inj (Except.ok.inj hr)
          exact ⟨hx.toPamFrame, .inl rfl⟩
        · rcases hhandle : handlePamRequestMethod env x buffer with fault | y
          · rw [hhandle] at hr
            cases hr
          · rw [hhandle] at hr
            cases hr
            exact ⟨hx.toPamFrame.trans (pamRequestAnswer_frame hhandle key), .inl rfl⟩
      refine htransfers.settle (hu.1.registered hs.registered) (.inr rfl) ?_ ht
      rcases hu.2 with hstay | herror | hdone
      · exact .inl hstay
      · exact .inr (.inl herror)
      · exact .inr (.inr (.inl hdone))

theorem pamWrite_transfers (hs : PamSound s) (ht : pamWrite env key s = .ok t) :
    PamTransfers s t [] (s.conn.clientBuffer.content.take (env.send.getD 0)) := by
  rcases hs.phase with hstate | ⟨hstate, -⟩
  · rw [pamWrite_auth hstate] at ht
    obtain ⟨hlog, hbuffer⟩ := pamArrived_bytes s
    obtain ⟨htransfers, hframe, hret⟩ := (pamAuthWrite_ends env key s.arrived).transfers
    rw [hbuffer] at htransfers
    generalize pamAuthWrite env key s.arrived = r at htransfers hframe hret ht
    obtain ⟨u, ret⟩ := r
    refine (htransfers.after hlog).settle
      ((pamArrived_frame.trans hframe).registered hs.registered) (.inl rfl) ?_ ht
    rcases hret with hstay | herror | hnext
    · exact .inl hstay
    · exact .inr (.inl herror)
    · exact .inr (.inr (.inr ⟨rfl, hnext⟩))
  · rw [pamWrite_request hstate] at ht
    obtain ⟨htransfers, hframe, hret⟩ := (pamRequestWrite_ends env key s).transfers
    generalize pamRequestWrite env key s = r at htransfers hframe hret ht
    obtain ⟨u, ret⟩ := r
    refine htransfers.settle (hframe.registered hs.registered) (.inr rfl) ?_ ht
    rcases hret with hstay | herror | hnext
    · exact .inl hstay
    · exact .inr (.inl herror)
    · exact .inr (.inr (.inl hnext))

/-- What an event moves: what `recv` is given, as far as there is room, and
what `send` takes of the answer. -/
theorem pamStep_moves (hs : PamIntact s) (ht : pamStep s e = .ok t) : PamMoves s e t := by
  rcases e with ⟨fd, env⟩ | ⟨fd, env⟩ | ⟨users, metrics⟩
  · rcases hs with hfreed | hs
    · rw [pamStep, hfreed] at ht
      cases ht
    · rw [pamStep_read hs.freed] at ht
      exact pamRead_transfers hs ht
  · rcases hs with hfreed | hs
    · rw [pamStep, hfreed] at ht
      cases ht
    · rw [pamStep_write hs.freed] at ht
      exact pamWrite_transfers hs ht
  · rw [← Except.ok.inj ht]
    rfl

end Step

end Socks5Proxy
