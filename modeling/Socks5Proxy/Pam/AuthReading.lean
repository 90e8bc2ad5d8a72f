import Socks5Proxy.Pam.AuthDecoding
import Socks5Proxy.Pam.Dispatch

/-!
# How one read of PAM_AUTH ends

`pam_auth_read` waits, gives up, or checks the credentials and queues the
answer.
-/

namespace Socks5Proxy

open Library Library.Memory

/-- The session after the check of the credentials, with the answer queued. -/
def PamSession.checked (s : PamSession) (key : SelectorKey) : PamSession :=
  let status := pamVerdict s.users s.conn
  let s := s.act (.authenticate s.conn.username s.conn.pass
    (userAuthenticate s.users s.conn.username s.conn.pass))
  (({ s with conn.auth.status := status } : PamSession).answerWith
    [pamVersion1, status]).setInterest key.fd .opWrite

/-- `x` is `s` while the credentials are being read: the request and the store
are not touched, and nothing but `recv` is called. -/
structure PamAuthReading (s x : PamSession) : Prop extends PamFrame s x where
  registrations : x.sel = s.sel
  users : x.users = s.users
  request : x.conn.request = s.conn.request
  calls : ∀ action ∈ x.log, action ∈ s.log ∨ action.Receives

/-- How one read of PAM_AUTH ends. -/
inductive PamAuthReadEnds (key : SelectorKey) (s : PamSession) : PamSession × PamState → Prop
  | gone (x : PamSession) (ret : PamState) (hreading : PamAuthReading s x)
      (hret : ret = .error ∨ ret = .done) : PamAuthReadEnds key s (x, ret)
  | waits (x : PamSession) (hreading : PamAuthReading s x) : PamAuthReadEnds key s (x, .auth)
  | checked (x : PamSession) (hreading : PamAuthReading s x) (hstate : x.conn.auth.state = .pass) :
      PamAuthReadEnds key s (x.checked key, .auth)

section Reading

variable {env : PamEnv} {key : SelectorKey} {s x y : PamSession}

theorem pamCheckCredentials_eq : pamCheckCredentials key s = .next (s.checked key) := by
  rw [pamCheckCredentials]
  dsimp only
  rw [pamAuthStatus_userAuthenticate]
  rfl

theorem pamChecked_frame : PamFrame s (s.checked key) := by
  refine PamFrame.trans ?_ (.setInterest key.fd .opWrite)
  refine PamFrame.trans ?_ (.answerWith _)
  exact PamFrame.trans (.act _) (.of_conn rfl rfl rfl)

theorem PamAuthReading.refl (s : PamSession) : PamAuthReading s s :=
  ⟨.refl s, rfl, rfl, rfl, fun _ h => .inl h⟩

theorem PamAuthReading.trans (h : PamAuthReading s x) (h' : PamAuthReading x y) :
    PamAuthReading s y where
  toPamFrame := h.toPamFrame.trans h'.toPamFrame
  registrations := h'.registrations.trans h.registrations
  users := h'.users.trans h.users
  request := h'.request.trans h.request
  calls := fun action haction => by
    rcases h'.calls action haction with hold | hnew
    · exact h.calls action hold
    · exact .inr hnew

theorem PamAuthReading.of_conn {b : Buffer} {auth : PamAuthSt}
    (hlimit : b.limit = s.conn.clientBuffer.limit) :
    PamAuthReading s { s with conn.clientBuffer := b, conn.auth := auth } :=
  ⟨.of_conn rfl rfl hlimit, rfl, rfl, rfl, fun _ h => .inl h⟩

theorem PamAuthReading.recvClientBuffer (fd : ℤ) (answer : Option (List UInt8)) :
    PamAuthReading s (s.recvClientBuffer fd answer).2 := by
  rcases answer with _ | bytes
  · exact ⟨.recvClientBuffer fd _, rfl, rfl, rfl, fun _ => receives_of_recvClientBuffer⟩
  · exact ⟨.recvClientBuffer fd _, rfl, rfl, rfl, fun _ => receives_of_recvClientBuffer⟩

/-- A block of the reader waits, gives up, or goes on. -/
def PamBlock.Reads (s : PamSession) (b : PamBlock PamSession) : Prop :=
  b.All (fun x ret => PamAuthReading s x ∧ (ret = .auth ∨ ret = .error)) (PamAuthReading s)

theorem pamAuthVerNNuserNNpass_reads : PamBlock.Reads s (pamAuthVerNNuserNNpass s) := by
  unfold pamAuthVerNNuserNNpass
  split_ifs
  · dsimp only
    split_ifs
    · exact ⟨.refl s, .inl rfl⟩
    · exact ⟨.of_conn (by simp), .inr rfl⟩
    · exact ⟨.of_conn (by simp), .inr rfl⟩
    · exact ⟨.of_conn (by simp), .inr rfl⟩
    · exact .of_conn (by simp)
  · exact .refl s

theorem pamAuthUsername_reads : PamBlock.Reads s (pamAuthUsername s) := by
  unfold pamAuthUsername
  split_ifs
  · dsimp only
    split_ifs
    · exact ⟨.refl s, .inl rfl⟩
    · exact .of_conn (bufferReadN_limit _ _)
  · exact .refl s

/-- The last block. -/
theorem pamAuthPass_ends (key : SelectorKey) (s : PamSession) :
    (pamAuthPass key s).All (fun x ret => PamAuthReading s x ∧ ret = .auth)
      fun y => PamAuthReading s y ∨
        ∃ x, PamAuthReading s x ∧ x.conn.auth.state = .pass ∧ y = x.checked key := by
  unfold pamAuthPass
  split_ifs with hstate
  · dsimp only
    split_ifs
    · exact ⟨.refl s, rfl⟩
    · rw [pamCheckCredentials_eq]
      refine .inr ⟨_, ?_, ?_, rfl⟩
      · exact .of_conn (bufferReadN_limit _ _)
      · exact hstate
  · exact .inl (.refl s)

theorem pamAuthRead_ends (env : PamEnv) (key : SelectorKey) (s : PamSession) :
    PamAuthReadEnds key s (pamAuthRead env key s) := by
  have hreading := PamAuthReading.recvClientBuffer (s := s) key.fd env.recv
  unfold pamAuthRead
  generalize s.recvClientBuffer key.fd env.recv = received at hreading ⊢
  obtain ⟨readn, u⟩ := received
  rcases readn with _ | _ | ⟨c, bytes⟩
  · exact .gone u .error hreading (.inl rfl)
  · exact .gone u .done hreading (.inr rfl)
  · have hheader : PamBlock.Reads u ((pamAuthVerNNuserNNpass u).andThen pamAuthUsername) := by
      refine Block.All.andThen pamAuthVerNNuserNNpass_reads ?_
      intro x hx
      exact pamAuthUsername_reads.mono (fun y ret hy => ⟨hx.trans hy.1, hy.2⟩)
        fun y hy => hx.trans hy
    dsimp only
    generalize (pamAuthVerNNuserNNpass u).andThen pamAuthUsername = header at hheader ⊢
    rcases header with ⟨x, ret⟩ | x
    · obtain ⟨hx, rfl | rfl⟩ := hheader
      · exact .waits x (hreading.trans hx)
      · exact .gone x .error (hreading.trans hx) (.inl rfl)
    · have hpass := pamAuthPass_ends key x
      have hx : PamAuthReading s x := hreading.trans hheader
      rw [Block.andThen_next]
      generalize pamAuthPass key x = last at hpass ⊢
      rcases last with ⟨y, ret⟩ | y
      · obtain ⟨hy, rfl⟩ := hpass
        exact .waits y (hx.trans hy)
      · rcases hpass with hy | ⟨y, hy, hstate, rfl⟩
        · exact .waits y (hx.trans hy)
        · exact .checked y (hx.trans hy) hstate

end Reading

end Socks5Proxy
