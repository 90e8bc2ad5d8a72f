import Socks5Proxy.Socks.AuthGate
import Socks5Proxy.Socks.Teardown

/-!
# The verdict on a client's credentials

`auth_read` sets `authenticated` when `user_authenticate` accepts what the two
arrays hold, and nothing else sets it while the connection is in AUTH.
-/

namespace Socks5Proxy

open Library

/-- The credentials in the record of a connection, as C strings. -/
def Socks5.username (c : Socks5) : List UInt8 := credential c.auth.username

def Socks5.password (c : Socks5) : List UInt8 := credential c.auth.password

/-- The verdict of `t` is the one of `s`, or the store accepts the credentials
of `t`. -/
def Believes (users : UserStore) (s t : Session) : Prop :=
  t.conn.auth.authenticated = true → s.conn.auth.authenticated = true ∨
    userAuthenticate users t.conn.username t.conn.password = .ok

/-- An event of AUTH after which the client counts as authenticated. -/
structure Admits (s t : Session) : Prop where
  state : s.state = .auth
  before : s.conn.auth.authenticated = false
  after : t.conn.auth.authenticated = true

section Believes

variable {s t u : Session} {env : Env} {key : SelectorKey} {toRead : ℕ} {e : Event}
  {users : UserStore} {r : Session × SocksV5State}

theorem Believes.of_auth (h : Believes users s t) (hauth : u.conn.auth = t.conn.auth) :
    Believes users s u := by
  unfold Believes Socks5.username Socks5.password
  rw [hauth]
  exact h

theorem Believes.of_before (h : Believes users t u)
    (hverdict : t.conn.auth.authenticated = s.conn.auth.authenticated) : Believes users s u := by
  intro hauthenticated
  rw [← hverdict]
  exact h hauthenticated

theorem Believes.of_eq (h : t.conn.auth.authenticated = s.conn.auth.authenticated) :
    Believes users s t := by
  intro hauthenticated
  rw [h] at hauthenticated
  exact .inl hauthenticated

theorem checkCredentials_believes : Believes env.users s (checkCredentials env s) := by
  intro hverdict
  unfold checkCredentials at hverdict ⊢
  rcases userAuthenticate_cases env.users (credential s.conn.auth.username)
    (credential s.conn.auth.password) with hok | hbad | hwrong
  · rw [hok]
    exact .inr hok
  · rw [hbad] at hverdict
    exact .inl hverdict
  · rw [hwrong] at hverdict
    exact .inl hverdict

theorem authPasswd_believes :
    (authPasswd env key s toRead).All (fun t _ => Believes env.users s t)
      fun t => Believes env.users s t.1 := by
  unfold authPasswd
  dsimp only
  split
  · split
    · exact .of_eq rfl
    · generalize bufferReadN s.conn.auth.plen.toNat s.conn.clientBuffer = bytes
      refine (checkCredentials_believes.of_before ?_).of_auth rfl
      rfl
  · exact .of_eq rfl

theorem authRead_believes (env : Env) (key : SelectorKey) (s : Session) :
    Believes env.users s (authRead env key s).1 := by
  unfold authRead
  cases env.recv with
  | none =>
      rw [recvClientBuffer_none]
      exact .of_eq rfl
  | some offered =>
      obtain ⟨b, -, -, hrecv⟩ := recvClientBuffer_some s key.fd offered
      rw [hrecv]
      generalize hu : ({ s with conn.clientBuffer := b } : Session).act _ = u
      have hverdict : u.conn.auth.authenticated = s.conn.auth.authenticated := by
        rw [← hu]
        rfl
      dsimp only
      split
      · exact .of_eq hverdict
      · have hkeeps : KeepsVerdict u
            ((((authVer u (bufferReadPtr u.conn.clientBuffer).2).andThen
              fun v => authUlen v.1 v.2).andThen fun v => authUname v.1 v.2).andThen
              fun v => authPlen v.1 v.2) :=
          ((authVer_keepsVerdict.andThen fun _ => authUlen_keepsVerdict).andThen
            fun _ => authUname_keepsVerdict).andThen fun _ => authPlen_keepsVerdict
        have hall : Block.All (fun t _ => Believes env.users s t)
            (fun t => Believes env.users s t.1) (((((authVer u
              (bufferReadPtr u.conn.clientBuffer).2).andThen
              fun v => authUlen v.1 v.2).andThen fun v => authUname v.1 v.2).andThen
              fun v => authPlen v.1 v.2).andThen fun v => authPasswd env key v.1 v.2) := by
          refine Block.All.andThen (hkeeps.mono (fun v st hv => .of_eq (hv.1.trans hverdict))
            fun v hv => hv) fun v hv => ?_
          exact authPasswd_believes.mono (fun w st hw => hw.of_before (hv.trans hverdict))
            fun w hw => hw.of_before (hv.trans hverdict)
        split
        · next w ret hb =>
            rw [hb] at hall
            exact hall
        · next w hb =>
            rw [hb] at hall
            exact hall

/-- The jump that follows a callback of AUTH leaves the credentials alone. -/
theorem settle_auth (env : Env) (key : SelectorKey)
    (h : r.2 ∈ [SocksV5State.auth, .request, .error, .done]) :
    (settle env key .auth r).conn.auth = r.1.conn.auth := by
  obtain ⟨u, next⟩ := r
  by_cases hstop : next = .error ∨ next = .done
  · rw [settle_stop hstop]
    unfold teardown
    split_ifs
    · rfl
    · dsimp only [Session.act]
      rw [conn_releaseFd, conn_releaseFd]
  · obtain ⟨herror, hdone⟩ := not_or.mp hstop
    by_cases hsame : SocksV5State.auth = next
    · subst hsame
      rw [settle_stay herror hdone]
    · rw [settle_move hsame herror hdone]
      have hnext : next = .request := by simpa [herror, hdone, Ne.symm hsame] using h
      subst hnext
      rfl

/-- A client is admitted by a read whose credentials the store accepts. -/
theorem step_admits (h : Admits s t) (hstep : step s e = .ok t) :
    ∃ fd env, e = .read fd env ∧
      userAuthenticate env.users t.conn.username t.conn.password = .ok := by
  have hverdict := h.before
  have hchanged := h.after
  obtain ⟨-, harrived⟩ := arrived_of_some (stm_of_state h.state (by decide))
  have hunchanged : t.conn.auth.authenticated ≠ s.conn.auth.authenticated := by
    rw [hverdict, hchanged]
    decide
  rcases e with ⟨fd, env⟩ | ⟨fd, env⟩ | ⟨fd, env⟩ | result | errno
  · refine ⟨fd, env, rfl, ?_⟩
    obtain ⟨-, callback, r, hselect, hcall, rfl⟩ := step_read_ok hstep
    rw [h.state] at hselect hchanged ⊢
    rw [harrived] at hcall
    cases hselect
    have hstates := (authRead_sound env ⟨fd, s.address⟩ s).2
    have hbelieves := authRead_believes env ⟨fd, s.address⟩ s
    rw [Except.ok.inj hcall] at hstates hbelieves
    have hsettle := settle_auth env ⟨fd, s.address⟩ (r := r) (by
      simp only [List.mem_cons, List.not_mem_nil, or_false] at hstates ⊢
      tauto)
    rcases (hbelieves.of_auth hsettle) hchanged with hold | haccepted
    · rw [hverdict] at hold
      cases hold
    · exact haccepted
  · exfalso
    obtain ⟨-, callback, r, hselect, hcall, rfl⟩ := step_write_ok hstep
    rw [h.state] at hselect hunchanged
    rw [harrived] at hcall
    cases hselect
    have hcases := authWrite_cases env ⟨fd, s.address⟩ s
    rw [Except.ok.inj hcall] at hcases
    refine hunchanged ?_
    obtain ⟨u, next⟩ := r
    have hkept : ∀ {v : Session}, v.conn.auth = s.conn.auth →
        next ∈ [SocksV5State.auth, .request, .error, .done] →
        (settle env ⟨fd, s.address⟩ .auth (v, next)).conn.auth.authenticated =
          s.conn.auth.authenticated := by
      intro v hv hnext
      rw [settle_auth env _ hnext, hv]
    rcases hcases with - | ⟨-, -⟩ | ⟨-, -, -⟩ | ⟨-, -, -⟩
    · exact hkept rfl (by simp)
    · exact hkept rfl (by simp)
    · exact hkept rfl (by simp)
    · exact hkept rfl (by simp)
  · exfalso
    obtain ⟨-, callback, r, u, hselect, hcall, -, -⟩ := step_block_ok hstep
    rw [h.state] at hselect
    cases hselect
  · obtain ⟨-, rfl⟩ := step_resolved_ok_iff.mp hstep
    exact absurd rfl hunchanged
  · obtain ⟨-, rfl⟩ := step_connectFinished_ok_iff.mp hstep
    exact absurd rfl hunchanged

end Believes

end Socks5Proxy
