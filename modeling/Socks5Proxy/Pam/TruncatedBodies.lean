import Socks5Proxy.Pam.StatusCodes

/-!
# Bodies that end early

`buffer_read` returns zero once the body is exhausted, so a handler finds a
request in every body: missing bytes of a string end it, a missing length byte
announces nothing, and a missing role is that of an administrator.  Whether a
truncated body is refused depends on the request found.
-/

namespace Socks5Proxy

open Library

/-- The handler answers with an error and leaves the store alone. -/
def Rejects (env : PamEnv) (s : PamSession) (buffer : Buffer) : Prop :=
  ∃ t, handlePamRequestMethod env s buffer = .ok t ∧
    t.conn.request.status ≠ pamRequestSuccess ∧ t.users = s.users

/-- The store does not let `requester`, an administrator, make the call. -/
def Refused (store : UserStore) (requester : CString) : UserOp → Prop
  | .create username password _ _ =>
    CredentialsTooLong username password ∨ userGetIfExists store username.bytes ≠ none
  | .remove username =>
    username = requester ∨
      if userTotalAdmins store = 1 then userIsAdmin store username.bytes = true
      else userGetIfExists store username.bytes = none
  | .changePassword username _ _ => userGetIfExists store username.bytes = none
  | .changeRole username _ => userGetIfExists store username.bytes = none

section Rejection

variable {env : PamEnv} {s : PamSession} {buffer : Buffer} {op : UserOp} {store : UserStore}

/-- The only status of a call that is sent as success is `USER_OK`. -/
theorem UserOp.wireStatus_eq_success_iff (op : UserOp) (status : UserStatus) :
    op.wireStatus status = pamRequestSuccess ↔ status = .ok := by
  rcases op with _ | _ | _ | _
  · change addUserStatus status = _ ↔ _
    cases status <;> decide
  · change removeUserStatus status = _ ↔ _
    cases status <;> decide
  · change changePasswordStatus status = _ ↔ _
    cases status <;> decide
  · change changeRoleStatus status = _ ↔ _
    cases status <;> decide

/-- When a call is refused. -/
theorem apply_ne_ok_iff (h : store.Ordered) (op : UserOp) (hother : ∀ n, op ≠ .remove n)
    (requester : CString) : (op.apply store).2 ≠ .ok ↔ Refused store requester op := by
  obtain ⟨-, hspec⟩ := op.apply_spec h
  rcases op with ⟨username, password, pl, stack⟩ | username |
    ⟨username, newPassword, hlen⟩ | ⟨username, newRole⟩
  · have hok := hspec.1
    rw [Refused, CredentialsTooLong, Ne, hok, not_and_or, not_and_or, Nat.not_lt, Nat.not_lt]
    tauto
  · exact absurd rfl (hother username)
  · have hok := hspec.1
    rw [Refused, Ne, hok, not_not]
  · have hok := hspec.1
    rw [Refused, Ne, hok, not_not]

theorem rejects_iff_of_ok {t : PamSession} (h : handlePamRequestMethod env s buffer = .ok t) :
    Rejects env s buffer ↔ t.conn.request.status ≠ pamRequestSuccess ∧ t.users = s.users := by
  constructor
  · rintro ⟨t', ht', hrejects⟩
    obtain rfl := Except.ok.inj (h.symm.trans ht')
    exact hrejects
  · intro hrejects
    exact ⟨t, h, hrejects⟩

theorem removeOther_eq (target : CString) :
    removeOther target.bytes s =
      if target = s.requester then s.setStatus pamRequestUnauthorized
      else ({ s with users := (userRemove s.users target.bytes).1 }).setStatus
        (removeUserStatus (userRemove s.users target.bytes).2) := by
  have hsame : strcmp s.conn.username target.bytes = 0 ↔ target = s.requester := by
    rw [CString.ext_iff, requester_bytes, eq_comm (a := target.bytes)]
    exact strcmp_eq_zero_iff s.requester.noNul target.noNul
  rw [removeOther]
  simp only [hsame]

/-- Behind the guard of `handle_remove_user`. -/
theorem removeOther_rejects_iff (h : s.users.Ordered) (target : CString) :
    ((removeOther target.bytes s).conn.request.status ≠ pamRequestSuccess ∧
        (removeOther target.bytes s).users = s.users) ↔
      target = s.requester ∨ userGetIfExists s.users target.bytes = none := by
  have hok := (UserOp.remove target).wireStatus_eq_success_iff (userRemove s.users target.bytes).2
  obtain ⟨-, hstatus, heffect⟩ := remove_spec h target
  rw [removeOther_eq]
  split_ifs with hsame
  · exact iff_of_true ⟨by change pamRequestUnauthorized ≠ _; decide, rfl⟩ (.inl hsame)
  · change (UserOp.wireStatus _ (.remove target) ≠ _ ∧ (userRemove s.users target.bytes).1 = _) ↔ _
    rw [Ne, hok, hstatus, not_not]
    constructor
    · rintro ⟨hnone, -⟩
      exact .inr hnone
    · intro hor
      have hnone := hor.resolve_left hsame
      rw [if_neg fun hok => hstatus.mp hok hnone] at heffect
      exact ⟨hnone, heffect⟩

/-- A request to remove a user is rejected if the call is refused. -/
theorem removeUser_rejects_iff (hordered : s.users.Ordered)
    (hfits : ¬ Overruns s.conn.request.method buffer.content)
    (hmethod : s.conn.request.method = pamRequestMethodRemoveUser)
    (hadmin : userIsAdmin s.users s.requester.bytes = true) :
    Rejects env s buffer ↔ Refused s.users s.requester (.remove (stringAt buffer)) := by
  have hguard := (userIsAdmin_handling s buffer).trans hadmin
  have hhandle : handlePamRequestMethod env s buffer = _ := dispatch_removeUser_fits hfits hmethod
  rw [requestRemoveUser_eq hguard] at hhandle
  generalize ht : (s.handling buffer).setStatus pamRequestSuccess = t at hhandle
  have hrequester : t.requester = s.requester := by
    rw [← ht]
    exact requester_congr rfl
  have hstore : t.users = s.users := by rw [← ht]; rfl
  have hbehind := removeOther_rejects_iff (hstore ▸ hordered) (stringAt buffer)
  rw [hrequester, hstore] at hbehind
  rw [show (s.handling buffer).users = s.users from rfl] at hhandle
  rw [Refused]
  split_ifs at hhandle ⊢ with htotal
  · rcases hfind : userGetIfExists s.users (stringAt buffer).bytes with _ | user
    · rw [hfind] at hhandle
      refine iff_of_false ?_ ?_
      · rintro ⟨u, hu, -⟩
        cases hhandle.symm.trans hu
      · obtain ⟨found, hfound, -⟩ := userIsAdmin_iff.mp hadmin
        rintro (hsame | htarget)
        · rw [hsame, hfound] at hfind
          cases hfind
        · obtain ⟨found, hfound, -⟩ := userIsAdmin_iff.mp htarget
          rw [hfound] at hfind
          cases hfind
    · rw [hfind] at hhandle
      have htarget : userIsAdmin s.users (stringAt buffer).bytes = true ↔
          user.privilegeLevel = userPrivilegeAdmin := by
        simp [userIsAdmin_iff, hfind]
      dsimp only at hhandle
      split_ifs at hhandle with hrole
      · rw [rejects_iff_of_ok hhandle]
        refine iff_of_true ⟨?_, hstore⟩ (.inr (htarget.mpr hrole))
        change pamRequestUnauthorized ≠ _
        decide
      · rw [rejects_iff_of_ok hhandle, hbehind, hfind, htarget]
        simp [hrole]
  · rw [rejects_iff_of_ok hhandle, hbehind]

end Rejection

theorem rejects_iff_of_fits {ops : List UserOp} {env : PamEnv} {s : PamSession}
    {buffer : Buffer} {op : UserOp} (hrun : run userStep usersInit ops = .ok s.users)
    (hfits : ¬ Overruns s.conn.request.method buffer.content)
    (hadmin : userIsAdmin s.users s.requester.bytes = true)
    (hop : requestOp env s.conn.request.method buffer = some op) :
    Rejects env s buffer ↔ Refused s.users s.requester op := by
  have hordered := ordered_of_run hrun
  by_cases hremove : s.conn.request.method = pamRequestMethodRemoveUser
  · have hcall : op = .remove (stringAt buffer) := by
      rw [requestOp, hremove] at hop
      exact (Option.some.inj hop).symm
    rw [hcall]
    exact removeUser_rejects_iff hordered hfits hremove hadmin
  · obtain ⟨t, ht, husers, hstatus⟩ := handle_admin hop hfits hadmin hremove
    have hother : ∀ n, op ≠ .remove n := by
      rintro n rfl
      rw [requestOp] at hop
      split_ifs at hop <;> cases hop
    rw [rejects_iff_of_ok ht, hstatus, husers, Ne, op.wireStatus_eq_success_iff,
      ← apply_ne_ok_iff hordered op hother s.requester]
    constructor
    · rintro ⟨hne, -⟩
      exact hne
    · intro hne
      exact ⟨hne, op.apply_of_ne_ok hordered hne⟩

/-- A request is rejected exactly if its strings fit the arrays of the handler
and the call found in its body, reading zeros for what is missing, is one the
store refuses. -/
theorem rejects_iff_refused {ops : List UserOp} {env : PamEnv} {s : PamSession}
    {buffer : Buffer} {op : UserOp} (hrun : run userStep usersInit ops = .ok s.users)
    (hadmin : userIsAdmin s.users s.requester.bytes = true)
    (hop : requestOp env s.conn.request.method buffer = some op) :
    Rejects env s buffer ↔
      ¬ Overruns s.conn.request.method buffer.content ∧ Refused s.users s.requester op := by
  by_cases hoverruns : Overruns s.conn.request.method buffer.content
  · refine iff_of_false ?_ fun h => h.1 hoverruns
    rintro ⟨t, ht, -⟩
    exact fits_of_handled ht hoverruns
  · rw [rejects_iff_of_fits hrun hoverruns hadmin hop, and_iff_right hoverruns]

/-- A body that is shorter than the fields it announces is rejected exactly if
its strings fit and the call found in it is one the store refuses. -/
theorem truncated_rejected_iff {ops : List UserOp} {env : PamEnv} {s : PamSession}
    {buffer : Buffer} {op : UserOp} (hrun : run userStep usersInit ops = .ok s.users)
    (hadmin : userIsAdmin s.users s.requester.bytes = true)
    (hop : requestOp env s.conn.request.method buffer = some op) :
    (parseBody s.conn.request.method buffer.content = none → Rejects env s buffer) ↔
      (parseBody s.conn.request.method buffer.content = none →
        ¬ Overruns s.conn.request.method buffer.content ∧ Refused s.users s.requester op) := by
  rw [rejects_iff_refused hrun hadmin hop]

/-- `ADD_USER` for `a` with the password `b` and no role creates an
administrator. -/
theorem missingRole_accepted :
    ∃ s buffer, run userStep usersInit [] = .ok s.users ∧
      userIsAdmin s.users s.requester.bytes = true ∧
      s.conn.request.method = pamRequestMethodAddUser ∧
      parseBody s.conn.request.method buffer.content = none ∧ ¬ Rejects default s buffer := by
  refine ⟨(adminRequest pamRequestMethodAddUser [1, 97, 1, 98]).on usersInit,
    (adminRequest pamRequestMethodAddUser [1, 97, 1, 98]).buffer, rfl, by decide +kernel, rfl,
    by decide +kernel, ?_⟩
  rintro ⟨t, ht, hstatus, -⟩
  have hcode : (adminHandles pamRequestMethodAddUser [1, 97, 1, 98]).toOption.map
      (·.conn.request.status) = some pamRequestSuccess := by decide +kernel
  rw [adminHandles, ht] at hcode
  exact hstatus (Option.some.inj hcode)

/-- `CHANGE_ROLE` for the user `a`, who does not exist, without a role. -/
theorem truncated_rejected_iff_nobody :
    Rejects default ((adminRequest pamRequestMethodChangeRole [1, 97]).on usersInit)
      (adminRequest pamRequestMethodChangeRole [1, 97]).buffer := by
  have hrun : run userStep usersInit [] =
      .ok ((adminRequest pamRequestMethodChangeRole [1, 97]).on usersInit).users := rfl
  have hnone : userGetIfExists usersInit
      (stringAt (adminRequest pamRequestMethodChangeRole [1, 97]).buffer).bytes = none := by
    decide +kernel
  exact (truncated_rejected_iff hrun (by decide +kernel) rfl).mpr
    (fun _ => ⟨by decide +kernel, hnone⟩) (by decide +kernel)

end Socks5Proxy
