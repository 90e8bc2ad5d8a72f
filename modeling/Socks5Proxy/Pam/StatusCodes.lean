import Socks5Proxy.Pam.Bodies
import Socks5Proxy.Pam.Removal
import Socks5Proxy.Server.PasswordChange

/-!
# The status of a request

Which status byte a request of the user methods is answered with, against what
it has done to the store.  The handlers of a changed password and a changed
role report a missing user each with a number of its own, and neither is the
one the protocol has for it.
-/

namespace Socks5Proxy

open Library

/-! ## What a status says -/

/-- The credentials are longer than the store takes. -/
def CredentialsTooLong (username password : CString) : Prop :=
  usersMaxUsernameLength ≤ username.bytes.length ∨ usersMaxPasswordLength ≤ password.bytes.length

instance (username password : CString) : Decidable (CredentialsTooLong username password) :=
  inferInstanceAs (Decidable (_ ∨ _))

/-- The status the protocol has for a request of an administrator. -/
def protocolStatus (store : UserStore) : UserRequest → UInt8
  | .addUser username password _ =>
    if CredentialsTooLong (textOf username) (textOf password) then pamRequestUserCredtoolong
    else if userGetIfExists store (textOf username).bytes ≠ none then pamRequestUserAlreadyExists
    else pamRequestSuccess
  | .removeUser username | .changePassword username _ | .changeRole username _ =>
    if userGetIfExists store (textOf username).bytes = none then pamRequestUserBadusername
    else pamRequestSuccess

/-- The store holds what the request asks for. -/
def Fulfilled (store : UserStore) : UserRequest → Prop
  | .addUser username password role =>
    ∃ user, userGetIfExists store (textOf username).bytes = some user ∧
      user.passwordString = (textOf password).bytes ∧ user.privilegeLevel = role.toUInt32
  | .removeUser username => userGetIfExists store (textOf username).bytes = none
  | .changePassword username newPassword =>
    ∃ user, userGetIfExists store (textOf username).bytes = some user ∧
      user.passwordString = (textOf newPassword).bytes
  | .changeRole username newRole =>
    ∃ user, userGetIfExists store (textOf username).bytes = some user ∧
      user.privilegeLevel = newRole.toUInt32

/-- The handler returns the status the protocol has for the request; the store
holds what was asked for if that is success, and is unchanged otherwise. -/
def ReportsOutcome (env : PamEnv) (s : PamSession) (buffer : Buffer) (r : UserRequest) : Prop :=
  ∃ t, handlePamRequestMethod env s buffer = .ok t ∧
    t.conn.request.status =
      (if userIsAdmin s.users s.requester.bytes = true then protocolStatus s.users r
        else pamRequestUnauthorized) ∧
    if t.conn.request.status = pamRequestSuccess then Fulfilled t.users r
    else t.users = s.users

/-! ## What a handler does -/

/-- The status byte for a status of `users.c`. -/
def UserOp.wireStatus (status : UserStatus) : UserOp → UInt8
  | create .. => addUserStatus status
  | remove _ => removeUserStatus status
  | changePassword .. => changePasswordStatus status
  | changeRole .. => changeRoleStatus status

section Handlers

variable {env : PamEnv} {s : PamSession} {buffer : Buffer} {op : UserOp}

theorem requestAddUser_eq (hadmin : userIsAdmin s.users s.conn.username = true)
    (username password : List UInt8) (role : UInt8) :
    requestAddUser env username password role s =
      ({ s.setStatus pamRequestSuccess with
        users := (userCreate s.users username password role.toUInt32 env.stack).1 }).setStatus
        (addUserStatus (userCreate s.users username password role.toUInt32 env.stack).2) := by
  simp [requestAddUser, hadmin]

theorem requestChangePassword_eq (hadmin : userIsAdmin s.users s.conn.username = true)
    (username newPassword : List UInt8) :
    requestChangePassword username newPassword s =
      ({ s.setStatus pamRequestSuccess with
        users := (userChangePassword s.users username newPassword).1 }).setStatus
        (changePasswordStatus (userChangePassword s.users username newPassword).2) := by
  simp [requestChangePassword, hadmin]

theorem requestChangeRole_eq (hadmin : userIsAdmin s.users s.conn.username = true)
    (username : List UInt8) (newRole : UInt8) :
    requestChangeRole username newRole s =
      ({ s.setStatus pamRequestSuccess with
        users := (userChangeRole s.users username newRole.toUInt32).1 }).setStatus
        (changeRoleStatus (userChangeRole s.users username newRole.toUInt32).2) := by
  simp [requestChangeRole, hadmin]

section Refused

variable (hadmin : userIsAdmin s.users s.conn.username = false)

include hadmin

theorem requestAddUser_of_not_admin (username password : List UInt8) (role : UInt8) :
    requestAddUser env username password role s =
      (s.setStatus pamRequestSuccess).setStatus pamRequestUnauthorized := by
  simp [requestAddUser, hadmin]

theorem requestChangePassword_of_not_admin (username newPassword : List UInt8) :
    requestChangePassword username newPassword s =
      (s.setStatus pamRequestSuccess).setStatus pamRequestUnauthorized := by
  simp [requestChangePassword, hadmin]

theorem requestChangeRole_of_not_admin (username : List UInt8) (newRole : UInt8) :
    requestChangeRole username newRole s =
      (s.setStatus pamRequestSuccess).setStatus pamRequestUnauthorized := by
  simp [requestChangeRole, hadmin]

end Refused

/-! ### The dispatch -/

theorem userIsAdmin_handling (s : PamSession) (buffer : Buffer) :
    userIsAdmin (s.handling buffer).users (s.handling buffer).conn.username =
      userIsAdmin s.users s.requester.bytes :=
  congrArg (userIsAdmin s.users) (Pam.username_congr rfl)

/-- For an administrator the handlers make the call the request stands for and
translate its status. -/
theorem handle_admin (hop : requestOp env s.conn.request.method buffer = some op)
    (hfits : ¬ Overruns s.conn.request.method buffer.content)
    (hadmin : userIsAdmin s.users s.requester.bytes = true)
    (hother : s.conn.request.method ≠ pamRequestMethodRemoveUser) :
    ∃ t, handlePamRequestMethod env s buffer = .ok t ∧ t.users = (op.apply s.users).1 ∧
      t.conn.request.status = op.wireStatus (op.apply s.users).2 := by
  have hguard := (userIsAdmin_handling s buffer).trans hadmin
  unfold requestOp at hop
  dsimp only at hop
  split_ifs at hop with hadd hpassword hrole
  · cases hop
    rw [dispatch_addUser_fits hfits hadd, requestAddUser_eq hguard]
    exact ⟨_, rfl, rfl, rfl⟩
  · cases hop
    rw [dispatch_changePassword_fits hfits hpassword, requestChangePassword_eq hguard]
    exact ⟨_, rfl, rfl, rfl⟩
  · cases hop
    rw [dispatch_changeRole_fits hfits hrole, requestChangeRole_eq hguard]
    exact ⟨_, rfl, rfl, rfl⟩

/-- Anybody else is refused. -/
theorem handle_unauthorized (hop : requestOp env s.conn.request.method buffer = some op)
    (hfits : ¬ Overruns s.conn.request.method buffer.content)
    (hadmin : userIsAdmin s.users s.requester.bytes = false) :
    ∃ t, handlePamRequestMethod env s buffer = .ok t ∧ t.users = s.users ∧
      t.conn.request.status = pamRequestUnauthorized := by
  have hguard := (userIsAdmin_handling s buffer).trans hadmin
  unfold requestOp at hop
  dsimp only at hop
  split_ifs at hop with hadd hremove hpassword hrole
  · rw [dispatch_addUser_fits hfits hadd, requestAddUser_of_not_admin hguard]
    exact ⟨_, rfl, rfl, rfl⟩
  · rw [dispatch_removeUser_fits hfits hremove, requestRemoveUser_of_not_admin hguard]
    exact ⟨_, rfl, rfl, rfl⟩
  · rw [dispatch_changePassword_fits hfits hpassword, requestChangePassword_of_not_admin hguard]
    exact ⟨_, rfl, rfl, rfl⟩
  · rw [dispatch_changeRole_fits hfits hrole, requestChangeRole_of_not_admin hguard]
    exact ⟨_, rfl, rfl, rfl⟩

end Handlers

/-! ## Complete requests -/

/-- The target of a change is there, and the cell behind a new password in its
array is zero. -/
def TargetReady (store : UserStore) : UserRequest → Prop
  | .addUser .. => True
  | .removeUser _ => True
  | .changePassword username newPassword =>
    ∃ user, userGetIfExists store (textOf username).bytes = some user ∧
      user.password[(textOf newPassword).bytes.length]? = some 0
  | .changeRole username _ => userGetIfExists store (textOf username).bytes ≠ none

section Complete

variable {store : UserStore} {r : UserRequest}

/-- A call returns the status of the protocol and has its effect. -/
def CallReports (store : UserStore) (r : UserRequest) (op : UserOp) : Prop :=
  op.wireStatus (op.apply store).2 = protocolStatus store r ∧
    if op.wireStatus (op.apply store).2 = pamRequestSuccess then Fulfilled (op.apply store).1 r
    else (op.apply store).1 = store

theorem addUser_reports (h : store.Ordered) (username password : List UInt8) (role : UInt8)
    (stack : UInt8 × UInt8) :
    CallReports store (.addUser username password role)
      (.create (textOf username) (textOf password) role.toUInt32 stack) := by
  generalize hop : UserOp.create (textOf username) (textOf password) role.toUInt32 stack = op
  have hcreate : op.apply store = userCreate store (textOf username).bytes (textOf password).bytes
      role.toUInt32 stack := by rw [← hop]; rfl
  have hwire : ∀ status, op.wireStatus status = addUserStatus status := by
    rw [← hop]
    exact fun _ => rfl
  rw [CallReports, hwire, hcreate, protocolStatus]
  by_cases hlong : CredentialsTooLong (textOf username) (textOf password)
  · have htoo : userCreate store (textOf username).bytes (textOf password).bytes role.toUInt32
        stack = (store, .credTooLong) := by
      rw [userCreate]
      rcases hlong with hlong | hlong
      · rw [if_pos hlong]
      · rw [if_pos hlong, ite_self]
    rw [htoo, if_pos hlong]
    exact ⟨rfl, rfl⟩
  · rw [if_neg hlong]
    obtain ⟨huname, hpass⟩ := not_or.mp hlong
    rcases hfind : userGetIfExists store (textOf username).bytes with _ | user
    · have hok : (userCreate store (textOf username).bytes (textOf password).bytes role.toUInt32
          stack).2 = .ok := by
        rw [userCreate, if_neg huname, if_neg hpass, hfind]
      have hfound := (userCreate_found h hok).2
      rw [hok, if_neg (by simp)]
      exact ⟨rfl, _, hfound, createdUser_password (Nat.not_le.mp hpass) _ _ _, rfl⟩
    · have hexists : userCreate store (textOf username).bytes (textOf password).bytes
          role.toUInt32 stack = (store, .alreadyExists) := by
        rw [userCreate, if_neg huname, if_neg hpass, hfind]
      rw [hexists, if_pos (by simp)]
      exact ⟨rfl, rfl⟩

/-- A missing user is reported with a number that is none of a request's. -/
theorem changePassword_reports_iff (h : store.Ordered) (username newPassword : List UInt8)
    (hlen : (textOf newPassword).bytes.length ≤ usersMaxPasswordLength) :
    CallReports store (.changePassword username newPassword)
        (.changePassword (textOf username) (textOf newPassword) hlen) ↔
      TargetReady store (.changePassword username newPassword) := by
  have hchange : (UserOp.changePassword (textOf username) (textOf newPassword) hlen).apply store =
    userChangePassword store (textOf username).bytes (textOf newPassword).bytes := rfl
  have hwire : ∀ status, (UserOp.changePassword (textOf username) (textOf newPassword)
    hlen).wireStatus status = changePasswordStatus status := fun _ => rfl
  rw [CallReports, hwire, hchange, protocolStatus, TargetReady]
  rcases hfind : userGetIfExists store (textOf username).bytes with _ | user
  · refine iff_of_false ?_ ?_
    · rw [userChangePassword, hfind]
      rintro ⟨hstatus, -⟩
      cases hstatus
    · rintro ⟨user, huser, -⟩
      cases huser
  · have hok : (userChangePassword store (textOf username).bytes
        (textOf newPassword).bytes).2 = .ok := by rw [userChangePassword, hfind]
    obtain ⟨old, hold, hnew⟩ := userChangePassword_found h hlen hok
    have huser : user.Shaped := shaped_of_found h hfind
    rw [hold, Option.some.injEq] at hfind
    subst hfind
    rw [hok, if_neg (by simp)]
    simp only [Option.some.injEq, exists_eq_left',
      ← overwritePassword_passwordString_iff huser hlen]
    have hsuccess : changePasswordStatus .ok = pamRequestSuccess := rfl
    rw [if_pos hsuccess]
    constructor
    · rintro ⟨-, user, huser, hpass⟩
      rw [hnew, Option.some.injEq] at huser
      rwa [huser]
    · intro hpass
      exact ⟨hsuccess, _, hnew, hpass⟩

theorem changeRole_reports_iff (h : store.Ordered) (username : List UInt8) (newRole : UInt8) :
    CallReports store (.changeRole username newRole)
        (.changeRole (textOf username) newRole.toUInt32) ↔
      TargetReady store (.changeRole username newRole) := by
  have hchange : (UserOp.changeRole (textOf username) newRole.toUInt32).apply store =
    userChangeRole store (textOf username).bytes newRole.toUInt32 := rfl
  have hwire : ∀ status, (UserOp.changeRole (textOf username) newRole.toUInt32).wireStatus status =
    changeRoleStatus status := fun _ => rfl
  rw [CallReports, hwire, hchange, protocolStatus, TargetReady]
  rcases hfind : userGetIfExists store (textOf username).bytes with _ | user
  · refine iff_of_false ?_ (by simp)
    rw [userChangeRole, hfind]
    rintro ⟨hstatus, -⟩
    cases hstatus
  · have hok : (userChangeRole store (textOf username).bytes newRole.toUInt32).2 = .ok := by
      rw [userChangeRole, hfind]
    obtain ⟨old, -, hnew⟩ := userChangeRole_found h hok
    have hsuccess : changeRoleStatus .ok = pamRequestSuccess := rfl
    rw [hok, if_neg (by simp), if_pos hsuccess]
    exact iff_of_true ⟨hsuccess, _, hnew, rfl⟩ (by simp)

/-- The call of a complete request reports as the protocol says exactly if its
target is ready. -/
theorem callReports_iff (h : store.Ordered) (hr : r.Encodable)
    (hother : r.method ≠ pamRequestMethodRemoveUser) (stack : UInt8 × UInt8) :
    CallReports store r (r.op stack hr) ↔ TargetReady store r := by
  rcases r with ⟨username, password, role⟩ | username | ⟨username, newPassword⟩ |
    ⟨username, newRole⟩
  · exact iff_of_true (addUser_reports h username password role stack) trivial
  · exact absurd rfl hother
  · exact changePassword_reports_iff h username newPassword _
  · exact changeRole_reports_iff h username newRole

end Complete

theorem reportsOutcome_iff_of_fits {ops : List UserOp} {env : PamEnv} {s : PamSession} {buffer : Buffer}
    {r : UserRequest} (hrun : run userStep usersInit ops = .ok s.users)
    (hbody : parseBody s.conn.request.method buffer.content = some r)
    (hfits : ¬ Overruns s.conn.request.method buffer.content)
    (hother : s.conn.request.method ≠ pamRequestMethodRemoveUser) :
    ReportsOutcome env s buffer r ↔
      (userIsAdmin s.users s.requester.bytes = true → TargetReady s.users r) := by
  have hordered := ordered_of_run hrun
  obtain ⟨hmethod, hr, hop⟩ := requestOp_of_parseBody env hbody
  cases hadmin : userIsAdmin s.users s.requester.bytes with
  | false =>
      obtain ⟨t, ht, husers, hstatus⟩ := handle_unauthorized hop hfits hadmin
      refine iff_of_true ⟨t, ht, ?_, ?_⟩ (by simp)
      · rw [hadmin]
        exact hstatus
      · rw [hstatus]
        exact husers
  | true =>
      obtain ⟨t, ht, husers, hstatus⟩ := handle_admin hop hfits hadmin hother
      have hcall : ReportsOutcome env s buffer r ↔
          CallReports s.users r (r.op env.stack hr) := by
        rw [ReportsOutcome, CallReports, hadmin, ← hstatus, ← husers]
        constructor
        · rintro ⟨t', ht', hreports⟩
          obtain rfl := Except.ok.inj (ht.symm.trans ht')
          exact hreports
        · intro hreports
          exact ⟨t, ht, hreports⟩
      rw [hcall, callReports_iff hordered hr (hmethod ▸ hother)]
      exact ⟨fun h _ => h, fun h => h rfl⟩

/-- A complete request to add a user, change a password or change a role is
answered and carried out as the protocol says, unless a string overruns its
array or an administrator asks for a user that is not there or for a password
shorter than an earlier one. -/
theorem reportsOutcome_iff {ops : List UserOp} {env : PamEnv} {s : PamSession} {buffer : Buffer}
    {r : UserRequest} (hrun : run userStep usersInit ops = .ok s.users)
    (hbody : parseBody s.conn.request.method buffer.content = some r)
    (hother : s.conn.request.method ≠ pamRequestMethodRemoveUser) :
    ReportsOutcome env s buffer r ↔
      ¬ Overruns s.conn.request.method buffer.content ∧
        (userIsAdmin s.users s.requester.bytes = true → TargetReady s.users r) := by
  by_cases hoverruns : Overruns s.conn.request.method buffer.content
  · refine iff_of_false ?_ fun h => h.1 hoverruns
    rintro ⟨t, ht, -⟩
    exact fits_of_handled ht hoverruns
  · rw [reportsOutcome_iff_of_fits hrun hbody hoverruns hother, and_iff_right hoverruns]

/-- The session and the buffer of the default administrator's request on a
fresh store. -/
def adminHandles (method : UInt16) (body : List UInt8) : Except Fault PamSession :=
  handlePamRequestMethod default ((adminRequest method body).on usersInit)
    (adminRequest method body).buffer

/-- `CHANGE_ROLE` for the user `a`, who does not exist, is answered with the
status of a user that exists. -/
theorem changeRole_of_nobody_misreported :
    ∃ s buffer r, run userStep usersInit [] = .ok s.users ∧
      parseBody s.conn.request.method buffer.content = some r ∧
      s.conn.request.method ≠ pamRequestMethodRemoveUser ∧
      ¬ ReportsOutcome default s buffer r := by
  refine ⟨(adminRequest pamRequestMethodChangeRole [1, 97, 1]).on usersInit,
    (adminRequest pamRequestMethodChangeRole [1, 97, 1]).buffer, .changeRole [97] 1, rfl,
    by decide +kernel, by decide, ?_⟩
  rintro ⟨t, ht, hstatus, -⟩
  have hcode : (adminHandles pamRequestMethodChangeRole [1, 97, 1]).toOption.map
      (·.conn.request.status) = some pamRequestUserAlreadyExists := by decide +kernel
  have hexpected : (if userIsAdmin ((adminRequest pamRequestMethodChangeRole [1, 97, 1]).on
        usersInit).users ((adminRequest pamRequestMethodChangeRole [1, 97, 1]).on
        usersInit).requester.bytes = true
      then protocolStatus usersInit (.changeRole [97] 1) else pamRequestUnauthorized) =
      pamRequestUserBadusername := by decide +kernel
  rw [adminHandles, ht] at hcode
  have hsent : t.conn.request.status = pamRequestUserAlreadyExists := Option.some.inj hcode
  exact absurd (hexpected.symm.trans (hstatus.symm.trans hsent)) (by decide)

/-- `ADD_USER` for the user `a` with the password `b` and the role 1. -/
theorem reportsOutcome_iff_addUser :
    ReportsOutcome default
      ((adminRequest pamRequestMethodAddUser [1, 97, 1, 98, 1]).on usersInit)
      (adminRequest pamRequestMethodAddUser [1, 97, 1, 98, 1]).buffer
      (.addUser [97] [98] 1) := by
  have hrun : run userStep usersInit [] =
      .ok ((adminRequest pamRequestMethodAddUser [1, 97, 1, 98, 1]).on usersInit).users := rfl
  exact (reportsOutcome_iff hrun (by decide +kernel) (by decide)).mpr
    ⟨by decide +kernel, fun _ => trivial⟩

end Socks5Proxy
