import Socks5Proxy.Pam.Fields
import Socks5Proxy.Server.AdminCounter

/-!
# Requests on the user store

What a management request makes of the user store, as a call of `users.c`, and
whether an administrator is left.
-/

namespace Socks5Proxy

open Library

/-! ## Requests as calls -/

/-- The user a management connection acts for. -/
def PamSession.requester (s : PamSession) : CString where
  bytes := s.conn.username
  noNul := by
    unfold Pam.username
    exact zero_notMem_cString _

theorem requester_bytes (s : PamSession) : s.requester.bytes = s.conn.username := rfl

theorem requester_congr {s t : PamSession}
    (h : t.conn.auth.credentials = s.conn.auth.credentials) : t.requester = s.requester := by
  rw [CString.ext_iff]
  exact Pam.username_congr h

/-- The call a request of an administrator leads to. -/
def requestOp (env : PamEnv) (method : UInt16) (buffer : Buffer) : Option UserOp :=
  let rest := (fieldText buffer).2
  if method = pamRequestMethodAddUser then
    some (.create (stringAt buffer) (stringAt rest)
      (bufferRead (fieldText rest).2).1.toUInt32 env.stack)
  else if method = pamRequestMethodRemoveUser then
    some (.remove (stringAt buffer))
  else if method = pamRequestMethodChangePassword then
    some (.changePassword (stringAt buffer) (stringAt rest) (length_fieldText_le rest))
  else if method = pamRequestMethodChangeRole then
    some (.changeRole (stringAt buffer) (bufferRead rest).1.toUInt32)
  else
    none

section Effect

variable {env : PamEnv} {s t : PamSession} {buffer : Buffer}

/-- What a request does to the user store. -/
inductive StoreEffect (env : PamEnv) (s : PamSession) (buffer : Buffer) (users : UserStore) : Prop
  | kept (husers : users = s.users)
  | applied (op : UserOp) (hop : requestOp env s.conn.request.method buffer = some op)
      (hadmin : userIsAdmin s.users s.conn.username = true)
      (hother : ∀ n, op = .remove n → n ≠ s.requester)
      (husers : users = (op.apply s.users).1)

theorem requestAddUser_users (username password : List UInt8) (role : UInt8) :
    (requestAddUser env username password role s).users =
      if userIsAdmin s.users s.conn.username = false then s.users
      else (userCreate s.users username password role.toUInt32 env.stack).1 := by
  cases hadmin : userIsAdmin s.users s.conn.username <;> simp [requestAddUser, hadmin]

theorem requestChangePassword_users (username newPassword : List UInt8) :
    (requestChangePassword username newPassword s).users =
      if userIsAdmin s.users s.conn.username = false then s.users
      else (userChangePassword s.users username newPassword).1 := by
  cases hadmin : userIsAdmin s.users s.conn.username <;> simp [requestChangePassword, hadmin]

theorem requestChangeRole_users (username : List UInt8) (newRole : UInt8) :
    (requestChangeRole username newRole s).users =
      if userIsAdmin s.users s.conn.username = false then s.users
      else (userChangeRole s.users username newRole.toUInt32).1 := by
  cases hadmin : userIsAdmin s.users s.conn.username <;> simp [requestChangeRole, hadmin]

theorem removeOther_users (username : CString) :
    (removeOther username.bytes s).users =
      if username = s.requester then s.users else (userRemove s.users username.bytes).1 := by
  have hsame : strcmp s.conn.username username.bytes = 0 ↔ username = s.requester := by
    rw [CString.ext_iff, requester_bytes, eq_comm (a := username.bytes)]
    exact strcmp_eq_zero_iff s.requester.noNul username.noNul
  rw [removeOther]
  split_ifs with hzero heq heq
  · rfl
  · exact absurd (hsame.mp hzero) heq
  · exact absurd (hsame.mpr heq) hzero
  · rfl

/-- The ways through the guard. -/
theorem requestRemoveUser_cases {username : List UInt8}
    (h : requestRemoveUser username s = .ok t) :
    t.users = s.users ∨
      (userIsAdmin s.users s.conn.username = true ∧
        t = removeOther username (s.setStatus pamRequestSuccess)) := by
  unfold requestRemoveUser at h
  dsimp only at h
  generalize hu : s.setStatus pamRequestSuccess = u at h ⊢
  have husers : u.users = s.users := by rw [← hu]; rfl
  have hname : u.conn.username = s.conn.username := by
    rw [← hu]
    exact PamSession.setStatus_username s _
  rw [← husers, ← hname]
  have hdenied : ∀ v, .ok (u.setStatus pamRequestUnauthorized) = Except.ok (ε := Fault) v →
      v.users = u.users := by
    intro v hv
    rw [← Except.ok.inj hv]
    rfl
  split_ifs at h with hadmin htotal
  · exact .inl (hdenied t h)
  · rw [Bool.not_eq_false] at hadmin
    rcases hfind : userGetIfExists u.users username with _ | user
    · rw [hfind] at h
      cases h
    · rw [hfind] at h
      dsimp only at h
      split_ifs at h
      · exact .inl (hdenied t h)
      · exact .inr ⟨hadmin, (Except.ok.inj h).symm⟩
  · rw [Bool.not_eq_false] at hadmin
    exact .inr ⟨hadmin, (Except.ok.inj h).symm⟩

/-- An administrator removes another user only. -/
theorem requestRemoveUser_users {username : CString}
    (h : requestRemoveUser username.bytes s = .ok t) :
    t.users = s.users ∨
      (userIsAdmin s.users s.conn.username = true ∧ username ≠ s.requester ∧
        t.users = (userRemove s.users username.bytes).1) := by
  rcases requestRemoveUser_cases h with hkept | ⟨hadmin, rfl⟩
  · exact .inl hkept
  · have husers := removeOther_users (s := s.setStatus pamRequestSuccess) username
    generalize hu : s.setStatus pamRequestSuccess = u at husers ⊢
    have hrequester : u.requester = s.requester := by
      rw [← hu]
      exact requester_congr rfl
    have hstore : u.users = s.users := by rw [← hu]; rfl
    rw [hrequester, hstore] at husers
    by_cases hsame : username = s.requester
    · rw [if_pos hsame] at husers
      exact .inl husers
    · rw [if_neg hsame] at husers
      exact .inr ⟨hadmin, hsame, husers⟩

theorem handleGetConnectedUsersList_users (h : handleGetConnectedUsersList s = .ok t) :
    t.users = s.users := by
  unfold handleGetConnectedUsersList at h
  dsimp only at h
  split at h
  · cases h
  · split_ifs at h
    · rw [← Except.ok.inj h]
      rfl
    · rw [← Except.ok.inj h]

theorem storeEffect (h : handlePamRequestMethod env s buffer = .ok t) :
    StoreEffect env s buffer t.users := by
  have hfits := fits_of_handled h
  have husers : (s.handling buffer).users = s.users := rfl
  have hname : (s.handling buffer).conn.username = s.conn.username := Pam.username_congr rfl
  have hrequester : (s.handling buffer).requester = s.requester := requester_congr rfl
  by_cases hadd : s.conn.request.method = pamRequestMethodAddUser
  · rw [dispatch_addUser_fits hfits hadd] at h
    rw [← Except.ok.inj h, requestAddUser_users, husers, hname]
    split_ifs with hadmin
    · exact .kept rfl
    · exact .applied _ (if_pos hadd) (by simpa using hadmin) nofun rfl
  · by_cases hremove : s.conn.request.method = pamRequestMethodRemoveUser
    · rw [dispatch_removeUser_fits hfits hremove] at h
      rcases requestRemoveUser_users h with hkept | ⟨hadmin, hother, hremoved⟩
      · exact .kept hkept
      · rw [hname] at hadmin
        rw [hrequester] at hother
        refine .applied (.remove (stringAt buffer)) ?_ hadmin ?_ hremoved
        · rw [requestOp, hremove]
          rfl
        · rintro n ⟨rfl⟩
          exact hother
    · by_cases hpassword : s.conn.request.method = pamRequestMethodChangePassword
      · rw [dispatch_changePassword_fits hfits hpassword] at h
        rw [← Except.ok.inj h, requestChangePassword_users, husers, hname]
        split_ifs with hadmin
        · exact .kept rfl
        · refine .applied (.changePassword (stringAt buffer) (stringAt (fieldText buffer).2)
            (length_fieldText_le _)) ?_ (by simpa using hadmin) nofun rfl
          rw [requestOp, hpassword]
          rfl
      · by_cases hrole : s.conn.request.method = pamRequestMethodChangeRole
        · rw [dispatch_changeRole_fits hfits hrole] at h
          rw [← Except.ok.inj h, requestChangeRole_users, husers, hname]
          split_ifs with hadmin
          · exact .kept rfl
          · refine .applied (.changeRole (stringAt buffer)
              (bufferRead (fieldText buffer).2).1.toUInt32) ?_ (by simpa using hadmin) nofun rfl
            rw [requestOp, hrole]
            rfl
        · refine .kept (Eq.trans ?_ husers)
          rw [handlePamRequestMethod, if_neg hadd, if_neg hremove, if_neg hpassword,
            if_neg hrole] at h
          change (if _ then handleGetConnectedUsersList (s.handling buffer) else
            if _ then .ok (handleGetMetrics env (s.handling buffer)) else
              .ok (handleUnknownMethod (s.handling buffer))) = _ at h
          split_ifs at h
          · exact handleGetConnectedUsersList_users h
          · rw [← Except.ok.inj h]
            unfold handleGetMetrics
            dsimp only
            split_ifs <;> rfl
          · rw [← Except.ok.inj h]
            rfl

theorem requestOp_changeRole_iff {op : UserOp} {n : CString} {newRole : UserPrivilegeLevel}
    (hop : requestOp env s.conn.request.method buffer = some op) (h : op = .changeRole n newRole) :
    s.conn.request.method = pamRequestMethodChangeRole ∧ n = stringAt buffer ∧
      newRole = (bufferRead (fieldText buffer).2).1.toUInt32 := by
  subst h
  unfold requestOp at hop
  dsimp only at hop
  split_ifs at hop with hadd hremove hpassword hrole
  · cases hop
  · cases hop
  · cases hop
  · cases hop
    exact ⟨hrole, rfl, rfl⟩

theorem handle_changeRole (env : PamEnv) (buffer : Buffer)
    (hmethod : s.conn.request.method = pamRequestMethodChangeRole)
    (hfits : ¬ Overruns s.conn.request.method buffer.content)
    (hadmin : userIsAdmin s.users s.conn.username = true) :
    ∃ t, handlePamRequestMethod env s buffer = .ok t ∧
      t.users = ((UserOp.changeRole (stringAt buffer)
        (bufferRead (fieldText buffer).2).1.toUInt32).apply s.users).1 := by
  refine ⟨_, dispatch_changeRole_fits hfits hmethod, ?_⟩
  rw [requestChangeRole_users, if_neg]
  · rfl
  · rw [Bool.not_eq_false, ← hadmin]
    exact congrArg (userIsAdmin s.users) (Pam.username_congr rfl)

end Effect

/-! ## Whether an administrator is left -/

def HasAdmin (store : UserStore) : Prop :=
  ∃ user ∈ store.usersList.nodes, user.privilegeLevel = userPrivilegeAdmin

/-- A request as the handlers find it: the connection it came in on and the
buffer that holds its body. -/
structure PamRequest where
  env : PamEnv
  session : PamSession
  buffer : Buffer

/-- The session of the request, with the user store as it is now. -/
def PamRequest.on (r : PamRequest) (store : UserStore) : PamSession :=
  { r.session with users := store }

/-- One request on the user store. -/
def pamRequestStep (store : UserStore) (r : PamRequest) : Except Fault UserStore :=
  match handlePamRequestMethod r.env (r.on store) r.buffer with
  | .error fault => .error fault
  | .ok t => .ok t.users

/-- The only administrator asks for another role for itself, with a name that
fits its array. -/
def DemotesLastAdmin (store : UserStore) (r : PamRequest) : Prop :=
  r.session.conn.request.method = pamRequestMethodChangeRole ∧
    ¬ Overruns pamRequestMethodChangeRole r.buffer.content ∧
    userIsAdmin store r.session.conn.username = true ∧ stringAt r.buffer = r.session.requester ∧
    (bufferRead (fieldText r.buffer).2).1.toUInt32 ≠ userPrivilegeAdmin ∧ adminsOf store = 1

section LastAdmin

variable {store : UserStore} {op : UserOp} {n : CString}

theorem hasAdmin_iff : HasAdmin store ↔ 0 < adminsOf store := by
  rw [adminsOf, List.countP_pos_iff]
  simp [HasAdmin]

theorem hasAdmin_of_userIsAdmin (h : userIsAdmin store n.bytes = true) : HasAdmin store := by
  rw [userIsAdmin] at h
  split at h
  · next user hfind =>
      exact ⟨user, List.mem_of_find?_eq_some hfind, by simpa using h⟩
  · cases h

theorem userIsAdmin_congr {store' : UserStore}
    (h : userGetIfExists store' n.bytes = userGetIfExists store n.bytes) :
    userIsAdmin store' n.bytes = userIsAdmin store n.bytes := by
  rw [userIsAdmin, userIsAdmin, h]

/-- Whoever is not the target of a call stays an administrator. -/
theorem hasAdmin_apply_of_ne (h : store.Ordered) (hadmin : userIsAdmin store n.bytes = true)
    (hne : n ≠ op.username) : HasAdmin (op.apply store).1 := by
  refine hasAdmin_of_userIsAdmin (n := n) ?_
  rw [userIsAdmin_congr (op.lookup_ne h hne), hadmin]

theorem hasAdmin_create (h : store.Ordered) (hadmin : HasAdmin store) (password : CString)
    (pl : UserPrivilegeLevel) (stack : UInt8 × UInt8) :
    HasAdmin ((UserOp.create n password pl stack).apply store).1 := by
  obtain ⟨-, -, heffect⟩ := (UserOp.create n password pl stack).apply_spec h
  rw [hasAdmin_iff] at hadmin ⊢
  split_ifs at heffect
  · obtain ⟨user, hadded, -⟩ := heffect
    rw [hadded.adminsOf]
    omega
  · rw [heffect]
    exact hadmin

theorem hasAdmin_changePassword (h : store.Ordered) (hadmin : HasAdmin store)
    (newPassword : CString) (hlen : newPassword.bytes.length ≤ usersMaxPasswordLength) :
    HasAdmin ((UserOp.changePassword n newPassword hlen).apply store).1 := by
  obtain ⟨-, -, heffect⟩ := (UserOp.changePassword n newPassword hlen).apply_spec h
  rw [hasAdmin_iff] at hadmin ⊢
  split_ifs at heffect
  · obtain ⟨user, hreplaced, -⟩ := heffect
    have hadmins := hreplaced.adminsOf
    change _ + adminShare user = _ + adminShare user at hadmins
    omega
  · rw [heffect]
    exact hadmin

/-- An administrator that gives itself a role. -/
theorem hasAdmin_changeRole_iff (h : store.Ordered) (hadmin : userIsAdmin store n.bytes = true)
    (newRole : UserPrivilegeLevel) :
    HasAdmin ((UserOp.changeRole n newRole).apply store).1 ↔
      ¬ (newRole ≠ userPrivilegeAdmin ∧ adminsOf store = 1) := by
  obtain ⟨-, hstatus, heffect⟩ := (UserOp.changeRole n newRole).apply_spec h
  rw [userIsAdmin] at hadmin
  split at hadmin
  · next found hfind =>
      rw [if_pos (hstatus.mpr (by simp [hfind]))] at heffect
      obtain ⟨user, hreplaced, rfl⟩ := heffect
      have hadmins := hreplaced.adminsOf
      obtain ⟨l₁, l₂, hnodes, -⟩ := hreplaced
      have hfound : found = user :=
        Option.some.inj (hfind.symm.trans (h.lookup_middle hnodes).1)
      have hshare : adminShare user = 1 := by
        rw [hfound] at hadmin
        rw [adminShare, if_pos (by simpa using hadmin)]
      rw [hshare] at hadmins
      rw [hasAdmin_iff]
      by_cases hrole : newRole = userPrivilegeAdmin
      · have hshare' : adminShare { user with privilegeLevel := newRole } = 1 := if_pos hrole
        rw [hshare'] at hadmins
        have huserAdmin : userIsAdmin store user.name.bytes = true := by
          rw [userIsAdmin, hfind]
          exact hadmin
        have hpos := hasAdmin_iff.mp
          (hasAdmin_of_userIsAdmin (n := user.name) huserAdmin)
        simp only [hrole, ne_eq, not_true_eq_false, false_and, not_false_eq_true, iff_true]
        rw [hrole] at hadmins
        omega
      · have hshare' : adminShare { user with privilegeLevel := newRole } = 0 := if_neg hrole
        rw [hshare'] at hadmins
        simp only [hrole, ne_eq, not_false_eq_true, true_and]
        omega
  · cases hadmin

theorem pamRequestStep_ok {t : UserStore} {r : PamRequest} (h : pamRequestStep store r = .ok t) :
    ¬ Overruns r.session.conn.request.method r.buffer.content ∧
      StoreEffect r.env (r.on store) r.buffer t := by
  unfold pamRequestStep at h
  split at h
  · cases h
  · next u hu =>
      have hfits := fits_of_handled hu
      rw [← Except.ok.inj h]
      exact ⟨hfits, storeEffect hu⟩

/-- A request leaves an administrator unless it demotes the last one. -/
theorem hasAdmin_pamRequestStep_iff (h : store.Ordered) (hadmin : HasAdmin store)
    (r : PamRequest) :
    (∀ t, pamRequestStep store r = .ok t → HasAdmin t) ↔ ¬ DemotesLastAdmin store r := by
  have hrequester : (r.on store).requester = r.session.requester := requester_congr rfl
  constructor
  · rintro hkeeps ⟨hmethod, hfits, hrequesterAdmin, hself, hrole, hone⟩
    rw [← hmethod] at hfits
    obtain ⟨u, hu, husers⟩ := handle_changeRole r.env r.buffer (s := r.on store) hmethod hfits (by
        rw [← requester_bytes, hrequester]
        exact hrequesterAdmin)
    have hlast := hkeeps u.users (by rw [pamRequestStep, hu])
    rw [husers, hself] at hlast
    exact (hasAdmin_changeRole_iff h hrequesterAdmin _).mp hlast ⟨hrole, hone⟩
  · intro hnot t ht
    obtain ⟨hfits, heffect⟩ := pamRequestStep_ok ht
    rcases heffect with hkept | ⟨op, hop, hrequesterAdmin, hother, hop'⟩
    · rw [hkept]
      exact hadmin
    · rw [← requester_bytes, hrequester] at hrequesterAdmin
      rw [hop']
      rcases hcall : op with ⟨username, password, pl, stack⟩ | username |
        ⟨username, newPassword, hlen⟩ | ⟨username, newRole⟩
      · exact hasAdmin_create h hadmin password pl stack
      · have hne := hother username hcall
        rw [hrequester] at hne
        exact hasAdmin_apply_of_ne h hrequesterAdmin hne.symm
      · exact hasAdmin_changePassword h hadmin newPassword hlen
      · by_cases hself : r.session.requester = username
        · subst hself
          obtain ⟨hmethod, hname, hrole⟩ := requestOp_changeRole_iff hop hcall
          change HasAdmin ((UserOp.changeRole r.session.requester newRole).apply store).1
          rw [hasAdmin_changeRole_iff h hrequesterAdmin]
          rintro ⟨hne, hone⟩
          rw [hrole] at hne
          rw [show r.session.conn.request.method = _ from hmethod] at hfits
          exact hnot ⟨hmethod, hfits, hrequesterAdmin, hname.symm, hne, hone⟩
        · exact hasAdmin_apply_of_ne h hrequesterAdmin hself

end LastAdmin

/-- Whatever requests are made by whomever, an administrator is left at every
moment exactly when no request demotes the last one. -/
theorem hasAdmin_iff_never_demoted (requests : List PamRequest) :
    Always pamRequestStep HasAdmin usersInit requests ↔
      Steps pamRequestStep (fun store r => ¬ DemotesLastAdmin store r) usersInit requests := by
  refine always_iff_steps (I := UserStore.Ordered) ?_ usersInit_ordered
    ⟨adminUser, by simp [usersInit_nodes], rfl⟩
  intro store r h hadmin
  refine ⟨?_, hasAdmin_pamRequestStep_iff h hadmin r⟩
  intro t ht
  rcases (pamRequestStep_ok ht).2 with hkept | ⟨op, -, -, -, hop⟩
  · rw [hkept]
    exact h
  · rw [hop]
    exact (op.apply_spec h).1

/-- A request of the administrator with this method and this body. -/
def adminRequest (method : UInt16) (body : List UInt8) : PamRequest where
  env := default
  session :=
    { (default : PamSession) with
      conn.auth.credentials := Library.Memory.store (fun _ => 0) 0 adminName.bytes
      conn.request.method := method }
  buffer := (bufferRecv (bufferInit pamBufferSize fun _ => 0) (some body)).2

/-- The user store after one request. -/
def storeAfter (r : PamRequest) : UserStore :=
  (pamRequestStep usersInit r).toOption.getD usersInit

/-- `CHANGE_ROLE` with the name `admin` and the role 1. -/
def selfDemotion : PamRequest :=
  adminRequest pamRequestMethodChangeRole [5, 97, 100, 109, 105, 110, 1]

/-- The administrator makes itself a user, and none is left. -/
theorem selfDemotion_leaves_none :
    ∃ store, pamRequestStep usersInit selfDemotion = .ok store ∧ ¬ HasAdmin store := by
  have hok : (pamRequestStep usersInit selfDemotion).toOption.isSome = true := by decide +kernel
  have hnone : adminsOf (storeAfter selfDemotion) = 0 := by decide +kernel
  rw [storeAfter] at hnone
  rcases hstep : pamRequestStep usersInit selfDemotion with fault | store
  · rw [hstep] at hok
    cases hok
  · rw [hstep] at hnone
    refine ⟨store, rfl, ?_⟩
    rw [hasAdmin_iff]
    exact Nat.not_lt_of_le (Nat.le_of_eq hnone)

end Socks5Proxy
