import Socks5Proxy.Server.UserMap

/-!
# Changing a password

`user_change_password` copies the new bytes over the old ones without their
terminator.  What a cell of the array holds depends on the longest password the
user has had: a shorter one keeps the end of a longer one.
-/

namespace Socks5Proxy

open Library

/-! ## The passwords a user has had -/

/-- The passwords its user has had since its creation, after a call that
succeeded. -/
def UserOp.passwords (had : List CString) : UserOp → List CString
  | create _ password _ _ => [password]
  | remove _ => []
  | changePassword _ newPassword _ => had ++ [newPassword]
  | changeRole _ _ => had

/-- The passwords of each user after a call. -/
def recordPassword (store : UserStore) (op : UserOp) (had : CString → List CString)
    (n : CString) : List CString :=
  if n = op.username ∧ (op.apply store).2 = .ok then op.passwords (had n) else had n

/-- The passwords after some calls, if the users had `had` before them. -/
def passwordsFrom (store : UserStore) (had : CString → List CString) :
    List UserOp → CString → List CString
  | [] => had
  | op :: ops => passwordsFrom (op.apply store).1 (recordPassword store op had) ops

/-- The passwords a user has had since its creation; the one of the default
administrator is its name. -/
def passwordsHad (ops : List UserOp) : CString → List CString :=
  passwordsFrom usersInit (fun n => if n = adminName then [adminName] else []) ops

/-- The password of `username` is `newPassword` and nothing else has changed. -/
def TakesEffect (username newPassword : CString) (store store' : UserStore) : Prop :=
  (∀ q : CString, userAuthenticate store' username.bytes q.bytes = .ok ↔ q = newPassword) ∧
    ∀ v : CString, v ≠ username → ∀ q : CString,
      userAuthenticate store' v.bytes q.bytes = userAuthenticate store v.bytes q.bytes

/-! ## Authentication -/

section Authentication

variable {store store' : UserStore} {user : User} {n q : CString}

theorem userAuthenticate_ok_iff (h : userGetIfExists store n.bytes = some user) :
    userAuthenticate store n.bytes q.bytes = .ok ↔ user.passwordString = q.bytes := by
  have hzero : strcmp user.passwordString q.bytes = 0 ↔ user.passwordString = q.bytes :=
    strcmp_eq_zero_iff (zero_notMem_cString _) q.noNul
  rw [userAuthenticate, h]
  simp only [ne_eq, hzero]
  split_ifs with heq <;> simp [heq]

theorem userAuthenticate_congr
    (h : userGetIfExists store' n.bytes = userGetIfExists store n.bytes) :
    userAuthenticate store' n.bytes q.bytes = userAuthenticate store n.bytes q.bytes := by
  rw [userAuthenticate, userAuthenticate, h]

end Authentication

/-! ## The cells of the array -/

section Cells

variable {store : UserStore} {user : User} {username newPassword : CString}

theorem cString_append {bytes rest : List UInt8} (h : 0 ∉ bytes) :
    cString (bytes ++ rest) = bytes ++ cString rest := by
  rw [cString, List.takeWhile_append_of_pos]
  · rfl
  · intro byte hbyte
    simp only [bne_iff_ne, ne_eq]
    rintro rfl
    exact h hbyte

theorem cString_eq_nil_iff {byte : UInt8} {rest : List UInt8} :
    cString (byte :: rest) = [] ↔ byte = 0 := by
  by_cases hbyte : byte = 0 <;> simp [cString, hbyte]

/-- The new password is the one stored if the cell behind it is zero. -/
theorem overwritePassword_passwordString_iff (huser : user.Shaped)
    (hlen : newPassword.bytes.length ≤ usersMaxPasswordLength) :
    (overwritePassword newPassword.bytes user).passwordString = newPassword.bytes ↔
      user.password[newPassword.bytes.length]? = some 0 := by
  have hcell : newPassword.bytes.length < user.password.length := by
    rw [huser.password]
    exact Nat.lt_succ_of_le hlen
  change cString (newPassword.bytes ++ user.password.drop newPassword.bytes.length ++ _) = _ ↔ _
  rw [List.append_assoc, cString_append newPassword.noNul, List.append_right_eq_self,
    List.drop_eq_getElem_cons hcell, List.cons_append, cString_eq_nil_iff,
    List.getElem?_eq_getElem hcell, Option.some.injEq]

/-- A cell behind the new bytes keeps what it held, the others are not zero. -/
theorem overwritePassword_cell_iff {i : ℕ} :
    (overwritePassword newPassword.bytes user).password[i]? = some 0 ↔
      newPassword.bytes.length ≤ i ∧ user.password[i]? = some 0 := by
  rw [overwritePassword, List.getElem?_append]
  split_ifs with hi
  · refine iff_of_false ?_ fun h => absurd hi (Nat.not_lt.mpr h.1)
    intro hzero
    exact newPassword.noNul (List.mem_of_getElem? hzero)
  · have hle := Nat.not_lt.mp hi
    rw [List.getElem?_drop, Nat.add_sub_cancel' hle]
    exact ⟨fun h => ⟨hle, h⟩, fun h => h.2⟩

/-- `strncpy` zeroes what is behind the password. -/
theorem createdUser_cell_iff (username : List UInt8) (password : CString)
    (pl : UserPrivilegeLevel) (stack : UInt8 × UInt8) {i : ℕ}
    (hlen : password.bytes.length < usersMaxPasswordLength) (hi : i < usersMaxPasswordLength) :
    (createdUser username password.bytes pl stack).password[i]? = some 0 ↔
      password.bytes.length ≤ i := by
  have hsplit : (createdUser username password.bytes pl stack).password =
      password.bytes ++
        (List.replicate (usersMaxPasswordLength - password.bytes.length) 0 ++ [stack.2]) := by
    have hle : password.bytes.length ≤ usersMaxPasswordLength - 1 := Nat.le_sub_one_of_lt hlen
    have hcells : usersMaxPasswordLength - password.bytes.length =
        (usersMaxPasswordLength - 1 - password.bytes.length) + 1 := by omega
    change strncpy password.bytes (usersMaxPasswordLength - 1) ++ [0, stack.2] = _
    rw [strncpy, List.take_of_length_le hle, hcells, List.replicate_succ']
    simp
  rw [hsplit, List.getElem?_append]
  split_ifs with hbefore
  · refine iff_of_false ?_ (Nat.not_le.mpr hbefore)
    intro hzero
    exact password.noNul (List.mem_of_getElem? hzero)
  · have hle := Nat.not_lt.mp hbefore
    refine iff_of_true ?_ hle
    rw [List.getElem?_append_left (by rw [List.length_replicate]; omega),
      List.getElem?_replicate_of_lt (by omega)]

end Cells

/-! ## What the store remembers -/

/-- A cell of a user's array is zero exactly if no password the user has had
reaches it. -/
def Remembers (had : CString → List CString) (store : UserStore) : Prop :=
  ∀ (n : CString) (user : User), userGetIfExists store n.bytes = some user →
    ∀ i < usersMaxPasswordLength,
      user.password[i]? = some 0 ↔ ∀ old ∈ had n, old.bytes.length ≤ i

section Remembering

variable {store : UserStore} {had : CString → List CString}

/-- What one call does to the cells. -/
theorem Remembers.apply (h : Remembers had store) (hordered : store.Ordered) (op : UserOp) :
    Remembers (recordPassword store op had) (op.apply store).1 := by
  intro n user hfound i hi
  by_cases hcall : n = op.username ∧ (op.apply store).2 = .ok
  · rw [recordPassword, if_pos hcall]
    obtain ⟨rfl, hok⟩ := hcall
    rcases op with ⟨username, password, pl, stack⟩ | username |
      ⟨username, newPassword, hlen⟩ | ⟨username, newRole⟩
    · obtain ⟨hpass, hnew⟩ := userCreate_found hordered hok
      obtain rfl := Option.some.inj (hnew.symm.trans hfound)
      rw [createdUser_cell_iff username.bytes password pl stack hpass hi]
      change _ ↔ ∀ old ∈ [password], _
      rw [List.forall_mem_singleton]
    · exfalso
      obtain ⟨-, -, heffect⟩ := remove_spec hordered username
      obtain ⟨removed, ⟨l₁, l₂, hnodes, hnodes'⟩, rfl⟩ := (if_pos hok).mp heffect
      have hgone := (hordered.lookup_middle hnodes').2
      rw [← hnodes] at hgone
      cases hgone.symm.trans hfound
    · obtain ⟨old, hold, hnew⟩ := userChangePassword_found hordered hlen hok
      obtain rfl := Option.some.inj (hnew.symm.trans hfound)
      have hcell := h username old hold i hi
      rw [overwritePassword_cell_iff, hcell]
      change _ ↔ ∀ old ∈ had username ++ [newPassword], _
      rw [List.forall_mem_append, List.forall_mem_singleton, and_comm]
    · obtain ⟨old, hold, hnew⟩ := userChangeRole_found hordered hok
      obtain rfl := Option.some.inj (hnew.symm.trans hfound)
      exact h username old hold i hi
  · rw [recordPassword, if_neg hcall]
    refine h n user ?_ i hi
    by_cases hn : n = op.username
    · rw [← op.apply_of_ne_ok hordered fun hok => hcall ⟨hn, hok⟩]
      exact hfound
    · rw [← op.lookup_ne hordered hn]
      exact hfound

/-- What a sequence of calls does to the cells. -/
theorem Remembers.run {store' : UserStore} {ops : List UserOp} (h : Remembers had store)
    (hordered : store.Ordered) (hrun : Library.run userStep store ops = .ok store') :
    Remembers (passwordsFrom store had ops) store' := by
  induction ops generalizing store had with
  | nil =>
      cases hrun
      exact h
  | cons op ops ih =>
      obtain ⟨_, hstep, hrest⟩ := run_cons_ok_iff.mp hrun
      cases hstep
      exact ih (h.apply hordered op) (op.apply_spec hordered).1 hrest

theorem usersInit_remembers :
    Remembers (fun n => if n = adminName then [adminName] else []) usersInit := by
  intro n user hfound i hi
  have huser : user = adminUser := by
    have hmem := List.mem_of_find?_eq_some hfound
    rwa [usersInit_nodes, List.mem_singleton] at hmem
  subst huser
  have hn : n = adminName := by rw [← name_of_found hfound, adminUser_name]
  have hlen : adminName.bytes.length = 5 := rfl
  change (adminName.bytes ++ List.replicate 251 0)[i]? = some 0 ↔
    ∀ old ∈ (if n = adminName then [adminName] else []), old.bytes.length ≤ i
  rw [if_pos hn, List.forall_mem_singleton, hlen]
  rw [List.getElem?_append, hlen]
  have hlimit : i < 255 := hi
  split_ifs with hbefore
  · refine iff_of_false ?_ (Nat.not_le.mpr hbefore)
    intro hzero
    exact adminName.noNul (List.mem_of_getElem? hzero)
  · exact iff_of_true (List.getElem?_replicate_of_lt (by omega)) (Nat.not_lt.mp hbefore)

end Remembering

/-! ## The effect of a change -/

/-- A successful change of password takes effect exactly if the user has had no
longer password since its creation. -/
theorem changePassword_takesEffect_iff {ops : List UserOp} {store : UserStore}
    {username newPassword : CString} (hrun : run userStep usersInit ops = .ok store)
    (hlen : newPassword.bytes.length < usersMaxPasswordLength)
    (hok : (userChangePassword store username.bytes newPassword.bytes).2 = .ok) :
    TakesEffect username newPassword store
        (userChangePassword store username.bytes newPassword.bytes).1 ↔
      ∀ old ∈ passwordsHad ops username, old.bytes.length ≤ newPassword.bytes.length := by
  have hordered : store.Ordered := ordered_of_run hrun
  have hremembers : Remembers (passwordsHad ops) store :=
    usersInit_remembers.run usersInit_ordered hrun
  obtain ⟨user, hold, hnew⟩ := userChangePassword_found hordered hlen.le hok
  have huser : user.Shaped := shaped_of_found hordered hold
  rw [← hremembers username user hold _ hlen,
    ← overwritePassword_passwordString_iff huser hlen.le]
  constructor
  · rintro ⟨htakes, -⟩
    exact (userAuthenticate_ok_iff hnew).mp ((htakes newPassword).mpr rfl)
  · intro hstored
    constructor
    · intro q
      rw [userAuthenticate_ok_iff hnew, hstored, CString.ext_iff]
      exact eq_comm
    · intro v hv q
      exact userAuthenticate_congr
        ((UserOp.changePassword username newPassword hlen.le).lookup_ne hordered hv)

/-- The default administrator asks for the password `ab`, and keeps `abmin`. -/
theorem shorterPassword_not_taken :
    ∃ p : CString, p.bytes.length < usersMaxPasswordLength ∧
      (userChangePassword usersInit adminName.bytes p.bytes).2 = .ok ∧
      ¬ TakesEffect adminName p usersInit
        (userChangePassword usersInit adminName.bytes p.bytes).1 := by
  refine ⟨⟨[97, 98], by decide⟩, by decide, by decide +kernel, ?_⟩
  intro heffect
  have hwrong : userAuthenticate (userChangePassword usersInit adminName.bytes [97, 98]).1
      adminName.bytes [97, 98] = .wrongPassword := by decide +kernel
  have hright := (heffect.1 ⟨[97, 98], by decide⟩).mpr rfl
  rw [hwrong] at hright
  cases hright

/-- The default administrator asks for a password of six bytes. -/
theorem changePassword_takesEffect_iff_longer :
    TakesEffect adminName ⟨[97, 98, 99, 100, 101, 102], by decide⟩ usersInit
      (userChangePassword usersInit adminName.bytes [97, 98, 99, 100, 101, 102]).1 := by
  have hrun : run userStep usersInit [] = .ok usersInit := rfl
  refine (changePassword_takesEffect_iff hrun ?_ ?_).mpr ?_
  · decide
  · decide +kernel
  · decide

end Socks5Proxy
