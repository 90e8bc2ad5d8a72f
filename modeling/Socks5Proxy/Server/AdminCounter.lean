import Socks5Proxy.Server.UserMap

/-!
# The counter of administrators

`totalAdmins` starts at one and is only touched by `user_create`.
-/

namespace Socks5Proxy

open Library

/-- The administrators in the list. -/
def adminsOf (store : UserStore) : ℕ :=
  store.usersList.nodes.countP (·.privilegeLevel == userPrivilegeAdmin)

def CounterAgrees (store : UserStore) : Prop := userTotalAdmins store = adminsOf store

instance (store : UserStore) : Decidable (CounterAgrees store) :=
  inferInstanceAs (Decidable (userTotalAdmins store = adminsOf store))

/-- The call neither removes an administrator nor turns a user into one or an
administrator into a user. -/
def KeepsAdmins (store : UserStore) : UserOp → Prop
  | .create .. => True
  | .remove username => userIsAdmin store username.bytes = false
  | .changePassword .. => True
  | .changeRole username newRole =>
    ∀ user, userGetIfExists store username.bytes = some user →
      (user.privilegeLevel = userPrivilegeAdmin ↔ newRole = userPrivilegeAdmin)

section Counting

variable {store store' : UserStore} {user user' : User}

/-- The share of one record. -/
def adminShare (user : User) : ℕ := if user.privilegeLevel = userPrivilegeAdmin then 1 else 0

theorem adminShare_eq_zero_iff :
    adminShare user = 0 ↔ (user.privilegeLevel == userPrivilegeAdmin) = false := by
  simp [adminShare]

theorem adminShare_eq_iff (user user' : User) :
    adminShare user = adminShare user' ↔
      (user.privilegeLevel = userPrivilegeAdmin ↔ user'.privilegeLevel = userPrivilegeAdmin) := by
  rw [adminShare, adminShare]
  split_ifs with h h' h' <;> simp [h, h']

theorem Added.adminsOf (h : Added user store store') :
    adminsOf store' = adminsOf store + adminShare user := by
  obtain ⟨l₁, l₂, hnodes, hnodes'⟩ := h
  rw [Socks5Proxy.adminsOf, Socks5Proxy.adminsOf, hnodes, hnodes', List.countP_append,
    List.countP_append, List.countP_cons, adminShare]
  simp only [beq_iff_eq]
  omega

theorem Replaced.adminsOf (h : Replaced user user' store store') :
    adminsOf store' + adminShare user = adminsOf store + adminShare user' := by
  obtain ⟨l₁, l₂, hnodes, hnodes'⟩ := h
  rw [Socks5Proxy.adminsOf, Socks5Proxy.adminsOf, hnodes, hnodes', List.countP_append,
    List.countP_append, List.countP_cons, List.countP_cons, adminShare, adminShare]
  simp only [beq_iff_eq]
  omega

/-- Only `user_create` counts. -/
theorem totalAdmins_apply (store : UserStore) (op : UserOp) :
    (op.apply store).1.totalAdmins = store.totalAdmins +
      match op with
      | .create _ _ pl _ =>
        if (op.apply store).2 = .ok ∧ pl = userPrivilegeAdmin then 1 else 0
      | _ => 0 := by
  rcases op with ⟨username, password, pl, stack⟩ | username |
    ⟨username, newPassword, hlen⟩ | ⟨username, newRole⟩
  · change (userCreate store username.bytes password.bytes pl stack).1.totalAdmins = _ +
      if (userCreate store username.bytes password.bytes pl stack).2 = .ok ∧ _ then 1 else 0
    by_cases huname : username.bytes.length ≥ usersMaxUsernameLength
    · simp [userCreate, huname]
    · by_cases hpass : password.bytes.length ≥ usersMaxPasswordLength
      · simp [userCreate, huname, hpass]
      · rcases hfind : userGetIfExists store username.bytes with _ | user
        · by_cases hpl : pl = userPrivilegeAdmin <;>
            simp [userCreate, huname, hpass, hfind, hpl]
        · simp [userCreate, huname, hpass, hfind]
  · dsimp only [UserOp.apply, userRemove]
    cases userGetIfExists store username.bytes <;> simp
  · dsimp only [UserOp.apply, userChangePassword]
    cases userGetIfExists store username.bytes <;> simp [UserStore.update]
  · dsimp only [UserOp.apply, userChangeRole]
    cases userGetIfExists store username.bytes <;> simp [UserStore.update]

/-- A call restores the agreement exactly when it keeps the administrators. -/
theorem counterAgrees_apply_iff (h : store.Ordered) (hagrees : CounterAgrees store)
    (op : UserOp) : CounterAgrees (op.apply store).1 ↔ KeepsAdmins store op := by
  obtain ⟨hordered, hspec⟩ := op.apply_spec h
  have htotal := totalAdmins_apply store op
  rw [CounterAgrees, userTotalAdmins] at hagrees ⊢
  rw [htotal, hagrees]
  rcases op with ⟨username, password, pl, stack⟩ | username |
    ⟨username, newPassword, hlen⟩ | ⟨username, newRole⟩
  · refine iff_of_true ?_ trivial
    obtain ⟨-, heffect⟩ := hspec
    split_ifs at heffect with hok
    · obtain ⟨user, hadded, -, -, hpl⟩ := heffect
      rw [hadded.adminsOf, adminShare, hpl]
      simp only [hok, true_and]
      split_ifs <;> rfl
    · rw [heffect]
      simp [hok]
  · obtain ⟨hstatus, heffect⟩ := hspec
    rw [KeepsAdmins, userIsAdmin]
    split_ifs at heffect with hok
    · obtain ⟨user, hadded, rfl⟩ := heffect
      have hadmins := hadded.adminsOf
      obtain ⟨l₁, l₂, -, hnodes⟩ := hadded
      rw [(h.lookup_middle hnodes).1, hadmins]
      change _ ↔ (user.privilegeLevel == userPrivilegeAdmin) = false
      rw [← adminShare_eq_zero_iff]
      simp only
      omega
    · have hnone := not_not.mp (mt hstatus.mpr hok)
      rw [heffect, hnone]
      simp
  · refine iff_of_true ?_ trivial
    obtain ⟨-, heffect⟩ := hspec
    split_ifs at heffect
    · obtain ⟨user, hreplaced, -⟩ := heffect
      have hadmins := hreplaced.adminsOf
      change _ + adminShare user = _ + adminShare user at hadmins
      simp only
      omega
    · rw [heffect]
      simp
  · obtain ⟨hstatus, heffect⟩ := hspec
    rw [KeepsAdmins]
    split_ifs at heffect with hok
    · obtain ⟨user, hreplaced, rfl⟩ := heffect
      have hadmins := hreplaced.adminsOf
      obtain ⟨l₁, l₂, hnodes, -⟩ := hreplaced
      rw [(h.lookup_middle hnodes).1]
      simp only [Option.some.injEq, forall_eq']
      rw [← adminShare_eq_iff user { user with privilegeLevel := newRole }]
      omega
    · have hnone := not_not.mp (mt hstatus.mpr hok)
      rw [heffect, hnone]
      simp

end Counting

/-- Whatever calls are made, the counter agrees with the list at every moment
exactly when every call keeps the administrators. -/
theorem counterAgrees_iff_keepsAdmins (ops : List UserOp) :
    RunsThrough userStep CounterAgrees usersInit ops ↔
      Steps userStep KeepsAdmins usersInit ops := by
  refine runsThrough_iff_steps ?_ usersInit_ordered (by decide)
  intro store op h hagrees
  exact ⟨_, rfl, (op.apply_spec h).1, counterAgrees_apply_iff h hagrees op⟩

/-- The default administrator becomes a user, and is still counted. -/
theorem demotion_keeps_counter :
    ∃ store, run userStep usersInit [.changeRole adminName userPrivilegeDefault] = .ok store ∧
      userTotalAdmins store = 1 ∧ adminsOf store = 0 :=
  ⟨_, rfl, by decide +kernel, by decide +kernel⟩

end Socks5Proxy
