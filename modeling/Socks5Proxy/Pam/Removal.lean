import Socks5Proxy.Pam.Administrators

/-!
# Removing a user

The guard of `handle_remove_user` tests the cached counter before it knows
whether the target exists, and asks for the role of the record it may not have
found.  A counter of one also protects administrators that are not the last.  In
front of it stands the array for the name, which is a cell too short.
-/

namespace Socks5Proxy

open Library

/-- `target` is an administrator and there is no other. -/
def OnlyAdmin (store : UserStore) (target : CString) : Prop :=
  userIsAdmin store target.bytes = true ∧ adminsOf store = 1

/-- `requester` may remove `target`. -/
def MayRemove (store : UserStore) (requester target : CString) : Prop :=
  userIsAdmin store requester.bytes = true ∧ userGetIfExists store target.bytes ≠ none ∧
    target ≠ requester ∧ ¬ OnlyAdmin store target

/-- The handler returns, takes out the target's record if it may, and leaves
the store alone if it may not. -/
def RemovesExactly (s : PamSession) (buffer : Buffer) : Prop :=
  ∃ t, handleRemoveUser s buffer = .ok t ∧
    (MayRemove s.users s.requester (stringAt buffer) →
      ∃ user, Added user t.users s.users ∧ user.name = stringAt buffer) ∧
    (¬ MayRemove s.users s.requester (stringAt buffer) → t.users = s.users)

/-- An administrator asks to remove somebody while the counter is one, and the
target does not exist or is another administrator. -/
def MisledByCounter (store : UserStore) (requester target : CString) : Prop :=
  userIsAdmin store requester.bytes = true ∧ userTotalAdmins store = 1 ∧
    (userGetIfExists store target.bytes = none ∨
      (userIsAdmin store target.bytes = true ∧ target ≠ requester))

section Removal

variable {s t : PamSession} {buffer : Buffer} {store : UserStore} {requester target : CString}

theorem userIsAdmin_iff {n : CString} :
    userIsAdmin store n.bytes = true ↔
      ∃ user, userGetIfExists store n.bytes = some user ∧
        user.privilegeLevel = userPrivilegeAdmin := by
  rw [userIsAdmin]
  cases userGetIfExists store n.bytes <;> simp

/-- Two administrators of different names are two. -/
theorem not_onlyAdmin_of_ne (h : store.Ordered)
    (hrequester : userIsAdmin store requester.bytes = true) (hne : target ≠ requester) :
    ¬ OnlyAdmin store target := by
  rintro ⟨htarget, hone⟩
  -- without the target there is still the requester
  have hleft : HasAdmin ((UserOp.remove target).apply store).1 :=
    hasAdmin_apply_of_ne h hrequester hne.symm
  obtain ⟨user, hfind, hadmin⟩ := userIsAdmin_iff.mp htarget
  obtain ⟨-, hstatus, heffect⟩ := (UserOp.remove target).apply_spec h
  rw [if_pos (hstatus.mpr (by simp [hfind]))] at heffect
  obtain ⟨removed, hadded, rfl⟩ := heffect
  have hcount := hadded.adminsOf
  obtain ⟨l₁, l₂, -, hnodes⟩ := hadded
  have hsame : removed = user := Option.some.inj ((h.lookup_middle hnodes).1.symm.trans hfind)
  have hshare : adminShare removed = 1 := by rw [hsame, adminShare, if_pos hadmin]
  rw [hasAdmin_iff] at hleft
  omega

theorem mayRemove_iff (h : store.Ordered)
    (hrequester : userIsAdmin store requester.bytes = true) :
    MayRemove store requester target ↔
      userGetIfExists store target.bytes ≠ none ∧ target ≠ requester := by
  constructor
  · rintro ⟨-, hfound, hne, -⟩
    exact ⟨hfound, hne⟩
  · rintro ⟨hfound, hne⟩
    exact ⟨hrequester, hfound, hne, not_onlyAdmin_of_ne h hrequester hne⟩

/-- Behind the guard the handler does what it may. -/
theorem removesExactly_behind_guard (h : s.users.Ordered)
    (hrequester : userIsAdmin s.users s.requester.bytes = true) (target : CString) :
    let t := removeOther target.bytes (s.setStatus pamRequestSuccess)
    (MayRemove s.users s.requester target →
      ∃ user, Added user t.users s.users ∧ user.name = target) ∧
    (¬ MayRemove s.users s.requester target → t.users = s.users) := by
  intro t
  have husers := removeOther_users (s := s.setStatus pamRequestSuccess) target
  have hsame : (s.setStatus pamRequestSuccess).requester = s.requester := requester_congr rfl
  rw [hsame, PamSession.setStatus_users] at husers
  obtain ⟨-, hstatus, heffect⟩ := remove_spec h target
  rw [mayRemove_iff h hrequester, show t.users = _ from husers]
  constructor
  · rintro ⟨hfound, hne⟩
    rw [if_neg hne]
    rwa [if_pos (hstatus.mpr hfound)] at heffect
  · intro hnot
    split_ifs with hsame
    · rfl
    · have hnone : userGetIfExists s.users target.bytes = none := by
        by_contra hfound
        exact hnot ⟨hfound, hsame⟩
      rwa [if_neg fun hok => hstatus.mp hok hnone] at heffect

theorem not_added_self {user : User} : ¬ Added user store store := by
  rintro ⟨l₁, l₂, hnodes, hnodes'⟩
  rw [hnodes] at hnodes'
  have hlen := congrArg List.length hnodes'
  simp at hlen

/-- A handler that leaves the store alone is right unless it may remove. -/
theorem removesExactly_of_kept (h : handleRemoveUser s buffer = .ok t)
    (hkept : t.users = s.users) :
    RemovesExactly s buffer ↔ ¬ MayRemove s.users s.requester (stringAt buffer) := by
  constructor
  · rintro ⟨t', ht', hremoved, -⟩ hmay
    obtain ⟨user, hadded, -⟩ := hremoved hmay
    rw [← Except.ok.inj (h.symm.trans ht'), hkept] at hadded
    exact not_added_self hadded
  · intro hnot
    exact ⟨t, h, fun hmay => absurd hmay hnot, fun _ => hkept⟩

/-- What the handler does for an administrator. -/
theorem requestRemoveUser_eq (hadmin : userIsAdmin s.users s.requester.bytes = true)
    (target : CString) :
    requestRemoveUser target.bytes s =
      if userTotalAdmins s.users = 1 then
        match userGetIfExists s.users target.bytes with
        | none => .error .nullDereference
        | some user =>
          if user.privilegeLevel = userPrivilegeAdmin then
            .ok ((s.setStatus pamRequestSuccess).setStatus pamRequestUnauthorized)
          else .ok (removeOther target.bytes (s.setStatus pamRequestSuccess))
      else .ok (removeOther target.bytes (s.setStatus pamRequestSuccess)) := by
  have hguard : ¬ userIsAdmin (s.setStatus pamRequestSuccess).users
      (s.setStatus pamRequestSuccess).conn.username = false := by
    rw [PamSession.setStatus_username, PamSession.setStatus_users, Bool.not_eq_false]
    exact hadmin
  unfold requestRemoveUser
  dsimp only
  rw [if_neg hguard]
  rfl

/-- Who is refused at the first test. -/
theorem requestRemoveUser_of_not_admin
    (hadmin : userIsAdmin s.users s.requester.bytes = false) (target : CString) :
    requestRemoveUser target.bytes s =
      .ok ((s.setStatus pamRequestSuccess).setStatus pamRequestUnauthorized) := by
  have hguard : userIsAdmin (s.setStatus pamRequestSuccess).users
      (s.setStatus pamRequestSuccess).conn.username = false := by
    rw [PamSession.setStatus_username, PamSession.setStatus_users]
    exact hadmin
  unfold requestRemoveUser
  dsimp only
  rw [if_pos hguard]

end Removal

theorem removesExactly_iff_of_fits {ops : List UserOp} {s : PamSession}
    (hrun : run userStep usersInit ops = .ok s.users) {buffer : Buffer}
    (hfits : ¬ Overruns pamRequestMethodRemoveUser buffer.content) :
    RemovesExactly s buffer ↔ ¬ MisledByCounter s.users s.requester (stringAt buffer) := by
  have hordered := ordered_of_run hrun
  have hread : handleRemoveUser s buffer = requestRemoveUser (stringAt buffer).bytes s := by
    rw [handleRemoveUser_eq, if_neg (mt overruns_removeUser.mpr hfits)]
  cases hadmin : userIsAdmin s.users s.requester.bytes with
  | false =>
      have hdenied := hread.trans (requestRemoveUser_of_not_admin hadmin _)
      refine iff_of_true ⟨_, hdenied, ?_, fun _ => rfl⟩ ?_
      · rintro ⟨hmay, -⟩
        rw [hadmin] at hmay
        cases hmay
      · rintro ⟨hmay, -⟩
        rw [hadmin] at hmay
        cases hmay
  | true =>
      have hbehind := removesExactly_behind_guard hordered hadmin (stringAt buffer)
      by_cases htotal : userTotalAdmins s.users = 1
      · rcases hfind : userGetIfExists s.users (stringAt buffer).bytes with _ | user
        · refine iff_of_false ?_ (not_not.mpr ⟨hadmin, htotal, .inl hfind⟩)
          rintro ⟨t, ht, -⟩
          rw [hread, requestRemoveUser_eq hadmin, if_pos htotal, hfind] at ht
          cases ht
        · by_cases hrole : user.privilegeLevel = userPrivilegeAdmin
          · have htarget : userIsAdmin s.users (stringAt buffer).bytes = true :=
              userIsAdmin_iff.mpr ⟨user, hfind, hrole⟩
            have hdenied : handleRemoveUser s buffer =
                .ok ((s.setStatus pamRequestSuccess).setStatus pamRequestUnauthorized) := by
              rw [hread, requestRemoveUser_eq hadmin, if_pos htotal, hfind]
              exact if_pos hrole
            rw [removesExactly_of_kept hdenied rfl, mayRemove_iff hordered hadmin, hfind]
            constructor
            · rintro hnot ⟨-, -, hnone | ⟨-, hne⟩⟩
              · rw [hfind] at hnone
                cases hnone
              · exact hnot ⟨by simp, hne⟩
            · rintro hnot ⟨-, hne⟩
              exact hnot ⟨hadmin, htotal, .inr ⟨htarget, hne⟩⟩
          · refine iff_of_true ⟨_, ?_, hbehind⟩ ?_
            · rw [hread, requestRemoveUser_eq hadmin, if_pos htotal, hfind]
              exact if_neg hrole
            · rintro ⟨-, -, hnone | ⟨htarget, -⟩⟩
              · rw [hfind] at hnone
                cases hnone
              · obtain ⟨found, hfound, hlevel⟩ := userIsAdmin_iff.mp htarget
                rw [hfind, Option.some.injEq] at hfound
                exact hrole (hfound ▸ hlevel)
      · refine iff_of_true ⟨_, ?_, hbehind⟩ fun hmisled => htotal hmisled.2.1
        rw [hread, requestRemoveUser_eq hadmin, if_neg htotal]

/-- In every store the calls can lead to, the handler removes exactly what it
may unless the name overruns its array or the counter misleads it. -/
theorem removesExactly_iff {ops : List UserOp} {s : PamSession}
    (hrun : run userStep usersInit ops = .ok s.users) (buffer : Buffer) :
    RemovesExactly s buffer ↔
      ¬ Overruns pamRequestMethodRemoveUser buffer.content ∧
        ¬ MisledByCounter s.users s.requester (stringAt buffer) := by
  by_cases hoverruns : Overruns pamRequestMethodRemoveUser buffer.content
  · refine iff_of_false ?_ fun h => h.1 hoverruns
    rintro ⟨t, ht, -⟩
    rw [handleRemoveUser_eq, if_pos (overruns_removeUser.mp hoverruns)] at ht
    cases ht
  · rw [removesExactly_iff_of_fits hrun hoverruns, and_iff_right hoverruns]

instance (store : UserStore) (requester target : CString) :
    Decidable (MisledByCounter store requester target) :=
  inferInstanceAs (Decidable (_ ∧ _ ∧ (_ ∨ (_ ∧ _))))

/-- The session of the default administrator on a user store. -/
def adminSession (store : UserStore) : PamSession :=
  (adminRequest pamRequestMethodRemoveUser []).on store

/-- The only administrator asks to remove the user `a`, who does not exist. -/
theorem removal_of_nobody_faults :
    ∃ s buffer, run userStep usersInit [] = .ok s.users ∧ ¬ RemovesExactly s buffer := by
  refine ⟨adminSession usersInit, (adminRequest pamRequestMethodRemoveUser [1, 97]).buffer,
    rfl, ?_⟩
  rintro ⟨t, ht, -⟩
  have hfault : (handleRemoveUser (adminSession usersInit)
      (adminRequest pamRequestMethodRemoveUser [1, 97]).buffer).toOption.isSome = false := by
    decide +kernel
  rw [ht] at hfault
  cases hfault

/-- A user called `a`. -/
def userOfOneLetter : UserOp :=
  .create ⟨[97], by decide⟩ ⟨[98], by decide⟩ userPrivilegeDefault (0, 0)

/-- The administrator asks to remove that user. -/
theorem removesExactly_iff_userOfOneLetter :
    RemovesExactly (adminSession (userOfOneLetter.apply usersInit).1)
      (adminRequest pamRequestMethodRemoveUser [1, 97]).buffer := by
  have hrun : run userStep usersInit [userOfOneLetter] =
      .ok (adminSession (userOfOneLetter.apply usersInit).1).users := rfl
  exact (removesExactly_iff hrun _).mpr (by decide +kernel)

end Socks5Proxy
