import Socks5Proxy.Server.Users
import Socks5Proxy.Library.SortedList
import Socks5Proxy.Library.Run
import Socks5Proxy.Shared.Stm
import Mathlib.Data.List.Induction

/-!
# The user store as a finite map

Every sequence of operations on the store keeps its list sorted by name, so
that a name stands for one record at most and no operation touches the record
of another name.
-/

namespace Socks5Proxy

open Library

/-! ## Names -/

/-- A NUL-terminated argument, without the terminator. -/
structure CString where
  bytes : List UInt8
  noNul : 0 ∉ bytes
  deriving DecidableEq

def CString.compare (a b : CString) : ℤ := strcmp a.bytes b.bytes

theorem CString.ext_iff {a b : CString} : a = b ↔ a.bytes = b.bytes := by
  cases a
  cases b
  simp

theorem strcmp_neg_iff (xs ys : List UInt8) : strcmp xs ys < 0 ↔ 0 < strcmp ys xs := by
  induction xs generalizing ys with
  | nil =>
      rcases ys with _ | ⟨y, ys⟩
      · simp [strcmp]
      · simp only [strcmp]
        omega
  | cons x xs ih =>
      rcases ys with _ | ⟨y, ys⟩
      · simp only [strcmp]
        omega
      · by_cases hxy : x = y
        · simp [strcmp, hxy, ih]
        · simp only [strcmp, hxy, Ne.symm hxy, if_false]
          omega

theorem strcmp_trans {xs ys zs : List UInt8} (hxy : strcmp xs ys < 0) (hyz : strcmp ys zs < 0) :
    strcmp xs zs < 0 := by
  induction xs generalizing ys zs with
  | nil =>
      rcases ys with _ | ⟨y, ys⟩
      · simp [strcmp] at hxy
      · rcases zs with _ | ⟨z, zs⟩
        · simp only [strcmp] at hyz
          omega
        · simp only [strcmp] at hxy hyz ⊢
          split_ifs at hyz with heq
          · rw [← heq]
            exact hxy
          · omega
  | cons x xs ih =>
      rcases ys with _ | ⟨y, ys⟩
      · simp only [strcmp] at hxy
        omega
      · rcases zs with _ | ⟨z, zs⟩
        · simp only [strcmp] at hyz
          omega
        · by_cases hfirst : x = y
          · subst hfirst
            by_cases hsecond : x = z
            · simp only [strcmp, hsecond, if_true] at hxy hyz ⊢
              exact ih hxy hyz
            · simp only [strcmp, hsecond, if_false] at hyz ⊢
              exact hyz
          · by_cases hsecond : y = z
            · subst hsecond
              simp only [strcmp, hfirst, if_false] at hxy ⊢
              exact hxy
            · simp only [strcmp, hfirst, hsecond, if_false] at hxy hyz
              have hne : x ≠ z := by
                rintro rfl
                omega
              simp only [strcmp, hne, if_false]
              omega

theorem threeWay_compare : ThreeWay CString.compare where
  eq_zero_iff := fun {a b} => by
    rw [CString.compare, strcmp_eq_zero_iff a.noNul b.noNul, CString.ext_iff]
  neg_iff := strcmp_neg_iff _ _
  trans := strcmp_trans

/-- The name a record goes by. -/
def User.name (user : User) : CString := ⟨user.usernameString, zero_notMem_cString _⟩

theorem userCmp_eq (a b : User) : userCmp a b = CString.compare a.name b.name := rfl

theorem userMatches_iff {user : User} {n : CString} :
    userMatches n.bytes user = true ↔ user.name = n := by
  rw [userMatches, beq_iff_eq, CString.ext_iff]
  exact strcmp_eq_zero_iff (zero_notMem_cString _) n.noNul

theorem userMatches_eq_false_iff {user : User} {n : CString} :
    userMatches n.bytes user = false ↔ user.name ≠ n := by
  rw [← Bool.not_eq_true, userMatches_iff]

/-! ## The walks of the list -/

section Walks

variable {l l₁ l₂ : List User} {user : User} {n : CString}

theorem listInsert_gap (h : Gap CString.compare User.name user.name l₁ l₂) :
    listInsert userCmp user (l₁ ++ l₂) = some (l₁ ++ user :: l₂) := by
  induction l₁ with
  | nil =>
      rcases l₂ with _ | ⟨curr, next⟩
      · rfl
      · have hpos : 0 < userCmp curr user :=
          threeWay_compare.neg_iff.mp (h.above curr List.mem_cons_self)
        rw [List.nil_append, listInsert, if_neg (by omega), if_neg (by omega)]
        rfl
  | cons curr l₁ ih =>
      have hneg : userCmp curr user < 0 := h.below curr List.mem_cons_self
      rw [List.cons_append, listInsert, if_pos hneg,
        ih ⟨fun a ha => h.below a (List.mem_cons_of_mem curr ha), h.above⟩]
      rfl

theorem listErase_middle (h : ∀ a ∈ l₁, a.name ≠ user.name) :
    listErase userCmp user (l₁ ++ user :: l₂) = some (l₁ ++ l₂) := by
  induction l₁ with
  | nil =>
      have hzero : userCmp user user = 0 :=
        (threeWay_compare.eq_zero_iff (a := user.name)).mpr rfl
      rw [List.nil_append, listErase, if_pos hzero]
      rfl
  | cons tmp l₁ ih =>
      have hne : ¬ userCmp tmp user = 0 := by
        rw [userCmp_eq, threeWay_compare.eq_zero_iff]
        exact h tmp List.mem_cons_self
      rw [List.cons_append, listErase, if_neg hne,
        ih fun a ha => h a (List.mem_cons_of_mem tmp ha)]
      rfl

theorem updateFirst_middle {write : User → User} (h : ∀ a ∈ l₁, a.name ≠ n)
    (huser : user.name = n) :
    updateFirst (userMatches n.bytes) write (l₁ ++ user :: l₂) = l₁ ++ write user :: l₂ := by
  induction l₁ with
  | nil => rw [List.nil_append, updateFirst, if_pos (userMatches_iff.mpr huser), List.nil_append]
  | cons curr l₁ ih =>
      have hcurr : userMatches n.bytes curr = false :=
        userMatches_eq_false_iff.mpr (h curr List.mem_cons_self)
      rw [List.cons_append, updateFirst, hcurr, if_neg (by decide),
        ih fun a ha => h a (List.mem_cons_of_mem curr ha), List.cons_append]

end Walks

/-! ## The order of the store -/

/-- The two arrays have their length, and the name ends in its own. -/
structure User.Shaped (user : User) : Prop where
  username : user.username.length = usersMaxUsernameLength + 1
  password : user.password.length = usersMaxPasswordLength + 1
  terminated : 0 ∈ user.username

/-- What every operation keeps. -/
structure UserStore.Ordered (store : UserStore) : Prop where
  ascending : Ascending CString.compare User.name store.usersList.nodes
  size : store.usersList.size = store.usersList.nodes.length
  shaped : ∀ user ∈ store.usersList.nodes, user.Shaped

/-- `store'` is `store` with the record `user` put in. -/
def Added (user : User) (store store' : UserStore) : Prop :=
  ∃ l₁ l₂, store.usersList.nodes = l₁ ++ l₂ ∧ store'.usersList.nodes = l₁ ++ user :: l₂

/-- `store'` is `store` with `user'` in the place of `user`. -/
def Replaced (user user' : User) (store store' : UserStore) : Prop :=
  ∃ l₁ l₂, store.usersList.nodes = l₁ ++ user :: l₂ ∧
    store'.usersList.nodes = l₁ ++ user' :: l₂

section Strings

theorem cString_append_zero {bytes rest : List UInt8} (h : 0 ∉ bytes) :
    cString (bytes ++ 0 :: rest) = bytes := (cString_terminated _ _).trans (cString_eq_self h)

/-- `strncpy` into a zeroed end leaves the string. -/
theorem cString_strncpy {src rest : List UInt8} {n : ℕ} (hsrc : 0 ∉ src) (hlen : src.length ≤ n) :
    cString (strncpy src n ++ 0 :: rest) = src := by
  obtain ⟨k, hk⟩ := Nat.exists_eq_add_of_le hlen
  rw [strncpy, List.take_of_length_le hlen, hk, Nat.add_sub_cancel_left, List.append_assoc]
  rcases k with _ | k
  · exact cString_append_zero hsrc
  · exact cString_append_zero hsrc

theorem length_strncpy (src : List UInt8) (n : ℕ) : (strncpy src n).length = n := by
  rw [strncpy, List.length_append, List.length_take, List.length_replicate]
  omega

/-- A terminated string does not depend on what follows its array. -/
theorem cString_append_of_mem {bytes rest rest' : List UInt8} (h : 0 ∈ bytes) :
    cString (bytes ++ rest) = cString (bytes ++ rest') := by
  obtain ⟨before, after, rfl, hbefore⟩ := List.eq_append_cons_of_mem h
  rw [List.append_assoc, List.append_assoc, List.cons_append, List.cons_append,
    cString_append_zero hbefore, cString_append_zero hbefore]

theorem User.Shaped.name_congr {user user' : User} (h : user.Shaped)
    (husername : user'.username = user.username) : user'.name = user.name := by
  rw [CString.ext_iff]
  change cString _ = cString _
  rw [husername, List.append_assoc, List.append_assoc]
  exact cString_append_of_mem h.terminated

end Strings

section Lookups

variable {store store' : UserStore} {user user' : User} {n : CString}

/-- A name is found at one place, or there is a gap for it. -/
theorem UserStore.Ordered.lookup (h : store.Ordered) (n : CString) :
    (∃ l₁ user l₂, store.usersList.nodes = l₁ ++ user :: l₂ ∧ user.name = n ∧
        userGetIfExists store n.bytes = some user) ∨
      ∃ l₁ l₂, store.usersList.nodes = l₁ ++ l₂ ∧ Gap CString.compare User.name n l₁ l₂ ∧
        userGetIfExists store n.bytes = none := by
  rcases h.ascending.split threeWay_compare n with ⟨l₁, user, l₂, hnodes, rfl⟩ |
    ⟨l₁, l₂, hnodes, hgap⟩
  · refine .inl ⟨l₁, user, l₂, hnodes, rfl, ?_⟩
    have hne := (hnodes ▸ h.ascending).ne_of_middle threeWay_compare
    rw [userGetIfExists, hnodes, find?_middle fun a ha => userMatches_eq_false_iff.mpr
      (hne a (List.mem_append_left l₂ ha)), if_pos (userMatches_iff.mpr rfl)]
  · refine .inr ⟨l₁, l₂, hnodes, hgap, ?_⟩
    rw [userGetIfExists, hnodes, List.find?_eq_none]
    intro a ha
    rw [userMatches_iff]
    exact hgap.ne threeWay_compare a ha

theorem Added.lookup_ne (h : Added user store store') {m : CString} (hm : user.name ≠ m) :
    userGetIfExists store' m.bytes = userGetIfExists store m.bytes := by
  obtain ⟨l₁, l₂, hnodes, hnodes'⟩ := h
  rw [userGetIfExists, userGetIfExists, hnodes, hnodes',
    find?_erase (userMatches_eq_false_iff.mpr hm)]

theorem Replaced.lookup_ne (h : Replaced user user' store store') {m : CString}
    (hm : user.name ≠ m) (hname : user'.name = user.name) :
    userGetIfExists store' m.bytes = userGetIfExists store m.bytes := by
  obtain ⟨l₁, l₂, hnodes, hnodes'⟩ := h
  rw [userGetIfExists, userGetIfExists, hnodes, hnodes']
  exact find?_replace (userMatches_eq_false_iff.mpr (by rwa [hname]))
    (userMatches_eq_false_iff.mpr hm)

end Lookups

/-! ## The operations -/

/-- A call that changes the store.  The length byte of a management request
bounds a new password. -/
inductive UserOp
  | create (username password : CString) (pl : UserPrivilegeLevel) (stack : UInt8 × UInt8)
  | remove (username : CString)
  | changePassword (username newPassword : CString)
      (hlen : newPassword.bytes.length ≤ usersMaxPasswordLength)
  | changeRole (username : CString) (newRole : UserPrivilegeLevel)

namespace UserOp

def username : UserOp → CString
  | create username .. => username
  | remove username => username
  | changePassword username .. => username
  | changeRole username _ => username

def apply (store : UserStore) : UserOp → UserStore × UserStatus
  | create username password pl stack =>
    userCreate store username.bytes password.bytes pl stack
  | remove username => userRemove store username.bytes
  | changePassword username newPassword _ =>
    userChangePassword store username.bytes newPassword.bytes
  | changeRole username newRole => userChangeRole store username.bytes newRole

/-- What a call does to the list and the status it returns. -/
def Spec (store store' : UserStore) (status : UserStatus) : UserOp → Prop
  | create username password pl _ =>
    (status = .ok ↔ userGetIfExists store username.bytes = none ∧
      username.bytes.length < usersMaxUsernameLength ∧
      password.bytes.length < usersMaxPasswordLength) ∧
    if status = .ok then
      ∃ user, Added user store store' ∧ user.name = username ∧
        user.passwordString = password.bytes ∧ user.privilegeLevel = pl
    else store' = store
  | remove username =>
    (status = .ok ↔ userGetIfExists store username.bytes ≠ none) ∧
    if status = .ok then ∃ user, Added user store' store ∧ user.name = username
    else store' = store
  | changePassword username newPassword _ =>
    (status = .ok ↔ userGetIfExists store username.bytes ≠ none) ∧
    if status = .ok then
      ∃ user, Replaced user (overwritePassword newPassword.bytes user) store store' ∧
        user.name = username
    else store' = store
  | changeRole username newRole =>
    (status = .ok ↔ userGetIfExists store username.bytes ≠ none) ∧
    if status = .ok then
      ∃ user, Replaced user { user with privilegeLevel := newRole } store store' ∧
        user.name = username
    else store' = store

end UserOp

section Specs

variable {store : UserStore} {username password : CString}

/-- The record `user_create` builds. -/
def createdUser (username password : List UInt8) (pl : UserPrivilegeLevel)
    (stack : UInt8 × UInt8) : User where
  username := strncpy username (usersMaxUsernameLength - 1) ++ [0, stack.1]
  password := strncpy password (usersMaxPasswordLength - 1) ++ [0, stack.2]
  privilegeLevel := pl

theorem createdUser_name (hlen : username.bytes.length < usersMaxUsernameLength)
    (password : List UInt8) (pl : UserPrivilegeLevel) (stack : UInt8 × UInt8) :
    (createdUser username.bytes password pl stack).name = username := by
  rw [CString.ext_iff]
  change cString (strncpy username.bytes 254 ++ [0, stack.1] ++ _ ++ _) = _
  rw [List.append_assoc, List.append_assoc]
  exact cString_strncpy username.noNul (Nat.le_of_lt_succ hlen)

theorem createdUser_password (hlen : password.bytes.length < usersMaxPasswordLength)
    (username : List UInt8) (pl : UserPrivilegeLevel) (stack : UInt8 × UInt8) :
    (createdUser username password.bytes pl stack).passwordString = password.bytes := by
  change cString (strncpy password.bytes 254 ++ [0, stack.2] ++ _) = _
  rw [List.append_assoc]
  exact cString_strncpy password.noNul (Nat.le_of_lt_succ hlen)

theorem createdUser_shaped (username password : List UInt8) (pl : UserPrivilegeLevel)
    (stack : UInt8 × UInt8) : (createdUser username password pl stack).Shaped where
  username := by
    rw [createdUser, List.length_append, length_strncpy]
    rfl
  password := by
    rw [createdUser, List.length_append, length_strncpy]
    rfl
  terminated := by simp [createdUser]

/-- A record that is put in at its gap. -/
theorem UserStore.Ordered.added {user : User} {l₁ l₂ : List User} (h : store.Ordered)
    (hnodes : store.usersList.nodes = l₁ ++ l₂)
    (hgap : Gap CString.compare User.name user.name l₁ l₂) (huser : user.Shaped)
    (totalAdmins : ℤ) :
    UserStore.Ordered
      { usersList := { nodes := l₁ ++ user :: l₂, size := store.usersList.size + 1 }
        totalAdmins := totalAdmins } where
  ascending := (hnodes ▸ h.ascending).insert hgap
  size := by
    change store.usersList.size + 1 = (l₁ ++ user :: l₂).length
    rw [h.size, hnodes, List.length_append, List.length_append, List.length_cons]
    omega
  shaped := by
    intro a ha
    rcases List.mem_append.mp ha with hleft | hright
    · exact h.shaped a (hnodes ▸ List.mem_append_left l₂ hleft)
    · rcases List.mem_cons.mp hright with rfl | hright
      · exact huser
      · exact h.shaped a (hnodes ▸ List.mem_append_right l₁ hright)

/-- A record that is replaced by one of the same name. -/
theorem UserStore.Ordered.replaced {user user' : User} {l₁ l₂ : List User} (h : store.Ordered)
    (hnodes : store.usersList.nodes = l₁ ++ user :: l₂) (hname : user'.name = user.name)
    (huser : user'.Shaped) :
    UserStore.Ordered
      { store with usersList := { store.usersList with nodes := l₁ ++ user' :: l₂ } } where
  ascending := (hnodes ▸ h.ascending).replace hname
  size := by
    change store.usersList.size = (l₁ ++ user' :: l₂).length
    rw [h.size, hnodes, List.length_append, List.length_append]
    rfl
  shaped := by
    intro a ha
    rcases List.mem_append.mp ha with hleft | hright
    · exact h.shaped a (hnodes ▸ List.mem_append_left _ hleft)
    · rcases List.mem_cons.mp hright with rfl | hright
      · exact huser
      · exact h.shaped a (hnodes ▸ List.mem_append_right l₁ (List.mem_cons_of_mem user hright))

/-- Creating a user whose name is not there. -/
theorem userCreate_of_gap {pl : UserPrivilegeLevel} {stack : UInt8 × UInt8} {l₁ l₂ : List User}
    (huname : username.bytes.length < usersMaxUsernameLength)
    (hpass : password.bytes.length < usersMaxPasswordLength)
    (hnodes : store.usersList.nodes = l₁ ++ l₂)
    (hgap : Gap CString.compare User.name username l₁ l₂)
    (hfind : userGetIfExists store username.bytes = none) :
    userCreate store username.bytes password.bytes pl stack =
      ({ usersList :=
          { nodes := l₁ ++ createdUser username.bytes password.bytes pl stack :: l₂
            size := store.usersList.size + 1 }
         totalAdmins :=
          if pl = userPrivilegeAdmin then store.totalAdmins + 1 else store.totalAdmins }, .ok) := by
  have hinsert : listAdd userCmp store.usersList
      (createdUser username.bytes password.bytes pl stack) =
      { nodes := l₁ ++ createdUser username.bytes password.bytes pl stack :: l₂
        size := store.usersList.size + 1 } := by
    rw [listAdd, hnodes, listInsert_gap (by rwa [createdUser_name huname])]
  unfold userCreate
  rw [if_neg (Nat.not_le.mpr huname), if_neg (Nat.not_le.mpr hpass), hfind]
  exact congrArg (fun list => (UserStore.mk list _, UserStatus.ok)) hinsert

theorem create_spec (h : store.Ordered) (username password : CString)
    (pl : UserPrivilegeLevel) (stack : UInt8 × UInt8) :
    let r := userCreate store username.bytes password.bytes pl stack
    r.1.Ordered ∧ (UserOp.create username password pl stack).Spec store r.1 r.2 := by
  by_cases huname : username.bytes.length < usersMaxUsernameLength
  · by_cases hpass : password.bytes.length < usersMaxPasswordLength
    · rcases h.lookup username with ⟨l₁, user, l₂, -, -, hfind⟩ | ⟨l₁, l₂, hnodes, hgap, hfind⟩
      · have hcreate : userCreate store username.bytes password.bytes pl stack =
            (store, .alreadyExists) := by
          unfold userCreate
          rw [if_neg (Nat.not_le.mpr huname), if_neg (Nat.not_le.mpr hpass), hfind]
        rw [hcreate]
        refine ⟨h, iff_of_false nofun ?_, rfl⟩
        rw [hfind]
        rintro ⟨hnone, -⟩
        cases hnone
      · rw [userCreate_of_gap huname hpass hnodes hgap hfind]
        have hname := createdUser_name huname password.bytes pl stack
        exact ⟨h.added hnodes (by rwa [hname]) (createdUser_shaped _ _ _ _) _,
          iff_of_true rfl ⟨hfind, huname, hpass⟩, _, ⟨l₁, l₂, hnodes, rfl⟩, hname,
          createdUser_password hpass _ _ _, rfl⟩
    · have hcreate : userCreate store username.bytes password.bytes pl stack =
          (store, .credTooLong) := by
        unfold userCreate
        rw [if_neg (Nat.not_le.mpr huname), if_pos (Nat.not_lt.mp hpass)]
      rw [hcreate]
      exact ⟨h, iff_of_false nofun fun hok => hpass hok.2.2, rfl⟩
  · have hcreate : userCreate store username.bytes password.bytes pl stack =
        (store, .credTooLong) := by
      unfold userCreate
      rw [if_pos (Nat.not_lt.mp huname)]
    rw [hcreate]
    exact ⟨h, iff_of_false nofun fun hok => huname hok.2.1, rfl⟩

theorem remove_spec (h : store.Ordered) (username : CString) :
    let r := userRemove store username.bytes
    r.1.Ordered ∧ (UserOp.remove username).Spec store r.1 r.2 := by
  rcases h.lookup username with ⟨l₁, user, l₂, hnodes, hname, hfind⟩ | ⟨l₁, l₂, -, -, hfind⟩
  · have hne := (hnodes ▸ h.ascending).ne_of_middle threeWay_compare
    have hremove : userRemove store username.bytes =
        ({ store with usersList := { nodes := l₁ ++ l₂, size := store.usersList.size - 1 } },
          .ok) := by
      rw [userRemove, hfind]
      dsimp only
      rw [listRemove, hnodes, listErase_middle fun a ha => hne a (List.mem_append_left l₂ ha)]
    rw [hremove]
    refine ⟨⟨(hnodes ▸ h.ascending).erase, ?_, ?_⟩, iff_of_true rfl (by simp [hfind]), user,
      ⟨l₁, l₂, rfl, hnodes⟩, hname⟩
    · change store.usersList.size - 1 = (l₁ ++ l₂).length
      rw [h.size, hnodes, List.length_append, List.length_append, List.length_cons]
      omega
    · intro a ha
      apply h.shaped a
      rw [hnodes]
      rcases List.mem_append.mp ha with hleft | hright
      · exact List.mem_append_left _ hleft
      · exact List.mem_append_right _ (List.mem_cons_of_mem user hright)
  · have hremove : userRemove store username.bytes = (store, .badUsername) := by
      rw [userRemove, hfind]
    rw [hremove]
    exact ⟨h, iff_of_false nofun fun hfound => hfound hfind, rfl⟩

/-- Writing through the pointer of a record that is found. -/
theorem UserStore.Ordered.update {user : User} {l₁ l₂ : List User}
    (write : User → User) (h : store.Ordered) (hnodes : store.usersList.nodes = l₁ ++ user :: l₂)
    (hname : user.name = username) (hwrite : (write user).username = user.username)
    (hlen : (write user).password.length = user.password.length) :
    (store.update username.bytes write).Ordered ∧
      Replaced user (write user) store (store.update username.bytes write) := by
  have hne := (hnodes ▸ h.ascending).ne_of_middle threeWay_compare
  have huser : user.Shaped := h.shaped user (by rw [hnodes]; simp)
  have hupdate : store.update username.bytes write =
      { store with usersList := { store.usersList with nodes := l₁ ++ write user :: l₂ } } := by
    rw [UserStore.update, hnodes, updateFirst_middle
      (fun a ha => hname ▸ hne a (List.mem_append_left l₂ ha)) hname]
  rw [hupdate]
  refine ⟨h.replaced hnodes (huser.name_congr hwrite) ⟨?_, ?_, ?_⟩, l₁, l₂, hnodes, rfl⟩
  · rw [hwrite]
    exact huser.username
  · rw [hlen]
    exact huser.password
  · rw [hwrite]
    exact huser.terminated

theorem changePassword_spec (h : store.Ordered) (username newPassword : CString)
    (hlen : newPassword.bytes.length ≤ usersMaxPasswordLength) :
    let r := userChangePassword store username.bytes newPassword.bytes
    r.1.Ordered ∧ (UserOp.changePassword username newPassword hlen).Spec store r.1 r.2 := by
  rcases h.lookup username with ⟨l₁, user, l₂, hnodes, hname, hfind⟩ | ⟨l₁, l₂, -, -, hfind⟩
  · have huser : user.Shaped := h.shaped user (by rw [hnodes]; simp)
    have hsize : (overwritePassword newPassword.bytes user).password.length =
        user.password.length := by
      have hpass := huser.password
      rw [overwritePassword, List.length_append, List.length_drop]
      omega
    obtain ⟨hordered, hreplaced⟩ := h.update (overwritePassword newPassword.bytes)
      hnodes hname rfl hsize
    rw [userChangePassword, hfind]
    exact ⟨hordered, iff_of_true rfl (by simp [hfind]), user, hreplaced, hname⟩
  · rw [userChangePassword, hfind]
    exact ⟨h, iff_of_false nofun fun hfound => hfound hfind, rfl⟩

theorem changeRole_spec (h : store.Ordered) (username : CString)
    (newRole : UserPrivilegeLevel) :
    let r := userChangeRole store username.bytes newRole
    r.1.Ordered ∧ (UserOp.changeRole username newRole).Spec store r.1 r.2 := by
  rcases h.lookup username with ⟨l₁, user, l₂, hnodes, hname, hfind⟩ | ⟨l₁, l₂, -, -, hfind⟩
  · obtain ⟨hordered, hreplaced⟩ := h.update
      (fun user => { user with privilegeLevel := newRole }) hnodes hname rfl rfl
    rw [userChangeRole, hfind]
    exact ⟨hordered, iff_of_true rfl (by simp [hfind]), user, hreplaced, hname⟩
  · rw [userChangeRole, hfind]
    exact ⟨h, iff_of_false nofun fun hfound => hfound hfind, rfl⟩

/-- Every call keeps the order and does what it is for. -/
theorem UserOp.apply_spec (h : store.Ordered) (op : UserOp) :
    (op.apply store).1.Ordered ∧ op.Spec store (op.apply store).1 (op.apply store).2 := by
  rcases op with ⟨username, password, pl, stack⟩ | username |
    ⟨username, newPassword, hlen⟩ | ⟨username, newRole⟩
  · exact create_spec h username password pl stack
  · exact remove_spec h username
  · exact changePassword_spec h username newPassword hlen
  · exact changeRole_spec h username newRole

/-- The record found under its name, and nothing once it is taken out. -/
theorem UserStore.Ordered.lookup_middle {user : User} {l₁ l₂ : List User} (h : store.Ordered)
    (hnodes : store.usersList.nodes = l₁ ++ user :: l₂) :
    userGetIfExists store user.name.bytes = some user ∧
      (l₁ ++ l₂).find? (userMatches user.name.bytes) = none := by
  have hne := (hnodes ▸ h.ascending).ne_of_middle threeWay_compare
  constructor
  · rw [userGetIfExists, hnodes, find?_middle fun a ha => userMatches_eq_false_iff.mpr
      (hne a (List.mem_append_left l₂ ha)), if_pos (userMatches_iff.mpr rfl)]
  · rw [List.find?_eq_none]
    intro a ha
    rw [userMatches_iff]
    exact hne a ha

theorem Replaced.shaped {user user' : User} {store' : UserStore}
    (h : Replaced user user' store store') (hordered : store.Ordered) : user.Shaped := by
  obtain ⟨l₁, l₂, hnodes, -⟩ := h
  exact hordered.shaped user (by rw [hnodes]; simp)

/-- No call touches the record of another name. -/
theorem UserOp.lookup_ne (h : store.Ordered) (op : UserOp) {m : CString} (hm : m ≠ op.username) :
    userGetIfExists (op.apply store).1 m.bytes = userGetIfExists store m.bytes := by
  obtain ⟨-, hspec⟩ := op.apply_spec h
  rcases op with ⟨username, password, pl, stack⟩ | username |
    ⟨username, newPassword, hlen⟩ | ⟨username, newRole⟩
  · obtain ⟨-, heffect⟩ := hspec
    split_ifs at heffect
    · obtain ⟨user, hadded, rfl, -⟩ := heffect
      exact hadded.lookup_ne (Ne.symm hm)
    · rw [heffect]
  · obtain ⟨-, heffect⟩ := hspec
    split_ifs at heffect
    · obtain ⟨user, hadded, rfl⟩ := heffect
      exact (hadded.lookup_ne (Ne.symm hm)).symm
    · rw [heffect]
  · obtain ⟨-, heffect⟩ := hspec
    split_ifs at heffect
    · obtain ⟨user, hreplaced, rfl⟩ := heffect
      have huser : user.Shaped := hreplaced.shaped h
      exact hreplaced.lookup_ne (Ne.symm hm) (huser.name_congr rfl)
    · rw [heffect]
  · obtain ⟨-, heffect⟩ := hspec
    split_ifs at heffect
    · obtain ⟨user, hreplaced, rfl⟩ := heffect
      have huser : user.Shaped := hreplaced.shaped h
      exact hreplaced.lookup_ne (Ne.symm hm) (huser.name_congr rfl)
    · rw [heffect]

/-- The call creates the user `n`. -/
def UserOp.Creates (store : UserStore) (n : CString) (op : UserOp) : Prop :=
  ∃ password pl stack, op = .create n password pl stack ∧ (op.apply store).2 = .ok

theorem Replaced.found {user user' : User} {store' : UserStore}
    (h : Replaced user user' store store') (hordered : store.Ordered)
    (hordered' : store'.Ordered) (hname : user'.name = user.name) :
    userGetIfExists store user.name.bytes = some user ∧
      userGetIfExists store' user.name.bytes = some user' := by
  obtain ⟨l₁, l₂, hnodes, hnodes'⟩ := h
  refine ⟨(hordered.lookup_middle hnodes).1, ?_⟩
  rw [← hname]
  exact (hordered'.lookup_middle hnodes').1

/-- A record found under a name carries the name. -/
theorem name_of_found {user : User} {n : CString}
    (h : userGetIfExists store n.bytes = some user) : user.name = n :=
  userMatches_iff.mp (List.find?_some h)

theorem shaped_of_found {user : User} {n : CString} (hordered : store.Ordered)
    (h : userGetIfExists store n.bytes = some user) : user.Shaped :=
  hordered.shaped user (List.mem_of_find?_eq_some h)

/-- The record a successful `user_create` leaves. -/
theorem userCreate_found {username password : CString} {pl : UserPrivilegeLevel}
    {stack : UInt8 × UInt8} (hordered : store.Ordered)
    (hok : (userCreate store username.bytes password.bytes pl stack).2 = .ok) :
    password.bytes.length < usersMaxPasswordLength ∧
      userGetIfExists (userCreate store username.bytes password.bytes pl stack).1 username.bytes =
        some (createdUser username.bytes password.bytes pl stack) := by
  obtain ⟨hordered', hstatus, -⟩ := create_spec hordered username password pl stack
  obtain ⟨hnone, huname, hpass⟩ := hstatus.mp hok
  rcases hordered.lookup username with ⟨-, user, -, -, -, hfind⟩ | ⟨l₁, l₂, hnodes, hgap, hfind⟩
  · rw [hfind] at hnone
    cases hnone
  · refine ⟨hpass, ?_⟩
    have hname := createdUser_name huname password.bytes pl stack
    have hcreate : userCreate store username.bytes password.bytes pl stack = _ :=
      userCreate_of_gap huname hpass hnodes hgap hfind
    rw [hcreate] at hordered' ⊢
    have hmiddle := (hordered'.lookup_middle rfl).1
    rwa [hname] at hmiddle

/-- The record behind a successful `user_change_password`. -/
theorem userChangePassword_found {username newPassword : CString} (hordered : store.Ordered)
    (hlen : newPassword.bytes.length ≤ usersMaxPasswordLength)
    (hok : (userChangePassword store username.bytes newPassword.bytes).2 = .ok) :
    ∃ user, userGetIfExists store username.bytes = some user ∧
      userGetIfExists (userChangePassword store username.bytes newPassword.bytes).1
        username.bytes = some (overwritePassword newPassword.bytes user) := by
  obtain ⟨hordered', -, heffect⟩ := changePassword_spec hordered username newPassword hlen
  rw [if_pos hok] at heffect
  obtain ⟨user, hreplaced, rfl⟩ := heffect
  have huser : user.Shaped := hreplaced.shaped hordered
  exact ⟨user, hreplaced.found hordered hordered' (huser.name_congr rfl)⟩

theorem userChangeRole_found {username : CString} {newRole : UserPrivilegeLevel}
    (hordered : store.Ordered)
    (hok : (userChangeRole store username.bytes newRole).2 = .ok) :
    ∃ user, userGetIfExists store username.bytes = some user ∧
      userGetIfExists (userChangeRole store username.bytes newRole).1 username.bytes =
        some { user with privilegeLevel := newRole } := by
  obtain ⟨hordered', -, heffect⟩ := changeRole_spec hordered username newRole
  rw [if_pos hok] at heffect
  obtain ⟨user, hreplaced, rfl⟩ := heffect
  have huser : user.Shaped := hreplaced.shaped hordered
  exact ⟨user, hreplaced.found hordered hordered' (huser.name_congr rfl)⟩

/-- A call that fails changes nothing. -/
theorem UserOp.apply_of_ne_ok (op : UserOp) (hordered : store.Ordered)
    (h : (op.apply store).2 ≠ .ok) : (op.apply store).1 = store := by
  obtain ⟨-, hspec⟩ := op.apply_spec hordered
  rcases op with ⟨username, password, pl, stack⟩ | username |
    ⟨username, newPassword, hlen⟩ | ⟨username, newRole⟩
  · exact (if_neg h).mp hspec.2
  · exact (if_neg h).mp hspec.2
  · exact (if_neg h).mp hspec.2
  · exact (if_neg h).mp hspec.2

/-- Who is there after a call. -/
theorem UserOp.isSome_lookup_iff (h : store.Ordered) (op : UserOp) (n : CString) :
    (userGetIfExists (op.apply store).1 n.bytes).isSome ↔
      op.Creates store n ∨ ((userGetIfExists store n.bytes).isSome ∧ op ≠ .remove n) := by
  by_cases hn : n = op.username
  · subst hn
    obtain ⟨hordered, hspec⟩ := op.apply_spec h
    rcases op with ⟨username, password, pl, stack⟩ | username |
      ⟨username, newPassword, hlen⟩ | ⟨username, newRole⟩
    · obtain ⟨-, heffect⟩ := hspec
      split_ifs at heffect with hok
      · obtain ⟨user, ⟨l₁, l₂, -, hnodes'⟩, rfl, -⟩ := heffect
        refine iff_of_true ?_ (.inl ⟨password, pl, stack, rfl, hok⟩)
        exact Option.isSome_iff_exists.mpr ⟨user, (hordered.lookup_middle hnodes').1⟩
      · rw [heffect]
        constructor
        · intro hsome
          exact .inr ⟨hsome, nofun⟩
        · rintro (⟨password', pl', stack', -, hok'⟩ | ⟨hsome, -⟩)
          · exact absurd hok' hok
          · exact hsome
    · refine iff_of_false ?_ ?_
      · obtain ⟨hstatus, heffect⟩ := hspec
        split_ifs at heffect with hok
        · obtain ⟨user, ⟨l₁, l₂, hnodes', hnodes⟩, rfl⟩ := heffect
          have hnone := (h.lookup_middle hnodes).2
          rw [← hnodes'] at hnone
          change ¬ (List.find? (userMatches user.name.bytes) _).isSome = true
          rw [hnone]
          decide
        · rw [heffect]
          have hnone := not_not.mp (mt hstatus.mpr hok)
          rw [UserOp.username, hnone]
          decide
      · rintro (⟨password, pl, stack, hcreate, -⟩ | ⟨-, hne⟩)
        · cases hcreate
        · exact hne rfl
    · have hnot : ¬ (UserOp.changePassword username newPassword hlen).Creates store username := by
        rintro ⟨password, pl, stack, hcreate, -⟩
        cases hcreate
      obtain ⟨-, heffect⟩ := hspec
      split_ifs at heffect
      · obtain ⟨user, hreplaced, rfl⟩ := heffect
        have huser : user.Shaped := hreplaced.shaped h
        obtain ⟨hold, hnew⟩ := hreplaced.found h hordered (huser.name_congr rfl)
        exact iff_of_true (by rw [UserOp.username, hnew]; rfl)
          (.inr ⟨by rw [UserOp.username, hold]; rfl, nofun⟩)
      · rw [heffect]
        exact ⟨fun hsome => .inr ⟨hsome, nofun⟩, fun hor => (hor.resolve_left hnot).1⟩
    · have hnot : ¬ (UserOp.changeRole username newRole).Creates store username := by
        rintro ⟨password, pl, stack, hcreate, -⟩
        cases hcreate
      obtain ⟨-, heffect⟩ := hspec
      split_ifs at heffect
      · obtain ⟨user, hreplaced, rfl⟩ := heffect
        have huser : user.Shaped := hreplaced.shaped h
        obtain ⟨hold, hnew⟩ := hreplaced.found h hordered (huser.name_congr rfl)
        exact iff_of_true (by rw [UserOp.username, hnew]; rfl)
          (.inr ⟨by rw [UserOp.username, hold]; rfl, nofun⟩)
      · rw [heffect]
        exact ⟨fun hsome => .inr ⟨hsome, nofun⟩, fun hor => (hor.resolve_left hnot).1⟩
  · rw [op.lookup_ne h hn]
    constructor
    · intro hsome
      refine .inr ⟨hsome, ?_⟩
      rintro rfl
      exact hn rfl
    · rintro (⟨password, pl, stack, rfl, -⟩ | ⟨hsome, -⟩)
      · exact absurd rfl hn
      · exact hsome

end Specs

/-! ## Histories -/

/-- One call on the store; no call faults. -/
def userStep (store : UserStore) (op : UserOp) : Except Fault UserStore := .ok (op.apply store).1

/-- The default administrator. -/
def adminName : CString := ⟨[97, 100, 109, 105, 110], by decide⟩

/-- `n` is the default administrator or was created, and has not been removed
since. -/
def Live (ops : List UserOp) (n : CString) : Prop :=
  (n = adminName ∧ ∀ op ∈ ops, op ≠ .remove n) ∨
    ∃ before op after store, ops = before ++ op :: after ∧
      run userStep usersInit before = .ok store ∧ op.Creates store n ∧
      ∀ op' ∈ after, op' ≠ .remove n

section Histories

/-- The record `users_init` adds. -/
def adminUser : User where
  username := adminLiteral
  password := adminLiteral
  privilegeLevel := userPrivilegeAdmin

theorem usersInit_nodes : usersInit.usersList.nodes = [adminUser] := rfl

theorem adminUser_name : adminUser.name = adminName := by
  rw [CString.ext_iff]
  change cString (adminName.bytes ++ List.replicate 251 0 ++ _ ++ _) = adminName.bytes
  rw [List.append_assoc, List.append_assoc]
  exact cString_append_zero adminName.noNul

theorem usersInit_ordered : usersInit.Ordered where
  ascending := List.pairwise_singleton _ _
  size := rfl
  shaped := by
    intro user huser
    rw [usersInit_nodes, List.mem_singleton] at huser
    rw [huser]
    have hlen : adminLiteral.length = 256 := by
      rw [adminLiteral, List.length_append, List.length_replicate]
      rfl
    exact ⟨hlen, hlen, List.mem_append_right _ (List.mem_replicate.mpr ⟨by decide, rfl⟩)⟩

theorem usersInit_lookup_iff (n : CString) :
    (userGetIfExists usersInit n.bytes).isSome ↔ n = adminName := by
  rw [userGetIfExists, usersInit_nodes, ← adminUser_name, List.find?_isSome]
  simp only [List.mem_singleton, exists_eq_left, userMatches_iff]
  exact eq_comm

theorem run_userStep (ops : List UserOp) :
    ∃ store, run userStep usersInit ops = .ok store ∧ store.Ordered := by
  refine run_no_fault (P := fun _ _ => True) ?_ usersInit_ordered
    (Steps.of_forall (fun _ _ => trivial) usersInit ops)
  intro store op h _
  exact ⟨_, rfl, (op.apply_spec h).1⟩

theorem ordered_of_run {ops : List UserOp} (hrun : run userStep usersInit ops = .ok store) :
    store.Ordered := by
  obtain ⟨store', hrun', hordered⟩ := run_userStep ops
  rwa [← Except.ok.inj (hrun'.symm.trans hrun)]

theorem live_append_iff {ops : List UserOp} {store : UserStore}
    (hrun : run userStep usersInit ops = .ok store) (op : UserOp) (n : CString) :
    Live (ops ++ [op]) n ↔ op.Creates store n ∨ (Live ops n ∧ op ≠ .remove n) := by
  constructor
  · rintro (⟨hn, hkept⟩ | ⟨before, op', after, store', hops, hrun', hcreates, hkept⟩)
    · refine .inr ⟨.inl ⟨hn, fun op' hop' => hkept op' (List.mem_append_left _ hop')⟩, ?_⟩
      exact hkept op (by simp)
    · rcases List.eq_nil_or_concat after with rfl | ⟨after, last, rfl⟩
      · obtain ⟨rfl, hlast⟩ := List.append_inj' hops rfl
        rw [List.cons.injEq] at hlast
        obtain ⟨rfl, -⟩ := hlast
        rw [hrun, Except.ok.injEq] at hrun'
        subst hrun'
        exact .inl hcreates
      · rw [List.concat_eq_append, ← List.cons_append, ← List.append_assoc] at hops
        obtain ⟨rfl, hlast⟩ := List.append_inj' hops rfl
        rw [List.cons.injEq] at hlast
        obtain ⟨rfl, -⟩ := hlast
        refine .inr ⟨.inr ⟨before, op', after, store', rfl, hrun', hcreates, ?_⟩, ?_⟩
        · intro op'' hop''
          exact hkept op'' (by simp [hop''])
        · exact hkept op (by simp)
  · rintro (hcreates | ⟨⟨hn, hkept⟩ | ⟨before, op', after, store', rfl, hrun', hcreates, hkept⟩,
      hop⟩)
    · exact .inr ⟨ops, op, [], store, rfl, hrun, hcreates, by simp⟩
    · refine .inl ⟨hn, ?_⟩
      intro op' hop'
      rcases List.mem_append.mp hop' with hold | hnew
      · exact hkept op' hold
      · rw [List.mem_singleton.mp hnew]
        exact hop
    · refine .inr ⟨before, op', after ++ [op], store', by simp, hrun', hcreates, ?_⟩
      intro op'' hop''
      rcases List.mem_append.mp hop'' with hold | hnew
      · exact hkept op'' hold
      · rw [List.mem_singleton.mp hnew]
        exact hop

theorem isSome_lookup_iff_live {ops : List UserOp} {store : UserStore}
    (hrun : run userStep usersInit ops = .ok store) (n : CString) :
    (userGetIfExists store n.bytes).isSome ↔ Live ops n := by
  induction ops using List.reverseRecOn generalizing store with
  | nil =>
      cases hrun
      rw [usersInit_lookup_iff]
      constructor
      · intro hn
        exact .inl ⟨hn, by simp⟩
      · rintro (⟨hn, -⟩ | ⟨before, op, after, store, hops, -⟩)
        · exact hn
        · simp at hops
  | append_singleton ops op ih =>
      obtain ⟨store', hrun', hlast⟩ := run_append_ok_iff.mp hrun
      obtain ⟨store'', hrun'', hordered⟩ := run_userStep ops
      rw [hrun', Except.ok.injEq] at hrun''
      subst hrun''
      cases hlast
      rw [live_append_iff hrun', op.isSome_lookup_iff hordered, ih hrun']

/-- After any calls the list is sorted by name without duplicates, its size is
cached right, the names found are those that were created and not removed
since, and the next call does what it is for and touches nobody else. -/
theorem userStore_isFiniteMap (ops : List UserOp) :
    ∃ store, run userStep usersInit ops = .ok store ∧
      Ascending CString.compare User.name store.usersList.nodes ∧
      store.usersList.size = store.usersList.nodes.length ∧
      (∀ n : CString, (userGetIfExists store n.bytes).isSome ↔ Live ops n) ∧
      ∀ op : UserOp, op.Spec store (op.apply store).1 (op.apply store).2 ∧
        ∀ m : CString, m ≠ op.username →
          userGetIfExists (op.apply store).1 m.bytes = userGetIfExists store m.bytes := by
  obtain ⟨store, hrun, hordered⟩ := run_userStep ops
  refine ⟨store, hrun, hordered.ascending, hordered.size, isSome_lookup_iff_live hrun, ?_⟩
  intro op
  exact ⟨(op.apply_spec hordered).2, fun m hm => op.lookup_ne hordered hm⟩

end Histories

end Socks5Proxy
