import Socks5Proxy.Server.UserMap
import Socks5Proxy.Shared.ListHeap

/-!
# The user store in memory

`users.c` works on the nodes of `list.c`: it searches with the iterator of the
list, and what `user_get_if_exists` returns is a pointer into a block, through
which passwords and roles are changed and with which `list_remove` is called.

Whatever is called in whatever order, the memory follows the store that the
rest of the development works with, no call touches memory that is not
allocated, and `users_free` leaves nothing behind.  Where the allocator gives
out, `user_create` reports success, and it has stored nothing.
-/

namespace Socks5Proxy

open Library Library.LinkedList Library.Memory

/-! ## The functions -/

/-- The globals of `users.c`, with the memory behind `usersList`. -/
structure UserHeap where
  usersList : LinkedCDT User
  totalAdmins : ℤ

namespace UserHeap

/-- `users_init`.  `alloc` says whether the list itself was allocated, `aux`
and `block` are the answers of `malloc` to `list_add`. -/
def usersInit (alloc : Bool) (aux block : Option ℕ) : Except ListFault UserHeap :=
  if alloc then
    match LinkedCDT.listCreate.listAdd userCmp 0 adminUser aux block with
    | .error fault => .error fault
    | .ok (l, _) => .ok { usersList := l, totalAdmins := 1 }
  else
    .error .nullPointer

/-- The loop of `user_get_if_exists`. -/
def findFrom (username : List UInt8) :
    ℕ → LinkedCDT User → Except ListFault (LinkedCDT User × Option ℕ)
  | 0, l =>
    match l.listHasNext with
    | .error fault => .error fault
    | .ok true => .error .diverges
    | .ok false => .ok (l, none)
  | n + 1, l =>
    match l.listHasNext with
    | .error fault => .error fault
    | .ok false => .ok (l, none)
    | .ok true =>
      match l.listGetNext with
      | .error fault => .error fault
      | .ok (_, none) => .error .nullPointer
      | .ok (l, some user) =>
        match l.read user with
        | .error fault => .error fault
        | .ok data =>
          if userMatches username data then .ok (l, some user) else findFrom username n l

/-- `user_get_if_exists`; `n` bounds the passes of its loop. -/
def userGetIfExists (n : ℕ) (l : LinkedCDT User) (username : List UInt8) :
    Except ListFault (LinkedCDT User × Option ℕ) :=
  findFrom username n l.listBeginIter

/-- A write through a pointer into a block. -/
def write (l : LinkedCDT User) (user : ℕ) (f : User → User) :
    Except ListFault (LinkedCDT User) :=
  match l.read user with
  | .error fault => .error fault
  | .ok data => .ok { l with blocks := Function.update l.blocks user (some (f data)) }

def userCreate (n : ℕ) (h : UserHeap) (username password : List UInt8)
    (pl : UserPrivilegeLevel) (stack : UInt8 × UInt8) (aux block : Option ℕ) :
    Except ListFault (UserHeap × UserStatus) :=
  if username.length ≥ usersMaxUsernameLength then
    .ok (h, .credTooLong)
  else if password.length ≥ usersMaxPasswordLength then
    .ok (h, .credTooLong)
  else
    match userGetIfExists n h.usersList username with
    | .error fault => .error fault
    | .ok (l, some _) => .ok ({ h with usersList := l }, .alreadyExists)
    | .ok (l, none) =>
      -- what `list_add` returns is not looked at
      match l.listAdd userCmp n (createdUser username password pl stack) aux block with
      | .error fault => .error fault
      | .ok (l, _) =>
        .ok
          ({ usersList := l
             totalAdmins :=
              if pl = userPrivilegeAdmin then h.totalAdmins + 1 else h.totalAdmins },
            .ok)

def userRemove (n : ℕ) (h : UserHeap) (username : List UInt8) :
    Except ListFault (UserHeap × UserStatus) :=
  match userGetIfExists n h.usersList username with
  | .error fault => .error fault
  | .ok (l, none) => .ok ({ h with usersList := l }, .badUsername)
  | .ok (l, some user) =>
    match l.read user with
    | .error fault => .error fault
    | .ok data =>
      match l.listRemove userCmp n data with
      | .error fault => .error fault
      | .ok (l, _) => .ok ({ h with usersList := l }, .ok)

/-- What the two changes of a record have in common. -/
def userChange (n : ℕ) (h : UserHeap) (username : List UInt8) (f : User → User) :
    Except ListFault (UserHeap × UserStatus) :=
  match userGetIfExists n h.usersList username with
  | .error fault => .error fault
  | .ok (l, none) => .ok ({ h with usersList := l }, .badUsername)
  | .ok (l, some user) =>
    match write l user f with
    | .error fault => .error fault
    | .ok l => .ok ({ h with usersList := l }, .ok)

def userChangePassword (n : ℕ) (h : UserHeap) (username newPassword : List UInt8) :
    Except ListFault (UserHeap × UserStatus) :=
  userChange n h username (overwritePassword newPassword)

def userChangeRole (n : ℕ) (h : UserHeap) (username : List UInt8)
    (newRole : UserPrivilegeLevel) : Except ListFault (UserHeap × UserStatus) :=
  userChange n h username fun user => { user with privilegeLevel := newRole }

def userAuthenticate (n : ℕ) (h : UserHeap) (username password : List UInt8) :
    Except ListFault (UserHeap × UserStatus) :=
  match userGetIfExists n h.usersList username with
  | .error fault => .error fault
  | .ok (l, none) => .ok ({ h with usersList := l }, .badUsername)
  | .ok (l, some user) =>
    match l.read user with
    | .error fault => .error fault
    | .ok data =>
      if strcmp data.passwordString password ≠ 0 then
        .ok ({ h with usersList := l }, .wrongPassword)
      else
        .ok ({ h with usersList := l }, .ok)

def userIsAdmin (n : ℕ) (h : UserHeap) (username : List UInt8) :
    Except ListFault (UserHeap × Bool) :=
  match userGetIfExists n h.usersList username with
  | .error fault => .error fault
  | .ok (l, none) => .ok ({ h with usersList := l }, false)
  | .ok (l, some user) =>
    match l.read user with
    | .error fault => .error fault
    | .ok data => .ok ({ h with usersList := l }, data.privilegeLevel == userPrivilegeAdmin)

/-- The body of the loop of `users_get_connected_users_list`, for a copy of the
record. -/
def writeLine (buffer : ℕ → UInt8) (copied : ℕ) (user : User) : (ℕ → UInt8) × ℕ :=
  let buffer := store buffer copied [if user.privilegeLevel = userPrivilegeAdmin then 64 else 35]
  let copied := copied + 1
  let buffer := store buffer copied user.usernameString
  let copied := copied + user.usernameString.length
  (store buffer copied [10], copied + 1)

def listFrom :
    ℕ → LinkedCDT User → (ℕ → UInt8) → ℕ →
      Except ListFault (LinkedCDT User × (ℕ → UInt8) × ℕ)
  | 0, l, buffer, copied =>
    match l.listHasNext with
    | .error fault => .error fault
    | .ok true => .error .diverges
    | .ok false => .ok (l, buffer, copied)
  | n + 1, l, buffer, copied =>
    match l.listHasNext with
    | .error fault => .error fault
    | .ok false => .ok (l, buffer, copied)
    | .ok true =>
      match l.listGetNext with
      | .error fault => .error fault
      | .ok (_, none) => .error .nullPointer
      | .ok (l, some user) =>
        match l.read user with
        | .error fault => .error fault
        | .ok data =>
          listFrom n l (writeLine buffer copied data).1 (writeLine buffer copied data).2

def usersGetConnectedUsersList (n : ℕ) (h : UserHeap) (buffer : ℕ → UInt8) (start : ℕ) :
    Except ListFault (UserHeap × (ℕ → UInt8) × ℕ) :=
  match listFrom n h.usersList.listBeginIter buffer start with
  | .error fault => .error fault
  | .ok (l, buffer, copied) => .ok ({ h with usersList := l }, store buffer copied [0], copied)

def usersFree (n : ℕ) (h : UserHeap) : Except ListFault UserHeap :=
  match h.usersList.listFree n with
  | .error fault => .error fault
  | .ok l => .ok { h with usersList := l }

/-- The memory holds the store. -/
def Holds (h : UserHeap) (store : UserStore) : Prop :=
  h.usersList.Holds store.usersList ∧ h.totalAdmins = store.totalAdmins

section Searches

variable {l : LinkedCDT User} {cells : List (LinkedCDT.Cell User)} {username : List UInt8} {n : ℕ}

/-- The loop finds the block of the first record of the name. -/
theorem findFrom_eq (username : List UInt8) (h : l.Iterates cells) (hn : cells.length ≤ n) :
    ∃ iter, findFrom username n l =
      .ok ({ l with iter := iter },
        (cells.find? fun c => userMatches username c.data).map LinkedCDT.Cell.block) := by
  induction cells generalizing l n with
  | nil =>
      refine ⟨l.iter, ?_⟩
      rcases n with _ | n
      · rw [findFrom, h.hasNext_nil]
        rfl
      · rw [findFrom, h.hasNext_nil]
        rfl
  | cons c cells ih =>
      obtain ⟨n, rfl⟩ : ∃ m, n = m + 1 := Nat.exists_eq_add_one.mpr (Nat.zero_lt_of_lt hn)
      obtain ⟨hhas, l', hget, hread, hrest, iter, rfl⟩ := h.next
      rw [findFrom, hhas]
      dsimp only
      rw [hget]
      dsimp only
      rw [hread]
      dsimp only
      by_cases hmatches : userMatches username c.data
      · refine ⟨iter, ?_⟩
        rw [if_pos hmatches, List.find?_cons, hmatches]
        rfl
      · obtain ⟨iter', hrec⟩ := ih hrest (Nat.le_of_succ_le_succ hn)
        refine ⟨iter', ?_⟩
        rw [if_neg hmatches, hrec, List.find?_cons, Bool.eq_false_iff.mpr hmatches]

theorem updateFirst_append {α : Type} {found : α → Bool} {write : α → α} {xs ys : List α}
    {x : α} (hxs : ∀ y ∈ xs, found y = false) (hx : found x = true) :
    updateFirst found write (xs ++ x :: ys) = xs ++ write x :: ys := by
  induction xs with
  | nil => rw [List.nil_append, updateFirst, if_pos hx, List.nil_append]
  | cons y xs ih =>
      have hy : ¬ found y = true := by simp [hxs y]
      rw [List.cons_append, updateFirst, if_neg hy,
        ih fun z hz => hxs z (List.mem_cons_of_mem _ hz), List.cons_append]

/-- Only the iterator changes in a search.  What it finds is the first record of
the name, by a pointer that can be read and written through. -/
theorem userGetIfExists_cases {list : ListCDT User} (h : l.Holds list) (hn : list.size ≤ n)
    (username : List UInt8) :
    ∃ l', l'.Holds list ∧ l'.nodes = l.nodes ∧ l'.blocks = l.blocks ∧
      ((userGetIfExists n l username = .ok (l', none) ∧
          list.nodes.find? (userMatches username) = none) ∨
        ∃ block data, userGetIfExists n l username = .ok (l', some block) ∧
          list.nodes.find? (userMatches username) = some data ∧ l'.read block = .ok data ∧
          ∀ f : User → User, { l' with blocks := Function.update l'.blocks block (some (f data)) }.Holds
            { list with nodes := updateFirst (userMatches username) f list.nodes }) := by
  obtain ⟨cells, hl, rfl⟩ := h
  obtain ⟨iter, hfind⟩ := findFrom_eq username hl.iterates hn
  have hvalue : (cells.map LinkedCDT.Cell.data).find? (userMatches username) =
      (cells.find? fun c => userMatches username c.data).map LinkedCDT.Cell.data := by
    rw [List.find?_map]
    rfl
  refine ⟨{ l with iter := iter }, ⟨cells, hl.setIter iter, rfl⟩, rfl, rfl, ?_⟩
  rw [userGetIfExists, hfind, hvalue]
  obtain hfound | ⟨c, hfound⟩ :=
    Option.eq_none_or_eq_some (cells.find? fun c => userMatches username c.data)
  · rw [hfound]
    exact .inl ⟨rfl, rfl⟩
  · obtain ⟨hc, done, left, rfl, hdone⟩ := List.find?_eq_some_iff_append.mp hfound
    rw [hfound]
    refine .inr ⟨c.block, c.data, rfl, rfl, hl.read (by simp), ?_⟩
    intro f
    refine ⟨_, (hl.setIter iter).write (f c.data), ?_⟩
    rw [List.map_append, List.map_cons, updateFirst_append (by simpa using hdone) hc]
    simp

end Searches

/-! ## The operations follow the store -/

section Operations

variable {h : UserHeap} {store : UserStore} {n : ℕ} {username password : List UInt8}
variable {pl : UserPrivilegeLevel} {stack : UInt8 × UInt8} {aux block : Option ℕ}

theorem Holds.usersInit (aux block : Option ℕ) :
    ∃ h, UserHeap.usersInit true aux block = .ok h ∧
      h.Holds (if aux.isSome ∧ block.isSome then Socks5Proxy.usersInit
        else { usersList := ⟨[], 0⟩, totalAdmins := 1 }) := by
  have hempty : (LinkedCDT.listCreate : LinkedCDT User).Holds ⟨[], 0⟩ :=
    ⟨[], LinkedCDT.listCreate_consists, rfl⟩
  have haux : ∀ a ∈ aux, (LinkedCDT.listCreate : LinkedCDT User).nodes a = none := fun _ _ => rfl
  have hblock : ∀ b ∈ block, (LinkedCDT.listCreate : LinkedCDT User).blocks b = none :=
    fun _ _ => rfl
  obtain ⟨l, r, hadd, -, hl⟩ := hempty.listAdd (le_refl 0) haux hblock userCmp adminUser
  refine ⟨{ usersList := l, totalAdmins := 1 }, ?_, ?_⟩
  · rw [UserHeap.usersInit, if_pos rfl, hadd]
  · by_cases hmemory : aux.isSome ∧ block.isSome
    · rw [if_pos hmemory] at hl ⊢
      exact ⟨hl, rfl⟩
    · rw [if_neg hmemory] at hl ⊢
      exact ⟨hl, rfl⟩

/-- Without memory `user_create` stores nothing; it counts an administrator all
the same, and what it returns is the same. -/
theorem Holds.userCreate (hh : h.Holds store) (hn : store.usersList.size ≤ n)
    (haux : ∀ a ∈ aux, h.usersList.nodes a = none)
    (hblock : ∀ b ∈ block, h.usersList.blocks b = none) :
    ∃ h', h.userCreate n username password pl stack aux block =
        .ok (h', (Socks5Proxy.userCreate store username password pl stack).2) ∧
      h'.Holds
        (if aux.isSome ∧ block.isSome then
          (Socks5Proxy.userCreate store username password pl stack).1
        else
          { (Socks5Proxy.userCreate store username password pl stack).1 with
            usersList := store.usersList }) := by
  unfold UserHeap.userCreate Socks5Proxy.userCreate
  split
  · exact ⟨h, rfl, by split <;> exact hh⟩
  · split
    · exact ⟨h, rfl, by split <;> exact hh⟩
    · obtain ⟨l, hl, hnodes, hblocks, hcases⟩ := userGetIfExists_cases hh.1 hn username
      rw [Socks5Proxy.userGetIfExists]
      rcases hcases with ⟨hfind, hvalue⟩ | ⟨user, data, hfind, hvalue, -⟩
      · rw [hfind, hvalue]
        dsimp only
        rw [← hnodes] at haux
        rw [← hblocks] at hblock
        obtain ⟨l', r, hadd, -, hl'⟩ := hl.listAdd hn haux hblock userCmp
          (createdUser username password pl stack)
        rw [hadd]
        refine ⟨_, rfl, ?_⟩
        by_cases hmemory : aux.isSome ∧ block.isSome
        · rw [if_pos hmemory] at hl' ⊢
          exact ⟨hl', by rw [hh.2]⟩
        · rw [if_neg hmemory] at hl' ⊢
          exact ⟨hl', by rw [hh.2]⟩
      · rw [hfind, hvalue]
        exact ⟨_, rfl, by split <;> exact ⟨hl, hh.2⟩⟩

theorem Holds.userRemove (hh : h.Holds store) (hn : store.usersList.size ≤ n) :
    ∃ h', h.userRemove n username = .ok (h', (Socks5Proxy.userRemove store username).2) ∧
      h'.Holds (Socks5Proxy.userRemove store username).1 := by
  obtain ⟨l, hl, -, -, hcases⟩ := userGetIfExists_cases hh.1 hn username
  rw [UserHeap.userRemove, Socks5Proxy.userRemove, Socks5Proxy.userGetIfExists]
  rcases hcases with ⟨hfind, hvalue⟩ | ⟨user, data, hfind, hvalue, hread, -⟩
  · rw [hfind, hvalue]
    exact ⟨_, rfl, hl, hh.2⟩
  · obtain ⟨l', hremove, -, hl'⟩ := hl.listRemove hn userCmp data
    rw [hfind, hvalue]
    dsimp only
    rw [hread]
    dsimp only
    rw [hremove]
    exact ⟨_, rfl, hl', hh.2⟩

/-- The change of a record goes through the pointer that was found. -/
theorem Holds.userChange (hh : h.Holds store) (username : List UInt8)
    (hn : store.usersList.size ≤ n) (f : User → User) :
    ∃ h', h.userChange n username f =
        .ok (h', match Socks5Proxy.userGetIfExists store username with
          | some _ => .ok
          | none => .badUsername) ∧
      h'.Holds (match Socks5Proxy.userGetIfExists store username with
        | some _ => store.update username f
        | none => store) := by
  obtain ⟨l, hl, -, -, hcases⟩ := userGetIfExists_cases hh.1 hn username
  rw [UserHeap.userChange, Socks5Proxy.userGetIfExists]
  rcases hcases with ⟨hfind, hvalue⟩ | ⟨user, data, hfind, hvalue, hread, hwrite⟩
  · rw [hfind, hvalue]
    exact ⟨_, rfl, hl, hh.2⟩
  · rw [hfind, hvalue]
    dsimp only
    rw [write, hread]
    exact ⟨_, rfl, hwrite f, hh.2⟩

theorem Holds.userChangePassword (hh : h.Holds store) (hn : store.usersList.size ≤ n) :
    ∃ h', h.userChangePassword n username password =
        .ok (h', (Socks5Proxy.userChangePassword store username password).2) ∧
      h'.Holds (Socks5Proxy.userChangePassword store username password).1 := by
  obtain ⟨h', hchange, hh'⟩ := hh.userChange username hn (overwritePassword password)
  refine ⟨h', ?_⟩
  rw [UserHeap.userChangePassword, hchange, Socks5Proxy.userChangePassword]
  cases hfind : Socks5Proxy.userGetIfExists store username with
  | none =>
      rw [hfind] at hh'
      exact ⟨rfl, hh'⟩
  | some user =>
      rw [hfind] at hh'
      exact ⟨rfl, hh'⟩

theorem Holds.userChangeRole (hh : h.Holds store) (hn : store.usersList.size ≤ n) :
    ∃ h', h.userChangeRole n username pl =
        .ok (h', (Socks5Proxy.userChangeRole store username pl).2) ∧
      h'.Holds (Socks5Proxy.userChangeRole store username pl).1 := by
  obtain ⟨h', hchange, hh'⟩ :=
    hh.userChange username hn fun user => { user with privilegeLevel := pl }
  refine ⟨h', ?_⟩
  rw [UserHeap.userChangeRole, hchange, Socks5Proxy.userChangeRole]
  cases hfind : Socks5Proxy.userGetIfExists store username with
  | none =>
      rw [hfind] at hh'
      exact ⟨rfl, hh'⟩
  | some user =>
      rw [hfind] at hh'
      exact ⟨rfl, hh'⟩

theorem Holds.userAuthenticate (hh : h.Holds store) (hn : store.usersList.size ≤ n) :
    ∃ h', h.userAuthenticate n username password =
        .ok (h', Socks5Proxy.userAuthenticate store username password) ∧ h'.Holds store := by
  obtain ⟨l, hl, -, -, hcases⟩ := userGetIfExists_cases hh.1 hn username
  rw [UserHeap.userAuthenticate, Socks5Proxy.userAuthenticate, Socks5Proxy.userGetIfExists]
  rcases hcases with ⟨hfind, hvalue⟩ | ⟨user, data, hfind, hvalue, hread, -⟩
  · rw [hfind, hvalue]
    exact ⟨_, rfl, hl, hh.2⟩
  · rw [hfind, hvalue]
    dsimp only
    rw [hread]
    dsimp only
    split
    · exact ⟨_, rfl, hl, hh.2⟩
    · exact ⟨_, rfl, hl, hh.2⟩

theorem Holds.userIsAdmin (hh : h.Holds store) (hn : store.usersList.size ≤ n) :
    ∃ h', h.userIsAdmin n username = .ok (h', Socks5Proxy.userIsAdmin store username) ∧
      h'.Holds store := by
  obtain ⟨l, hl, -, -, hcases⟩ := userGetIfExists_cases hh.1 hn username
  rw [UserHeap.userIsAdmin, Socks5Proxy.userIsAdmin, Socks5Proxy.userGetIfExists]
  rcases hcases with ⟨hfind, hvalue⟩ | ⟨user, data, hfind, hvalue, hread, -⟩
  · rw [hfind, hvalue]
    exact ⟨_, rfl, hl, hh.2⟩
  · rw [hfind, hvalue]
    dsimp only
    rw [hread]
    exact ⟨_, rfl, hl, hh.2⟩

theorem writeLine_eq (buffer : ℕ → UInt8) (copied : ℕ) (user : User) :
    writeLine buffer copied user =
      (Memory.store buffer copied (userLine user), copied + (userLine user).length) := by
  have htwo := Memory.store_append buffer copied
    [if user.privilegeLevel = userPrivilegeAdmin then (64 : UInt8) else 35] user.usernameString
  have hthree := Memory.store_append buffer copied
    ([if user.privilegeLevel = userPrivilegeAdmin then (64 : UInt8) else 35] ++
      user.usernameString) [10]
  rw [List.length_append, List.length_singleton, ← Nat.add_assoc] at hthree
  rw [List.length_singleton] at htwo
  unfold writeLine userLine
  dsimp only
  rw [htwo, hthree]
  refine Prod.ext rfl ?_
  simp only [List.length_cons, List.length_append, List.length_nil]
  omega

theorem listFrom_eq {l : LinkedCDT User} {cells : List (LinkedCDT.Cell User)}
    (hl : l.Iterates cells) (hn : cells.length ≤ n) (buffer : ℕ → UInt8) (start : ℕ) :
    ∃ iter, listFrom n l buffer start =
      .ok ({ l with iter := iter },
        Memory.store buffer start ((cells.map LinkedCDT.Cell.data).flatMap userLine),
        start + ((cells.map LinkedCDT.Cell.data).flatMap userLine).length) := by
  induction cells generalizing l n buffer start with
  | nil =>
      refine ⟨l.iter, ?_⟩
      have hstore : Memory.store buffer start [] = buffer := by
        funext i
        simp [Memory.store]
      rcases n with _ | n
      · rw [listFrom, hl.hasNext_nil]
        simp [hstore]
      · rw [listFrom, hl.hasNext_nil]
        simp [hstore]
  | cons c cells ih =>
      obtain ⟨n, rfl⟩ : ∃ m, n = m + 1 := Nat.exists_eq_add_one.mpr (Nat.zero_lt_of_lt hn)
      obtain ⟨hhas, l', hget, hread, hrest, iter, rfl⟩ := hl.next
      obtain ⟨iter', hrec⟩ := ih hrest (Nat.le_of_succ_le_succ hn)
        (Memory.store buffer start (userLine c.data)) (start + (userLine c.data).length)
      refine ⟨iter', ?_⟩
      rw [listFrom, hhas]
      dsimp only
      rw [hget]
      dsimp only
      rw [hread]
      dsimp only
      rw [writeLine_eq, hrec, Memory.store_append, List.map_cons, List.flatMap_cons,
        List.length_append, Nat.add_assoc]

theorem Holds.usersGetConnectedUsersList (hh : h.Holds store) (hn : store.usersList.size ≤ n)
    (buffer : ℕ → UInt8) (start : ℕ) :
    ∃ h', h.usersGetConnectedUsersList n buffer start =
        .ok (h', Socks5Proxy.usersGetConnectedUsersList store buffer start) ∧ h'.Holds store := by
  obtain ⟨⟨cells, hl, hlist⟩, hadmins⟩ := hh
  rw [hlist] at hn
  obtain ⟨iter, hfrom⟩ := listFrom_eq hl.iterates hn buffer start
  have hsame : ({ h.usersList with iter := iter } : LinkedCDT User).Holds store.usersList :=
    ⟨cells, hl.setIter iter, hlist⟩
  rw [UserHeap.usersGetConnectedUsersList, hfrom]
  refine ⟨{ h with usersList := { h.usersList with iter := iter } }, ?_, hsame, hadmins⟩
  rw [Socks5Proxy.usersGetConnectedUsersList, hlist]
  dsimp only
  rw [Memory.store_append]
  rfl

theorem Holds.usersFree (hh : h.Holds store) (hn : store.usersList.size ≤ n) :
    ∃ h', h.usersFree n = .ok h' ∧ (∀ a, h'.usersList.nodes a = none) ∧
      ∀ b, h'.usersList.blocks b = none := by
  obtain ⟨l, hfree, hnodes, hblocks⟩ := hh.1.listFree hn
  refine ⟨{ h with usersList := l }, ?_, hnodes, hblocks⟩
  rw [UserHeap.usersFree, hfree]

theorem Holds.size (hh : h.Holds store) : h.usersList.size = store.usersList.size := by
  obtain ⟨⟨cells, hl, hlist⟩, -⟩ := hh
  rw [hl.size, hlist]

end Operations

end UserHeap

/-! ## Runs -/

inductive UserAnswer
  | status (status : UserStatus)
  | flag (admin : Bool)
  | text (buffer : ℕ → UInt8) (copied : ℕ)

/-- A call on the store, for a change with the answers of `malloc`. -/
inductive UserCall
  | change (op : UserOp) (aux block : Option ℕ)
  | authenticate (username password : CString)
  | isAdmin (username : CString)
  | list (buffer : ℕ → UInt8) (start : ℕ)

/-- A user store in memory and what the calls have returned. -/
structure UserRun where
  heap : UserHeap
  answers : List UserAnswer

/-- A change in memory. -/
def UserOp.inMemory (n : ℕ) (h : UserHeap) (aux block : Option ℕ) :
    UserOp → Except ListFault (UserHeap × UserStatus)
  | .create username password pl stack =>
    h.userCreate n username.bytes password.bytes pl stack aux block
  | .remove username => h.userRemove n username.bytes
  | .changePassword username newPassword _ =>
    h.userChangePassword n username.bytes newPassword.bytes
  | .changeRole username newRole => h.userChangeRole n username.bytes newRole

/-- A call whose loops make `n` passes at most. -/
def userHeapCall (n : ℕ) (h : UserHeap) : UserCall → Except ListFault (UserHeap × UserAnswer)
  | .change op aux block =>
    match op.inMemory n h aux block with
    | .error fault => .error fault
    | .ok (h, status) => .ok (h, .status status)
  | .authenticate username password =>
    match h.userAuthenticate n username.bytes password.bytes with
    | .error fault => .error fault
    | .ok (h, status) => .ok (h, .status status)
  | .isAdmin username =>
    match h.userIsAdmin n username.bytes with
    | .error fault => .error fault
    | .ok (h, admin) => .ok (h, .flag admin)
  | .list buffer start =>
    match h.usersGetConnectedUsersList n buffer start with
    | .error fault => .error fault
    | .ok (h, buffer, copied) => .ok (h, .text buffer copied)

def userHeapStep (s : UserRun) (e : ℕ × UserCall) : Except ListFault UserRun :=
  match userHeapCall e.1 s.heap e.2 with
  | .error fault => .error fault
  | .ok (h, answer) => .ok { heap := h, answers := s.answers ++ [answer] }

/-- A change of the store when memory may have given out: a user that finds no
memory is counted and not stored. -/
def UserOp.applyWithin (memory : Bool) (store : UserStore) (op : UserOp) :
    UserStore × UserStatus :=
  match op with
  | .create .. =>
    if memory then op.apply store
    else ({ (op.apply store).1 with usersList := store.usersList }, (op.apply store).2)
  | _ => op.apply store

/-- The call on the store without its memory. -/
def UserCall.reference (store : UserStore) : UserCall → UserStore × UserAnswer
  | .change op aux block =>
    ((op.applyWithin (aux.isSome && block.isSome) store).1,
      .status (op.applyWithin (aux.isSome && block.isSome) store).2)
  | .authenticate username password =>
    (store, .status (userAuthenticate store username.bytes password.bytes))
  | .isAdmin username => (store, .flag (userIsAdmin store username.bytes))
  | .list buffer start =>
    (store, .text (usersGetConnectedUsersList store buffer start).1
      (usersGetConnectedUsersList store buffer start).2)

def userReferenceStep (s : UserStore × List UserAnswer) (call : UserCall) :
    UserStore × List UserAnswer :=
  ((call.reference s.1).1, s.2 ++ [(call.reference s.1).2])

/-- What the allocator returns is free, and the loops may go once round the
list. -/
def UserServed (s : UserRun) (e : ℕ × UserCall) : Prop :=
  s.heap.usersList.size ≤ e.1 ∧
    ∀ op aux block, e.2 = .change op aux block →
      (∀ a ∈ aux, s.heap.usersList.nodes a = none) ∧
        ∀ b ∈ block, s.heap.usersList.blocks b = none

/-- The memory holds the store, and the calls have returned the same. -/
def UserRun.Follows (s : UserRun) (a : UserStore × List UserAnswer) : Prop :=
  s.heap.Holds a.1 ∧ s.answers = a.2

/-- What `users_init` leaves when memory may have given out. -/
def usersInitWithin (aux block : Option ℕ) : UserStore :=
  if aux.isSome ∧ block.isSome then usersInit else { usersList := ⟨[], 0⟩, totalAdmins := 1 }

section Runs

variable {h : UserHeap} {store : UserStore} {n : ℕ} {aux block : Option ℕ}

theorem UserOp.inMemory_follows (hh : h.Holds store) (op : UserOp)
    (hn : store.usersList.size ≤ n) (haux : ∀ a ∈ aux, h.usersList.nodes a = none)
    (hblock : ∀ b ∈ block, h.usersList.blocks b = none) :
    ∃ h', op.inMemory n h aux block =
        .ok (h', (op.applyWithin (aux.isSome && block.isSome) store).2) ∧
      h'.Holds (op.applyWithin (aux.isSome && block.isSome) store).1 := by
  cases op with
  | create username password pl stack =>
      obtain ⟨h', hcreate, hh'⟩ := hh.userCreate hn haux hblock
      cases hmemory : aux.isSome && block.isSome with
      | true =>
          rw [if_pos (Bool.and_eq_true_iff.mp hmemory)] at hh'
          exact ⟨h', hcreate, hh'⟩
      | false =>
          rw [if_neg fun hboth => by simp [hboth] at hmemory] at hh'
          exact ⟨h', hcreate, hh'⟩
  | remove username => exact hh.userRemove hn
  | changePassword username newPassword hlen => exact hh.userChangePassword hn
  | changeRole username newRole => exact hh.userChangeRole hn

/-- One call in memory is the call on the store. -/
theorem userHeapStep_follows {s : UserRun} {a : UserStore × List UserAnswer}
    {e : ℕ × UserCall} (hs : s.Follows a) (he : UserServed s e) :
    ∃ t, userHeapStep s e = .ok t ∧ t.Follows (userReferenceStep a e.2) := by
  obtain ⟨hheap, hanswers⟩ := hs
  obtain ⟨n, call⟩ := e
  obtain ⟨hn, hmalloc⟩ := he
  rw [hheap.size] at hn
  suffices hcall : ∃ h', userHeapCall n s.heap call = .ok (h', (call.reference a.1).2) ∧
      h'.Holds (call.reference a.1).1 by
    obtain ⟨h', hcall, hh'⟩ := hcall
    refine ⟨{ heap := h', answers := s.answers ++ [(call.reference a.1).2] }, ?_, hh', ?_⟩
    · rw [userHeapStep, hcall]
    · rw [hanswers]
      rfl
  cases call with
  | change op aux block =>
      obtain ⟨haux, hblock⟩ := hmalloc op aux block rfl
      obtain ⟨h', hop, hh'⟩ := op.inMemory_follows hheap hn haux hblock
      refine ⟨h', ?_, hh'⟩
      rw [userHeapCall, hop]
      rfl
  | authenticate username password =>
      obtain ⟨h', hop, hh'⟩ := hheap.userAuthenticate hn
      refine ⟨h', ?_, hh'⟩
      rw [userHeapCall, hop]
      rfl
  | isAdmin username =>
      obtain ⟨h', hop, hh'⟩ := hheap.userIsAdmin hn
      refine ⟨h', ?_, hh'⟩
      rw [userHeapCall, hop]
      rfl
  | list buffer start =>
      obtain ⟨h', hop, hh'⟩ := hheap.usersGetConnectedUsersList hn buffer start
      refine ⟨h', ?_, hh'⟩
      rw [userHeapCall, hop]
      rfl

variable {calls : List (ℕ × UserCall)} {t : UserRun}

theorem run_userHeapStep (hinit : UserHeap.usersInit true aux block = .ok h)
    (hcalls : Steps userHeapStep UserServed ⟨h, []⟩ calls) :
    ∃ t, run userHeapStep ⟨h, []⟩ calls = .ok t ∧
      t.Follows
        ((calls.map Prod.snd).foldl userReferenceStep (usersInitWithin aux block, [])) := by
  obtain ⟨h', hinit', hh'⟩ := UserHeap.Holds.usersInit aux block
  obtain rfl : h' = h := Except.ok.inj (hinit'.symm.trans hinit)
  have hs : UserRun.Follows ⟨h', []⟩ (usersInitWithin aux block, []) := ⟨hh', rfl⟩
  have hstep : ∀ s a e, UserRun.Follows s a → UserServed s e →
      ∃ t, userHeapStep s e = .ok t ∧ t.Follows (userReferenceStep a (Prod.snd e)) :=
    fun _ _ _ => userHeapStep_follows
  exact run_refines hstep hs hcalls

/-- Any calls in memory return what they return on the store, and the memory
holds the store at the end. -/
theorem userHeap_follows (hinit : UserHeap.usersInit true aux block = .ok h)
    (hcalls : Steps userHeapStep UserServed ⟨h, []⟩ calls) :
    ∃ t, run userHeapStep ⟨h, []⟩ calls = .ok t ∧
      t.heap.Holds
        ((calls.map Prod.snd).foldl userReferenceStep (usersInitWithin aux block, [])).1 ∧
      t.answers =
        ((calls.map Prod.snd).foldl userReferenceStep (usersInitWithin aux block, [])).2 :=
  run_userHeapStep hinit hcalls

theorem noNul_secondUser : (0 : UInt8) ∉ [98] := by decide

theorem noNul_thirdUser : (0 : UInt8) ∉ [99] := by decide

def secondUser : CString := ⟨[98], noNul_secondUser⟩

def thirdUser : CString := ⟨[99], noNul_thirdUser⟩

/-- Two users are put behind the administrator, the second of them once there is
memory for it, and the first is removed. -/
def exhaustedCalls : List (ℕ × UserCall) :=
  [(3, .change (.create secondUser secondUser userPrivilegeDefault (0, 0)) (some 1) (some 1)),
    (3, .change (.create thirdUser thirdUser userPrivilegeAdmin (0, 0)) (some 2) none),
    (3, .change (.create thirdUser thirdUser userPrivilegeAdmin (0, 0)) (some 2) (some 2)),
    (3, .isAdmin thirdUser),
    (3, .change (.remove secondUser) none none)]

theorem exhaustedCalls_served (hinit : UserHeap.usersInit true (some 0) (some 0) = .ok h) :
    Steps userHeapStep UserServed ⟨h, []⟩ exhaustedCalls := by
  cases hinit
  refine ⟨⟨by decide, ?_⟩, fun s hs => ⟨⟨?_, ?_⟩, fun s' hs' => ⟨⟨?_, ?_⟩, fun s₃ hs₃ =>
    ⟨⟨?_, ?_⟩, fun s₄ hs₄ => ⟨⟨?_, ?_⟩, fun _ _ => trivial⟩⟩⟩⟩⟩
  · rintro op aux block ⟨⟩
    exact ⟨by rintro a ⟨⟩; rfl, by rintro b ⟨⟩; rfl⟩
  · cases hs
    decide
  · cases hs
    rintro op aux block ⟨⟩
    exact ⟨by rintro a ⟨⟩; rfl, nofun⟩
  · cases hs
    cases hs'
    decide
  · cases hs
    cases hs'
    rintro op aux block ⟨⟩
    exact ⟨by rintro a ⟨⟩; rfl, by rintro b ⟨⟩; rfl⟩
  · cases hs
    cases hs'
    cases hs₃
    decide
  · nofun
  · cases hs
    cases hs'
    cases hs₃
    cases hs₄
    decide
  · rintro op aux block ⟨⟩
    exact ⟨nofun, nofun⟩

/-- The second call reports success and counts an administrator, and nothing is
added to the list. -/
theorem userHeap_follows_exhausted :
    ∃ h t, UserHeap.usersInit true (some 0) (some 0) = .ok h ∧
      run userHeapStep ⟨h, []⟩ exhaustedCalls = .ok t ∧
      t.answers = [.status .ok, .status .ok, .status .ok, .flag true, .status .ok] ∧
      t.heap.usersList.size = 2 ∧ t.heap.totalAdmins = 3 := by
  obtain ⟨h, hinit, -⟩ := UserHeap.Holds.usersInit (some 0) (some 0)
  obtain ⟨t, hrun, hheap, hanswers⟩ := userHeap_follows hinit (exhaustedCalls_served hinit)
  exact ⟨h, t, hinit, hrun, hanswers, hheap.size, hheap.2⟩

/-- `users_free` leaves nothing behind after any calls, whichever of their
allocations failed. -/
theorem usersFree_releases (hinit : UserHeap.usersInit true aux block = .ok h)
    (hcalls : Steps userHeapStep UserServed ⟨h, []⟩ calls) :
    ∃ t, run userHeapStep ⟨h, []⟩ calls = .ok t ∧
      ∀ n, t.heap.usersList.size ≤ n → ∃ u, t.heap.usersFree n = .ok u ∧
        (∀ a, u.usersList.nodes a = none) ∧ ∀ b, u.usersList.blocks b = none := by
  obtain ⟨t, hrun, hheap, -⟩ := run_userHeapStep hinit hcalls
  refine ⟨t, hrun, ?_⟩
  intro n hn
  rw [hheap.size] at hn
  exact hheap.usersFree hn

theorem usersFree_releases_exhausted :
    ∃ h t u, UserHeap.usersInit true (some 0) (some 0) = .ok h ∧
      run userHeapStep ⟨h, []⟩ exhaustedCalls = .ok t ∧ t.heap.usersList.size = 2 ∧
      t.heap.usersFree t.heap.usersList.size = .ok u ∧ (∀ a, u.usersList.nodes a = none) ∧
      ∀ b, u.usersList.blocks b = none := by
  obtain ⟨h, hinit, -⟩ := UserHeap.Holds.usersInit (some 0) (some 0)
  have hserved := exhaustedCalls_served hinit
  obtain ⟨t, hrun, hfree⟩ := usersFree_releases hinit hserved
  obtain ⟨t', hrun', hheap, -⟩ := run_userHeapStep hinit hserved
  obtain rfl : t' = t := Except.ok.inj (hrun'.symm.trans hrun)
  obtain ⟨u, hu, hnodes, hblocks⟩ := hfree _ (le_refl _)
  exact ⟨h, t', u, hinit, hrun, hheap.size, hu, hnodes, hblocks⟩

end Runs

end Socks5Proxy
