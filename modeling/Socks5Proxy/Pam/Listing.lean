import Mathlib.Algebra.GroupWithZero.Nat
import Mathlib.Data.List.Nodup
import Socks5Proxy.Pam.Administrators
import Socks5Proxy.Pam.Request

/-!
# The listing of the users

`users_get_connected_users_list` returns the offset behind its last line, and
`handle_get_connected_users_list` adds it to the length of the header line,
which it counts already.  Nothing bounds the number of lines.
-/

namespace Socks5Proxy

open Library Library.Memory

/-! ## The text -/

/-- The header line and the lines of the users. -/
def listingText (store : UserStore) : List UInt8 :=
  listingMessage ++ store.usersList.nodes.flatMap userLine

/-- A line is two bytes longer than the name. -/
def listingSize (store : UserStore) : ℕ :=
  (store.usersList.nodes.map fun user => user.usernameString.length + 2).sum

/-- `BODY`, of the `NBODY` bytes announced. -/
def responseBody (request : PamRequestSt) : List UInt8 :=
  slice request.writeBody 0 request.writeNbody.toNat

/-- The body is the text, and its length is announced. -/
structure ListingExact (store : UserStore) (request : PamRequestSt) : Prop where
  body : responseBody request = listingText store
  nbody : request.writeNbody.toNat = (listingText store).length

/-- The local array of the handler when it calls `users_get_connected_users_list`. -/
def listingArray : ℕ → UInt8 := store (fun _ => 0) 0 listingMessage

section Text

variable {env : PamEnv} {s t : PamSession} {buffer : Buffer}

theorem length_userLine (user : User) :
    (userLine user).length = user.usernameString.length + 2 := by
  simp [userLine]

theorem length_lines (users : List User) :
    (users.flatMap userLine).length =
      (users.map fun user => user.usernameString.length + 2).sum := by
  simp only [List.length_flatMap, length_userLine]

theorem length_listingText (store : UserStore) :
    (listingText store).length = 18 + listingSize store := by
  rw [listingText, List.length_append, length_lines]
  rfl

/-- The array behind the text is as `memset` left it. -/
theorem slice_listing (store : UserStore) :
    slice (usersGetConnectedUsersList store listingArray listingMessage.length).1 0
        (36 + listingSize store) = listingText store ++ List.replicate 18 0 := by
  have hlines : (store.usersList.nodes.flatMap userLine ++ [0]).length = listingSize store + 1 := by
    rw [List.length_append, length_lines]
    rfl
  have hheader : slice listingArray 0 18 = listingMessage := slice_store_same _ 0 listingMessage
  have hwritten := slice_store_same listingArray 18 (store.usersList.nodes.flatMap userLine ++ [0])
  rw [hlines] at hwritten
  rw [show 36 + listingSize store = 18 + ((listingSize store + 1) + 17) by omega, slice_add,
    slice_add]
  change slice (Library.Memory.store listingArray 18 _) 0 18 ++
    (slice (Library.Memory.store listingArray 18 _) (0 + 18) _ ++
      slice (Library.Memory.store listingArray 18 _) _ 17) = _
  rw [slice_store_of_le _ _ (by omega), hheader, Nat.zero_add, hwritten,
    slice_store_of_ge _ _ (by omega), listingArray, slice_store_of_ge, slice_const, listingText,
    List.append_assoc, List.append_assoc]
  · rfl
  · change 0 + 18 ≤ _
    omega

/-- The header is counted twice. -/
theorem listing_count (store : UserStore) :
    listingMessage.length +
      (usersGetConnectedUsersList store listingArray listingMessage.length).2 =
        36 + listingSize store := by
  change 18 + (18 + (store.usersList.nodes.flatMap userLine).length) = _
  rw [length_lines, ← Nat.add_assoc]
  rfl

/-- The loop of the bounded array is the loop as long as it ends in time. -/
theorem listUsersWithin_eq (bound : ℕ) (users : List User) (array : ℕ → UInt8) (copied : ℕ) :
    listUsersWithin bound users array copied =
      if copied + (users.flatMap userLine).length < bound then
        some (store array copied (users.flatMap userLine ++ [0]),
          copied + (users.flatMap userLine).length)
      else none := by
  induction users generalizing array copied with
  | nil =>
      rw [listUsersWithin]
      by_cases hend : copied < bound
      · rw [storeWithin_of_le _ hend]
        exact (if_pos hend).symm
      · rw [storeWithin_of_lt _ (Nat.lt_succ_of_le (Nat.not_lt.mp hend))]
        exact (if_neg hend).symm
  | cons user users ih =>
      rw [listUsersWithin, List.flatMap_cons, List.length_append, storeWithin]
      by_cases hline : copied + (userLine user).length ≤ bound
      · rw [if_pos hline, Option.bind_some, ih, store_append, Nat.add_assoc, List.append_assoc]
      · rw [if_neg hline, if_neg (by omega)]
        rfl

theorem listUsersWithin_listingArray (store : UserStore) :
    listUsersWithin pamBufferSize store.usersList.nodes listingArray listingMessage.length =
      if 18 + listingSize store < 65536 then
        some (usersGetConnectedUsersList store listingArray listingMessage.length)
      else none := by
  have hlength := length_lines store.usersList.nodes
  rw [listUsersWithin_eq]
  change (if 18 + _ < 65536 then some (_, 18 + _) else none) = _
  rw [hlength]
  change (if 18 + listingSize store < 65536 then some (_, 18 + listingSize store) else none) = _
  rw [usersGetConnectedUsersList, hlength]
  rfl

/-- The session after a listing that has stayed in its arrays. -/
def PamSession.listed (s : PamSession) : PamSession :=
  { s with
    conn.request.writeBody :=
      store s.conn.request.writeBody 0 (listingText s.users ++ List.replicate 18 0)
    conn.request.writeNbody := UInt16.ofNat (36 + listingSize s.users) }

/-- What the handler leaves, if it ends. -/
theorem handleGetConnectedUsersList_eq (s : PamSession) :
    handleGetConnectedUsersList s =
      if 36 + listingSize s.users ≤ 65536 then .ok s.listed else .error .outOfBounds := by
  have hcount := listing_count s.users
  have hloop := listUsersWithin_listingArray s.users
  unfold handleGetConnectedUsersList
  rw [show store (fun _ => 0) 0 listingMessage = listingArray from rfl]
  dsimp only
  by_cases hstored : 18 + listingSize s.users < 65536
  · rw [hloop, if_pos hstored]
    dsimp only
    rw [hcount, if_neg (show ¬ 36 + listingSize s.users ≤ listingMessage.length from
      Nat.not_le.mpr (Nat.lt_add_right _ (by decide))), pamBufferSize, slice_listing]
    rfl
  · rw [hloop, if_neg hstored, if_neg (by omega)]

theorem handlePamRequestMethod_list
    (h : s.conn.request.method = pamRequestMethodGetConnectedUsersList) :
    handlePamRequestMethod env s buffer =
      handleGetConnectedUsersList (s.act (.handle s.conn.request.method buffer.content)) :=
  if_pos h

/-- The listing is answered as long as it stays in the arrays. -/
theorem handlePamRequestMethod_list_ok_iff
    (h : s.conn.request.method = pamRequestMethodGetConnectedUsersList) :
    handlePamRequestMethod env s buffer = .ok t ↔
      36 + listingSize s.users ≤ 65536 ∧
        t = (s.act (.handle s.conn.request.method buffer.content)).listed := by
  rw [handlePamRequestMethod_list h, handleGetConnectedUsersList_eq]
  change (if 36 + listingSize s.users ≤ 65536 then _ else _) = _ ↔ _
  by_cases hsize : 36 + listingSize s.users ≤ 65536
  · rw [if_pos hsize, Except.ok.injEq, and_iff_right hsize, eq_comm]
  · rw [if_neg hsize]
    exact iff_of_false nofun fun hok => hsize hok.1

/-- The body runs on behind the text for as many bytes as the header has. -/
theorem responseBody_listing (h : 36 + listingSize s.users < 65536) :
    responseBody s.listed.conn.request = listingText s.users ++ List.replicate 18 0 := by
  have hlen : (listingText s.users ++ List.replicate 18 0).length = 36 + listingSize s.users := by
    rw [List.length_append, length_listingText, List.length_replicate]
    omega
  rw [PamSession.listed, responseBody, UInt16.toNat_ofNat_of_lt' h, ← hlen]
  exact slice_store_same s.conn.request.writeBody 0 (listingText s.users ++ List.replicate 18 0)

theorem listing_not_exact (s : PamSession) : ¬ ListingExact s.users s.listed.conn.request := by
  rintro ⟨-, hnbody⟩
  rw [PamSession.listed, length_listingText, UInt16.toNat_ofNat'] at hnbody
  omega

/-- No store is listed exactly: where the handler ends, the body announced is 18
bytes longer than the text. -/
theorem listing_never_exact (env : PamEnv) (buffer : Buffer)
    (hmethod : s.conn.request.method = pamRequestMethodGetConnectedUsersList) :
    (¬ ∃ t, handlePamRequestMethod env s buffer = .ok t ∧
        ListingExact s.users t.conn.request) ∧
      (36 + listingSize s.users < 65536 →
        ∃ t, handlePamRequestMethod env s buffer = .ok t ∧
          responseBody t.conn.request = listingText s.users ++ List.replicate 18 0) := by
  constructor
  · rintro ⟨t, ht, hexact⟩
    obtain ⟨-, rfl⟩ := (handlePamRequestMethod_list_ok_iff hmethod).mp ht
    exact listing_not_exact (s.act (.handle s.conn.request.method buffer.content)) hexact
  · intro hsize
    exact ⟨_, (handlePamRequestMethod_list_ok_iff hmethod).mpr ⟨hsize.le, rfl⟩,
      responseBody_listing (s := s.act (.handle s.conn.request.method buffer.content)) hsize⟩

end Text

/-- The request for the listing, of the first administrator. -/
def listingRequest : PamRequest := adminRequest pamRequestMethodGetConnectedUsersList []

theorem listing_never_exact_usersInit :
    (¬ ∃ t, handlePamRequestMethod default (listingRequest.on usersInit) listingRequest.buffer =
        .ok t ∧ ListingExact usersInit t.conn.request) ∧
      (36 + listingSize usersInit < 65536 →
        ∃ t, handlePamRequestMethod default (listingRequest.on usersInit)
            listingRequest.buffer = .ok t ∧
          responseBody t.conn.request = listingText usersInit ++ List.replicate 18 0) :=
  listing_never_exact (s := listingRequest.on usersInit) default listingRequest.buffer rfl

theorem listingSize_usersInit : listingSize usersInit = 7 := by decide +kernel

/-- The listing of one administrator: 25 bytes of text, 43 announced. -/
theorem listing_usersInit :
    ∃ t, handlePamRequestMethod default (listingRequest.on usersInit) listingRequest.buffer =
        .ok t ∧
      t.conn.request.writeNbody = 43 ∧
      listingText usersInit = listingMessage ++ [64, 97, 100, 109, 105, 110, 10] ∧
      ¬ ListingExact usersInit t.conn.request := by
  have hsize : 36 + listingSize (listingRequest.on usersInit).users ≤ 65536 := by
    change 36 + listingSize usersInit ≤ 65536
    rw [listingSize_usersInit]
    omega
  refine ⟨_, (handlePamRequestMethod_list_ok_iff rfl).mpr ⟨hsize, rfl⟩, ?_, by decide +kernel,
    listing_not_exact
      ((listingRequest.on usersInit).act (.handle _ listingRequest.buffer.content))⟩
  change UInt16.ofNat (36 + listingSize usersInit) = 43
  rw [listingSize_usersInit]
  rfl

/-! ## Where the text is kept -/

/-- The stores of the loop are in the local array, the length fits
`write_nbody`, and the whole response fits `client_buffer`. -/
structure ListingFits (s t : PamSession) : Prop where
  stored : listUsersWithin pamBufferSize s.users.usersList.nodes listingArray
    listingMessage.length ≠ none
  counted : t.conn.request.writeNbody.toNat = listingMessage.length +
    (usersGetConnectedUsersList s.users listingArray listingMessage.length).2
  placed : (t.answerWith (pamResponse t.conn.request)).conn.clientBuffer.content =
    pamResponse t.conn.request

section Fits

variable {env : PamEnv} {s t : PamSession} {buffer : Buffer}

theorem length_pamResponse (request : PamRequestSt) :
    (pamResponse request).length = 4 + request.writeNbody.toNat := by
  rw [pamResponse, List.length_cons, List.length_cons, List.length_cons, List.length_cons,
    length_slice]
  omega

theorem answerWith_content_iff (bytes : List UInt8) :
    (s.answerWith bytes).conn.clientBuffer.content = bytes ↔
      bytes.length ≤ s.conn.clientBuffer.limit := by
  rw [answerWith_content]
  constructor
  · intro htake
    rw [← htake]
    exact List.length_take_le _ _
  · exact List.take_of_length_le

/-- The three limits, of which the last is the tightest. -/
theorem listingFits_iff (hlimit : s.conn.clientBuffer.limit = pamBufferSize) :
    ListingFits s s.listed ↔ listingSize s.users ≤ 65496 := by
  have hnbody : s.listed.conn.request.writeNbody.toNat = (36 + listingSize s.users) % 65536 :=
    UInt16.toNat_ofNat'
  have hlimit' : s.listed.conn.clientBuffer.limit = 65536 := hlimit
  constructor
  · rintro ⟨-, hcount, hplaced⟩
    rw [answerWith_content_iff, length_pamResponse, hlimit', hnbody] at hplaced
    rw [hnbody, listing_count] at hcount
    omega
  · intro hsize
    refine ⟨?_, ?_, ?_⟩
    · rw [listUsersWithin_listingArray, if_pos (by omega)]
      nofun
    · rw [hnbody, listing_count]
      omega
    · rw [answerWith_content_iff, length_pamResponse, hlimit', hnbody]
      omega

end Fits

/-! ## Stores made by `user_create` -/

/-- The arguments of `user_create`, and what the stack held. -/
structure UserCreation where
  username : CString
  password : CString
  privilegeLevel : UserPrivilegeLevel
  stack : UInt8 × UInt8

def UserCreation.op (c : UserCreation) : UserOp :=
  .create c.username c.password c.privilegeLevel c.stack

/-- The length of the lines of the users these calls add. -/
def createdSize : UserStore → List UserCreation → ℕ
  | _, [] => 0
  | store, c :: creations =>
    (if (c.op.apply store).2 = .ok then c.username.bytes.length + 2 else 0) +
      createdSize (c.op.apply store).1 creations

section Creations

variable {store store' : UserStore} {c : UserCreation} {creations : List UserCreation}

theorem listingSize_creation (h : store.Ordered) (c : UserCreation) :
    listingSize (c.op.apply store).1 =
      listingSize store +
        if (c.op.apply store).2 = .ok then c.username.bytes.length + 2 else 0 := by
  obtain ⟨-, -, heffect⟩ := c.op.apply_spec h
  split_ifs at heffect ⊢
  · obtain ⟨user, ⟨l₁, l₂, hnodes, hnodes'⟩, hname, -⟩ := heffect
    have hlen : user.usernameString = c.username.bytes := CString.ext_iff.mp hname
    rw [listingSize, listingSize, hnodes, hnodes', List.map_append, List.map_append, List.map_cons,
      List.sum_append, List.sum_append, List.sum_cons, hlen]
    omega
  · rw [heffect, Nat.add_zero]

theorem listingSize_run (h : store.Ordered)
    (hrun : run userStep store (creations.map UserCreation.op) = .ok store') :
    listingSize store' = listingSize store + createdSize store creations := by
  induction creations generalizing store with
  | nil =>
      obtain rfl := Except.ok.inj hrun
      rfl
  | cons c creations ih =>
      rw [List.map_cons] at hrun
      obtain ⟨u, hstep, hrun⟩ := run_cons_ok_iff.mp hrun
      obtain rfl := Except.ok.inj hstep
      rw [ih (c.op.apply_spec h).1 hrun, listingSize_creation h, createdSize, Nat.add_assoc]

/-- Names that are new and fit are all added. -/
theorem createdSize_of_new (h : store.Ordered) (hnodup : (creations.map (·.username.bytes)).Nodup)
    (hnew : ∀ c ∈ creations, userGetIfExists store c.username.bytes = none)
    (hname : ∀ c ∈ creations, c.username.bytes.length < usersMaxUsernameLength)
    (hpass : ∀ c ∈ creations, c.password.bytes.length < usersMaxPasswordLength) :
    createdSize store creations = (creations.map fun c => c.username.bytes.length + 2).sum := by
  induction creations generalizing store with
  | nil => rfl
  | cons c creations ih =>
      obtain ⟨hordered, hstatus, -⟩ := c.op.apply_spec h
      rw [List.map_cons, List.nodup_cons] at hnodup
      rw [List.forall_mem_cons] at hnew hname hpass
      have hok : (c.op.apply store).2 = .ok := hstatus.mpr ⟨hnew.1, hname.1, hpass.1⟩
      have hrest : ∀ d ∈ creations,
          userGetIfExists (c.op.apply store).1 d.username.bytes = none := by
        intro d hd
        rw [c.op.lookup_ne h]
        · exact hnew.2 d hd
        · intro heq
          refine hnodup.1 (List.mem_map.mpr ⟨d, hd, ?_⟩)
          exact congrArg CString.bytes heq
      rw [createdSize, if_pos hok, ih hordered hnodup.2 hrest hname.2 hpass.2, List.map_cons,
        List.sum_cons]

/-- For every store made by calls of `user_create`: the handler ends and the
listing stays in bounds exactly as long as the lines of the users added are no
longer than 65489 bytes. -/
theorem listing_fits_iff (env : PamEnv) (s : PamSession) (buffer : Buffer)
    (hrun : run userStep usersInit (creations.map UserCreation.op) = .ok s.users)
    (hmethod : s.conn.request.method = pamRequestMethodGetConnectedUsersList)
    (hlimit : s.conn.clientBuffer.limit = pamBufferSize) :
    (∃ t, handlePamRequestMethod env s buffer = .ok t ∧ ListingFits s t) ↔
      createdSize usersInit creations ≤ 65489 := by
  have hsize := listingSize_run usersInit_ordered hrun
  rw [listingSize_usersInit] at hsize
  have hfits := listingFits_iff (s := s.act (.handle s.conn.request.method buffer.content)) hlimit
  change _ ↔ listingSize s.users ≤ 65496 at hfits
  constructor
  · rintro ⟨t, ht, hstored, hcounted, hplaced⟩
    obtain ⟨-, rfl⟩ := (handlePamRequestMethod_list_ok_iff hmethod).mp ht
    have hle := hfits.mp ⟨hstored, hcounted, hplaced⟩
    omega
  · intro hcreated
    obtain ⟨hstored, hcounted, hplaced⟩ := hfits.mpr (by omega)
    exact ⟨_, (handlePamRequestMethod_list_ok_iff hmethod).mpr ⟨by omega, rfl⟩,
      hstored, hcounted, hplaced⟩

end Creations

/-! ### Users with long names -/

/-- A byte that is not zero, for the last seven bits of a number. -/
def numberByte (n : ℕ) : UInt8 := UInt8.ofNat (1 + n % 128)

theorem numberByte_ne_zero (n : ℕ) : numberByte n ≠ 0 := by
  intro hzero
  have hval := congrArg UInt8.toNat hzero
  rw [numberByte, UInt8.toNat_ofNat'] at hval
  change _ = 0 at hval
  omega

theorem numberByte_inj {m n : ℕ} (h : numberByte m = numberByte n) : m % 128 = n % 128 := by
  have hval := congrArg UInt8.toNat h
  rw [numberByte, numberByte, UInt8.toNat_ofNat', UInt8.toNat_ofNat'] at hval
  omega

/-- A name of 254 bytes that starts with its number. -/
def numberedName (n : ℕ) : CString where
  bytes := numberByte (n / 128) :: numberByte n :: List.replicate 252 97
  noNul := by
    rw [List.mem_cons, List.mem_cons]
    rintro (hzero | hzero | hletter)
    · exact numberByte_ne_zero _ hzero.symm
    · exact numberByte_ne_zero _ hzero.symm
    · cases List.eq_of_mem_replicate hletter

def numberedUser (n : ℕ) : UserCreation := ⟨numberedName n, numberedName 0, 1, (0, 0)⟩

/-- The first `k` of them. -/
def numberedUsers (k : ℕ) : List UserCreation := (List.range k).map numberedUser

theorem length_numberedName (n : ℕ) : (numberedName n).bytes.length = 254 := by
  rw [numberedName, List.length_cons, List.length_cons, List.length_replicate]

/-- Each has a line of its own, of 256 bytes, as long as two bytes make a
number. -/
theorem createdSize_numberedUsers {k : ℕ} (hk : k ≤ 16384) :
    createdSize usersInit (numberedUsers k) = 256 * k := by
  have hforall : ∀ c ∈ numberedUsers k, ∃ n, c = numberedUser n := by
    intro c hc
    obtain ⟨n, -, rfl⟩ := List.mem_map.mp hc
    exact ⟨n, rfl⟩
  rw [createdSize_of_new usersInit_ordered]
  · rw [numberedUsers, List.map_map, List.map_congr_left (g := fun _ => 256)]
    · rw [List.map_const', List.sum_replicate_nat, List.length_range, Nat.mul_comm]
    · intro n _
      exact congrArg (· + 2) (length_numberedName n)
  · rw [numberedUsers, List.map_map]
    refine List.Nodup.map_on ?_ List.nodup_range
    intro m hm n hn heq
    obtain ⟨hhigh, hrest⟩ := List.cons.inj heq
    have hlow := numberByte_inj (List.cons.inj hrest).1
    have hhigh := numberByte_inj hhigh
    rw [List.mem_range] at hm hn
    omega
  · intro c hc
    obtain ⟨n, rfl⟩ := hforall c hc
    rw [← Option.not_isSome_iff_eq_none, usersInit_lookup_iff]
    intro heq
    have hlen := congrArg (fun name => name.bytes.length) heq
    change (numberedName n).bytes.length = 5 at hlen
    rw [length_numberedName] at hlen
    cases hlen
  · intro c hc
    obtain ⟨n, rfl⟩ := hforall c hc
    exact (length_numberedName n).trans_lt (by decide)
  · intro c hc
    obtain ⟨n, rfl⟩ := hforall c hc
    exact (length_numberedName 0).trans_lt (by decide)

/-- A management connection that asks for the listing of this store. -/
def listingSession (store : UserStore) : PamSession :=
  { (default : PamSession) with
    users := store
    conn.clientBuffer := bufferInit pamBufferSize fun _ => 0
    conn.request.method := pamRequestMethodGetConnectedUsersList }

theorem listingSession_limit (store : UserStore) :
    (listingSession store).conn.clientBuffer.limit = pamBufferSize := rfl

/-- The listing of 255 such users fits. -/
theorem listing_fits_numberedUsers :
    ∃ store t, run userStep usersInit ((numberedUsers 255).map UserCreation.op) = .ok store ∧
      handlePamRequestMethod default (listingSession store) default = .ok t ∧
      ListingFits (listingSession store) t := by
  obtain ⟨store, hrun, -⟩ := run_userStep ((numberedUsers 255).map UserCreation.op)
  obtain ⟨t, ht, hfits⟩ := (listing_fits_iff default (listingSession store) default hrun rfl
    (listingSession_limit store)).mpr (by rw [createdSize_numberedUsers (by omega)]; omega)
  exact ⟨store, t, hrun, ht, hfits⟩

/-- With one more the loop leaves its array. -/
theorem listing_overflows_numberedUsers :
    ∃ store, run userStep usersInit ((numberedUsers 256).map UserCreation.op) = .ok store ∧
      handlePamRequestMethod default (listingSession store) default = .error .outOfBounds ∧
      ¬ ∃ t, handlePamRequestMethod default (listingSession store) default = .ok t ∧
        ListingFits (listingSession store) t := by
  obtain ⟨store, hrun, -⟩ := run_userStep ((numberedUsers 256).map UserCreation.op)
  have hsize := listingSize_run usersInit_ordered hrun
  rw [createdSize_numberedUsers (by omega)] at hsize
  have hfault : handlePamRequestMethod default (listingSession store) default =
      .error .outOfBounds := by
    rw [handlePamRequestMethod_list rfl, handleGetConnectedUsersList_eq]
    refine if_neg ?_
    change ¬ 36 + listingSize store ≤ 65536
    omega
  refine ⟨store, hrun, hfault, ?_⟩
  rintro ⟨t, ht, -⟩
  rw [hfault] at ht
  cases ht

end Socks5Proxy
