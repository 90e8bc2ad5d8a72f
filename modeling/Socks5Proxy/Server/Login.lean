import Socks5Proxy.Pam.AuthDecoding
import Socks5Proxy.Server.PasswordChange
import Socks5Proxy.Socks.AuthDecoding

/-!
# Logging in after being created

`user_create` refuses names and passwords of 255 bytes.  What it takes, both
protocols recognise: their arrays are long enough for every stored name.
-/

namespace Socks5Proxy

open Library

/-! ## What is asked for -/

/-- A user of the store has this name and this password. -/
def StoredPair (store : UserStore) (username password : CString) : Prop :=
  ∃ user ∈ store.usersList.nodes, user.name = username ∧ user.passwordString = password.bytes

/-- A SOCKS message with these credentials is answered with success exactly if
they are to be accepted. -/
def SocksLogin (store : UserStore) (username password : List UInt8) (accepted : Prop) : Prop :=
  ∀ (env : Env) key s, AwaitsCredentials s → env.users = store →
    env.recv = some (authMessage username password) →
    ((authRead env key s).1.conn.originBuffer.content = [authVersion, authSuccess] ↔ accepted)

/-- A management message with these credentials is answered with success
exactly if they are to be accepted. -/
def PamLogin (store : UserStore) (username password : List UInt8) (accepted : Prop) : Prop :=
  ∀ (env : PamEnv) key s, AwaitsPamCredentials s → s.users = store →
    env.recv = some (pamAuthMessage username password) →
    ((pamAuthRead env key s).1.conn.clientBuffer.content = [pamVersion1, pamAuthSuccess] ↔
      accepted)

/-- The user is created, and from then on both protocols accept the new pair
and the pairs that were stored before, and nothing else. -/
def CanLogIn (store : UserStore) (username password : CString) (pl : UserPrivilegeLevel)
    (stack : UInt8 × UInt8) : Prop :=
  (userCreate store username.bytes password.bytes pl stack).2 = .ok ∧
    ∀ u p : List UInt8, 0 < u.length ∧ u.length < 256 → 0 < p.length ∧ p.length < 256 →
      SocksLogin (userCreate store username.bytes password.bytes pl stack).1 u p
          (textOf u = username ∧ textOf p = password ∨ StoredPair store (textOf u) (textOf p)) ∧
        PamLogin (userCreate store username.bytes password.bytes pl stack).1 u p
          (textOf u = username ∧ textOf p = password ∨ StoredPair store (textOf u) (textOf p))

/-! ## Stored pairs -/

section Stored

variable {store : UserStore} {n p : CString} {ops : List UserOp}

/-- `user_authenticate` recognises the stored pairs. -/
theorem userAuthenticate_ok_iff_storedPair (h : store.Ordered) :
    userAuthenticate store n.bytes p.bytes = .ok ↔ StoredPair store n p := by
  constructor
  · intro hok
    rcases hfind : userGetIfExists store n.bytes with _ | user
    · rw [userAuthenticate, hfind] at hok
      cases hok
    · exact ⟨user, List.mem_of_find?_eq_some hfind, name_of_found hfind,
        (userAuthenticate_ok_iff hfind).mp hok⟩
  · rintro ⟨user, hmem, rfl, hpass⟩
    obtain ⟨l₁, l₂, hnodes⟩ := List.append_of_mem hmem
    exact (userAuthenticate_ok_iff (h.lookup_middle hnodes).1).mpr hpass

theorem length_of_live (h : Live ops n) : n.bytes.length < usersMaxUsernameLength := by
  rcases h with ⟨rfl, -⟩ | ⟨before, op, after, store', -, hrun, ⟨password, pl, stack, rfl, hok⟩, -⟩
  · decide
  · obtain ⟨-, hstatus, -⟩ := create_spec (ordered_of_run hrun) n password pl stack
    exact (hstatus.mp hok).2.1

/-- No stored name fills an array of 255 cells. -/
theorem StoredPair.length_lt (h : StoredPair store n p)
    (hrun : run userStep usersInit ops = .ok store) :
    n.bytes.length < usersMaxUsernameLength := by
  obtain ⟨user, hmem, rfl, -⟩ := h
  obtain ⟨l₁, l₂, hnodes⟩ := List.append_of_mem hmem
  refine length_of_live ((isSome_lookup_iff_live hrun user.name).mp ?_)
  rw [((ordered_of_run hrun).lookup_middle hnodes).1]
  rfl

/-- A creation adds its pair. -/
theorem storedPair_create_iff (h : store.Ordered) {username password : CString}
    {pl : UserPrivilegeLevel} {stack : UInt8 × UInt8}
    (hok : (userCreate store username.bytes password.bytes pl stack).2 = .ok) :
    StoredPair (userCreate store username.bytes password.bytes pl stack).1 n p ↔
      n = username ∧ p = password ∨ StoredPair store n p := by
  obtain ⟨-, -, heffect⟩ := create_spec h username password pl stack
  obtain ⟨user, ⟨l₁, l₂, hnodes, hnodes'⟩, rfl, hpass, -⟩ := (if_pos hok).mp heffect
  simp only [StoredPair, hnodes, hnodes', List.mem_append, List.mem_cons]
  constructor
  · rintro ⟨other, hmem | rfl | hmem, hname, hstored⟩
    · exact .inr ⟨other, .inl hmem, hname, hstored⟩
    · refine .inl ⟨hname.symm, ?_⟩
      rw [CString.ext_iff, ← hstored, hpass]
    · exact .inr ⟨other, .inr hmem, hname, hstored⟩
  · rintro (⟨rfl, rfl⟩ | ⟨other, hmem | hmem, hname, hstored⟩)
    · exact ⟨user, .inr (.inl rfl), rfl, hpass⟩
    · exact ⟨other, .inl hmem, hname, hstored⟩
    · exact ⟨other, .inr (.inr hmem), hname, hstored⟩

end Stored

/-! ## The two protocols -/

section Protocols

variable {store : UserStore} {ops : List UserOp} {u p : List UInt8}

theorem socksLogin_storedPair (h : store.Ordered) (hu : 0 < u.length ∧ u.length < 256)
    (hp : 0 < p.length ∧ p.length < 256) :
    SocksLogin store u p (StoredPair store (textOf u) (textOf p)) := by
  intro env key s hawaits husers hrecv
  rw [authRead_message hawaits key hu hp hrecv, husers, ← userAuthenticate_ok_iff_storedPair h]
  change _ ↔ userAuthenticate store (cString u) (cString p) = .ok
  by_cases hok : userAuthenticate store (cString u) (cString p) = .ok
  · rw [if_pos hok]
    exact iff_of_true rfl hok
  · rw [if_neg hok]
    exact iff_of_false (by decide) hok

/-- A name that fills its array of 255 cells is not stored, whatever it runs on
into. -/
theorem pamVerdict_iff (hrun : run userStep usersInit ops = .ok store)
    (hu : 0 < u.length ∧ u.length < 256) (hp : 0 < p.length ∧ p.length < 256) {c : Pam}
    {memory : ℕ → UInt8} (hc : c.auth.credentials = pamCredentials memory u p) :
    userAuthenticate store c.username c.pass = .ok ↔ StoredPair store (textOf u) (textOf p) := by
  have hordered := ordered_of_run hrun
  have hpass : c.pass = (textOf p).bytes := pass_pamCredentials hc hp.2
  have hshort : c.username = cString u →
      (userAuthenticate store c.username c.pass = .ok ↔
        StoredPair store (textOf u) (textOf p)) := by
    intro hname
    rw [hpass, hname]
    exact userAuthenticate_ok_iff_storedPair (n := textOf u) hordered
  by_cases hlen : u.length < 255
  · exact hshort (username_pamCredentials hc hlen)
  · obtain ⟨rest, hname⟩ := username_pamCredentials_of_full hc (by omega)
    by_cases hnul : 0 ∈ u
    · refine hshort (hname.trans ?_)
      have hstring : cString (u ++ rest) = cString (u ++ []) := cString_append_of_mem hnul
      rwa [List.append_nil] at hstring
    · have hlong : ¬ (cString (u ++ rest)).length < usersMaxUsernameLength := by
        rw [cString_append hnul, List.length_append, usersMaxUsernameLength]
        omega
      have hlong' : ¬ (textOf u).bytes.length < usersMaxUsernameLength := by
        change ¬ (cString u).length < _
        rw [cString_eq_self hnul, usersMaxUsernameLength]
        omega
      refine iff_of_false ?_ fun hstored => hlong' (hstored.length_lt hrun)
      rw [hname, hpass]
      intro hok
      have hstored := (userAuthenticate_ok_iff_storedPair (n := textOf (u ++ rest)) hordered).mp hok
      exact hlong (hstored.length_lt hrun)

theorem pamLogin_storedPair (hrun : run userStep usersInit ops = .ok store)
    (hu : 0 < u.length ∧ u.length < 256) (hp : 0 < p.length ∧ p.length < 256) :
    PamLogin store u p (StoredPair store (textOf u) (textOf p)) := by
  intro env key s hawaits husers hrecv
  obtain ⟨c, hc, hanswer⟩ := pamAuthRead_message hawaits key hu hp hrecv
  rw [hanswer, husers, pamVerdict, ← pamVerdict_iff hrun hu hp hc]
  by_cases hok : userAuthenticate store c.username c.pass = .ok
  · rw [if_pos hok]
    exact iff_of_true rfl hok
  · rw [if_neg hok]
    exact iff_of_false (by decide) hok

end Protocols

/-- A new user can log in exactly if its name and its password have less than
255 bytes. -/
theorem canLogIn_iff {ops : List UserOp} {store : UserStore}
    (hrun : run userStep usersInit ops = .ok store) {username password : CString}
    (hnew : userGetIfExists store username.bytes = none) (pl : UserPrivilegeLevel)
    (stack : UInt8 × UInt8) :
    CanLogIn store username password pl stack ↔
      username.bytes.length < usersMaxUsernameLength ∧
        password.bytes.length < usersMaxPasswordLength := by
  have hordered := ordered_of_run hrun
  obtain ⟨-, hstatus, -⟩ := create_spec hordered username password pl stack
  constructor
  · rintro ⟨hok, -⟩
    exact (hstatus.mp hok).2
  · intro hlen
    have hok : (userCreate store username.bytes password.bytes pl stack).2 = .ok :=
      hstatus.mpr ⟨hnew, hlen⟩
    refine ⟨hok, ?_⟩
    intro u p hu hp
    have hrun' : run userStep usersInit (ops ++ [.create username password pl stack]) =
        .ok (userCreate store username.bytes password.bytes pl stack).1 :=
      run_append_ok_iff.mpr ⟨store, hrun, rfl⟩
    rw [← storedPair_create_iff hordered hok]
    exact ⟨socksLogin_storedPair (ordered_of_run hrun') hu hp, pamLogin_storedPair hrun' hu hp⟩

/-- 255 times `a`. -/
def fullName : CString where
  bytes := List.replicate 255 97
  noNul := fun hmem => absurd (List.eq_of_mem_replicate hmem) (by decide)

/-- A name of 255 bytes is refused. -/
theorem fullName_refused :
    fullName.bytes.length = 255 ∧ userGetIfExists usersInit fullName.bytes = none ∧
      ¬ CanLogIn usersInit fullName ⟨[98], by decide⟩ userPrivilegeDefault (0, 0) := by
  have hlen : fullName.bytes.length = 255 := List.length_replicate
  refine ⟨hlen, by decide +kernel, ?_⟩
  rintro ⟨hok, -⟩
  obtain ⟨-, hstatus, -⟩ := create_spec usersInit_ordered fullName ⟨[98], by decide⟩
    userPrivilegeDefault (0, 0)
  have hshort := (hstatus.mp hok).2.1
  rw [hlen] at hshort
  exact Nat.lt_irrefl _ hshort

/-- The user `a` with the password `b`, created on a fresh store. -/
theorem canLogIn_iff_userOfOneLetter :
    CanLogIn usersInit ⟨[97], by decide⟩ ⟨[98], by decide⟩ userPrivilegeDefault (0, 0) := by
  have hrun : run userStep usersInit [] = .ok usersInit := rfl
  refine (canLogIn_iff hrun ?_ userPrivilegeDefault (0, 0)).mpr ?_
  · decide +kernel
  · decide

end Socks5Proxy
