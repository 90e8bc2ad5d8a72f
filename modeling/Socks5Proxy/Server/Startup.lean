import Socks5Proxy.Client.Credentials
import Socks5Proxy.Server.Login
import Socks5Proxy.Shared.Text

/-!
# The command line of the server

`parse_args` reads the options, and `main` creates a user for each `-u`; the
process exits before it serves anybody if one of them cannot be created.
-/

namespace Socks5Proxy

open Library

/-! ## Options -/

/-- `struct socks5args`. -/
structure Socks5Args where
  socksAddr : CString
  socksPort : ℕ
  mngAddr : CString
  mngPort : ℕ
  disectorsEnabled : Bool
  users : List Users
  deriving DecidableEq

def maxUsers : ℕ := 10

/-- What `getopt_long` finds: `-h`, `-l`, `-L`, `-N`, `-p`, `-P`, `-u`, `-v` with
their arguments, or something it does not know. -/
inductive Getopt
  | help
  | socksAddr (optarg : CString)
  | mngAddr (optarg : CString)
  | noDisectors
  | socksPort (optarg : CString)
  | mngPort (optarg : CString)
  | user (optarg : CString)
  | version
  | unknown

/-- The argument of `exit`. -/
abbrev ExitStatus := ℕ

def ushrtMax : ℤ := 65535

/-- Where `strtol` stops; `none` when there are no digits, and it stops where it
began. -/
def strtolEnd (text : List UInt8) : Option (List UInt8) :=
  let rest := (splitSign (text.dropWhile isSpace)).2
  if rest.takeWhile isDigit = [] then none else some (rest.dropWhile isDigit)

/-- `port`; `erange` says whether `errno` is `ERANGE` behind the `strtol`. -/
def port (erange : Bool) (s : CString) : Except ExitStatus ℕ :=
  let sl := strtol s.bytes
  match strtolEnd s.bytes with
  | none => .error 1
  | some rest =>
    if rest ≠ [] ∨ ((-9223372036854775808 = sl ∨ 9223372036854775807 = sl) ∧ erange = true) ∨
        sl < 0 ∨ sl > ushrtMax then
      .error 1
    else
      .ok sl.toNat

/-- `"0.0.0.0"`. -/
def anyAddr : CString := ⟨[48, 46, 48, 46, 48, 46, 48], by decide⟩

def defaultArgs : Socks5Args where
  socksAddr := anyAddr
  socksPort := 1080
  mngAddr := anyAddr
  mngPort := 8080
  disectorsEnabled := true
  users := []

/-- One turn of the loop of `parse_args`. -/
def parseOption (erange : Bool) (args : Socks5Args) : Getopt → Except ExitStatus Socks5Args
  | .help => .error 1
  | .socksAddr optarg => .ok { args with socksAddr := optarg }
  | .mngAddr optarg => .ok { args with mngAddr := optarg }
  | .noDisectors => .ok { args with disectorsEnabled := false }
  | .socksPort optarg => (port erange optarg).map fun p => { args with socksPort := p }
  | .mngPort optarg => (port erange optarg).map fun p => { args with mngPort := p }
  | .user optarg =>
    if args.users.length ≥ maxUsers then .error 1
    else
      match Args.user optarg with
      | none => .error 1
      | some u => .ok { args with users := args.users ++ [u] }
  | .version => .error 0
  | .unknown => .error 1

/-- `parse_args`; `more` says that arguments are left behind the options. -/
def parseArgs (erange : Bool) (opts : List Getopt) (more : Bool) : Except ExitStatus Socks5Args :=
  match run (parseOption erange) defaultArgs opts with
  | .error status => .error status
  | .ok args => if more then .error 1 else .ok args

/-! ## The users of the command line -/

/-- The loop of `main` over the users; `frames` is what the local records of each
`user_create` held, and `none` the end of the process. -/
def createUsers : (ℕ → UInt8 × UInt8) → UserStore → List Users → Option UserStore
  | _, store, [] => some store
  | frames, store, u :: us =>
    match userCreate store u.name u.pass userPrivilegeDefault (frames 0) with
    | (store, .ok) => createUsers (fun n => frames (n + 1)) store us
    | _ => none

/-- `main` from `users_init` to the sockets. -/
def startUp (erange : Bool) (frames : ℕ → UInt8 × UInt8) (opts : List Getopt) (more : Bool) :
    Except ExitStatus (Socks5Args × UserStore) :=
  match parseArgs erange opts more with
  | .error status => .error status
  | .ok args =>
    match createUsers frames usersInit args.users with
    | none => .error 1
    | some store => .ok (args, store)

/-! ### Ports -/

section Ports

variable {text : List UInt8} {z : ℤ} {erange : Bool} {s : CString} {p : ℕ}

/-- A numeral is read to its end, and kept inside a `long`. -/
theorem strtol_numeral (h : Numeral text z) : strtolEnd text = some [] ∧
    strtol text = max (min z 9223372036854775807) (-9223372036854775808) := by
  have hdigits : ∀ {digits : List UInt8}, digits ≠ [] → (∀ d ∈ digits, isDigit d) →
      digits.takeWhile isDigit = digits ∧ digits.dropWhile isDigit = [] ∧
        digits.takeWhile isDigit ≠ [] := by
    intro digits hne hall
    have htake := List.takeWhile_eq_self_iff.mpr hall
    refine ⟨htake, List.dropWhile_eq_nil_iff.mpr hall, ?_⟩
    rw [htake]
    exact hne
  induction h with
  | @unsigned digits hne hall =>
      obtain ⟨htake, hdrop, hsome⟩ := hdigits hne hall
      obtain ⟨d, rest, rfl⟩ := List.exists_cons_of_ne_nil hne
      have hd := hall d List.mem_cons_self
      have hsign : splitSign ((d :: rest).dropWhile isSpace) = (false, d :: rest) := by
        rw [List.dropWhile_cons_of_neg (by simp [not_isSpace_of_isDigit hd]),
          splitSign_of_isDigit hd]
      rw [strtolEnd, strtol, hsign]
      refine ⟨?_, ?_⟩
      · dsimp only
        rw [if_neg hsome, hdrop]
      · simp only [htake, Bool.false_eq_true, if_false]
        omega
  | @plus digits hne hall =>
      obtain ⟨htake, hdrop, hsome⟩ := hdigits hne hall
      have hsign : splitSign ((43 :: digits).dropWhile isSpace) = (false, digits) := rfl
      rw [strtolEnd, strtol, hsign]
      refine ⟨?_, ?_⟩
      · dsimp only
        rw [if_neg hsome, hdrop]
      · simp only [htake, Bool.false_eq_true, if_false]
        omega
  | @minus digits hne hall =>
      obtain ⟨htake, hdrop, hsome⟩ := hdigits hne hall
      have hsign : splitSign ((45 :: digits).dropWhile isSpace) = (true, digits) := rfl
      rw [strtolEnd, strtol, hsign]
      refine ⟨?_, ?_⟩
      · dsimp only
        rw [if_neg hsome, hdrop]
      · simp only [htake, if_true]
        omega
  | @blank c text z hc h ih =>
      rw [strtolEnd, strtol, List.dropWhile_cons_of_pos hc]
      exact ih

theorem exists_numeral_of_strtolEnd (h : strtolEnd text = some []) : ∃ z, Numeral text z := by
  induction text with
  | nil => cases h
  | cons c text ih =>
      by_cases hc : isSpace c
      · rw [strtolEnd, List.dropWhile_cons_of_pos hc] at h
        obtain ⟨z, hz⟩ := ih h
        exact ⟨z, .blank hc hz⟩
      · rw [strtolEnd, List.dropWhile_cons_of_neg hc] at h
        split_ifs at h with hnone
        rw [Option.some.injEq, List.dropWhile_eq_nil_iff] at h
        have hne : (splitSign (c :: text)).2 ≠ [] := by
          intro hnil
          rw [hnil] at hnone
          exact hnone rfl
        dsimp only [splitSign] at h hne
        split_ifs at h hne with hminus hplus
        · rw [hminus]
          exact ⟨_, .minus hne h⟩
        · rw [hplus]
          exact ⟨_, .plus hne h⟩
        · exact ⟨_, .unsigned hne h⟩

/-- A port is a numeral of a number of 16 bits; `errno` does not matter. -/
theorem port_ok_iff : port erange s = .ok p ↔ Numeral s.bytes p ∧ p ≤ 65535 := by
  constructor
  · intro h
    unfold port ushrtMax at h
    dsimp only at h
    split at h
    · cases h
    · next rest hrest =>
        split_ifs at h with hbad
        simp only [not_or, ne_eq, not_not] at hbad
        obtain ⟨rfl, -, hpos, hmax⟩ := hbad
        obtain ⟨z, hz⟩ := exists_numeral_of_strtolEnd hrest
        rw [(strtol_numeral hz).2] at h hpos hmax
        have hp := Except.ok.inj h
        have hzp : z = p := by omega
        rw [hzp] at hz
        exact ⟨hz, by omega⟩
  · rintro ⟨hz, hmax⟩
    obtain ⟨hend, hvalue⟩ := strtol_numeral hz
    unfold port ushrtMax
    dsimp only
    rw [hend, hvalue]
    dsimp only
    rw [if_neg]
    · congr 1
      omega
    · rintro (hne | ⟨hmin | hmin, -⟩ | hneg | hlarge)
      · exact hne rfl
      · omega
      · omega
      · omega
      · omega

end Ports

/-! ### The options -/

/-- `parse_args` accepts the option. -/
def Getopt.Good : Getopt → Prop
  | .socksAddr _ | .mngAddr _ | .noDisectors => True
  | .socksPort optarg | .mngPort optarg => ∃ p : ℕ, p ≤ 65535 ∧ Numeral optarg.bytes p
  | .user optarg => colon ∈ optarg.bytes
  | .help | .version | .unknown => False

/-- What a `-u` gives. -/
def Getopt.users : Getopt → List Users
  | .user optarg => (Args.user optarg).toList
  | _ => []

/-- The users of the command line, in order. -/
def givenUsers (opts : List Getopt) : List Users := opts.flatMap Getopt.users

section Options

variable {erange : Bool} {args args' : Socks5Args} {o : Getopt} {opts : List Getopt} {more : Bool}

theorem map_ok_iff {ε α β : Type} {r : Except ε α} {f : α → β} {b : β} :
    r.map f = .ok b ↔ ∃ a, r = .ok a ∧ f a = b := by
  rcases r with e | a
  · exact iff_of_false nofun (by rintro ⟨a, ha, -⟩; cases ha)
  · constructor
    · intro h
      exact ⟨a, rfl, Except.ok.inj h⟩
    · rintro ⟨a', ha, rfl⟩
      rw [← Except.ok.inj ha]
      rfl

theorem exists_port_iff {s : CString} (f : ℕ → Socks5Args) :
    (∃ args', (port erange s).map f = .ok args') ↔ ∃ p : ℕ, p ≤ 65535 ∧ Numeral s.bytes p := by
  constructor
  · rintro ⟨args', h⟩
    obtain ⟨p, hp, -⟩ := map_ok_iff.mp h
    obtain ⟨hz, hmax⟩ := port_ok_iff.mp hp
    exact ⟨p, hmax, hz⟩
  · rintro ⟨p, hmax, hz⟩
    exact ⟨f p, map_ok_iff.mpr ⟨p, port_ok_iff.mpr ⟨hz, hmax⟩, rfl⟩⟩

/-- `user` fails only for want of a colon. -/
theorem user_eq_none_iff {s : CString} : Args.user s = none ↔ colon ∉ s.bytes := by
  unfold Args.user strchr
  rcases hfound : s.bytes.dropWhile (· != colon) with _ | ⟨c, rest⟩
  · refine iff_of_true rfl fun hmem => ?_
    have hbad := List.dropWhile_eq_nil_iff.mp hfound colon hmem
    simp at hbad
  · refine iff_of_false nofun (not_not.mpr ?_)
    have hc : c = colon := by
      have hhead := List.head_dropWhile_not (p := (· != colon)) (l := s.bytes) (by simp [hfound])
      simpa [hfound] using hhead
    rw [← hc]
    exact (List.dropWhile_suffix _).subset (hfound ▸ List.mem_cons_self)

theorem parseOption_ok_iff (hroom : args.users.length ≤ maxUsers) :
    (∃ args', parseOption erange args o = .ok args') ↔
      o.Good ∧ args.users.length + o.users.length ≤ maxUsers := by
  rcases o with _ | s | s | _ | s | s | s | _ | _
  · exact iff_of_false (by rintro ⟨_, h⟩; cases h) fun h => h.1
  · exact iff_of_true ⟨_, rfl⟩ ⟨trivial, hroom⟩
  · exact iff_of_true ⟨_, rfl⟩ ⟨trivial, hroom⟩
  · exact iff_of_true ⟨_, rfl⟩ ⟨trivial, hroom⟩
  · exact (exists_port_iff _).trans (and_iff_left hroom).symm
  · exact (exists_port_iff _).trans (and_iff_left hroom).symm
  · rw [parseOption, Getopt.users, Getopt.Good]
    have hcolon := not_iff_not.mpr (user_eq_none_iff (s := s))
    rw [not_not] at hcolon
    rw [← hcolon]
    by_cases hfull : args.users.length ≥ maxUsers
    · rw [if_pos hfull]
      refine iff_of_false (by rintro ⟨_, h⟩; cases h) ?_
      rintro ⟨hgood, hfits⟩
      obtain ⟨u, hu⟩ := Option.ne_none_iff_exists'.mp hgood
      rw [hu, Option.toList_some, List.length_singleton] at hfits
      omega
    · rw [if_neg hfull]
      rcases Args.user s with _ | u
      · exact iff_of_false (by rintro ⟨_, h⟩; cases h) fun h => h.1 rfl
      · refine iff_of_true ⟨_, rfl⟩ ⟨Option.some_ne_none u, ?_⟩
        rw [Option.toList_some, List.length_singleton]
        omega
  · exact iff_of_false (by rintro ⟨_, h⟩; cases h) fun h => h.1
  · exact iff_of_false (by rintro ⟨_, h⟩; cases h) fun h => h.1

theorem parseOption_users (h : parseOption erange args o = .ok args') :
    args'.users = args.users ++ o.users := by
  have hport : ∀ {s : CString} {f : ℕ → Socks5Args}, (∀ p, (f p).users = args.users) →
      (port erange s).map f = .ok args' → args'.users = args.users ++ [] := by
    intro s f hf h
    obtain ⟨p, -, rfl⟩ := map_ok_iff.mp h
    rw [hf p, List.append_nil]
  rcases o with _ | s | s | _ | s | s | s | _ | _
  · cases h
  · cases h
    exact (List.append_nil _).symm
  · cases h
    exact (List.append_nil _).symm
  · cases h
    exact (List.append_nil _).symm
  · exact hport (f := fun p => { args with socksPort := p }) (fun _ => rfl) h
  · exact hport (f := fun p => { args with mngPort := p }) (fun _ => rfl) h
  · rw [parseOption] at h
    split_ifs at h
    rcases hu : Args.user s with _ | u
    · rw [hu] at h
      cases h
    · rw [hu] at h
      cases h
      rw [Getopt.users, hu]
      rfl
  · cases h
  · cases h

theorem run_parseOption_users (h : run (parseOption erange) args opts = .ok args') :
    args'.users = args.users ++ givenUsers opts := by
  induction opts generalizing args with
  | nil =>
      rw [← Except.ok.inj h]
      exact (List.append_nil _).symm
  | cons o opts ih =>
      obtain ⟨args₁, hstep, hrest⟩ := run_cons_ok_iff.mp h
      rw [ih hrest, parseOption_users hstep, List.append_assoc]
      rfl

theorem run_parseOption_ok_iff (hroom : args.users.length ≤ maxUsers) :
    (∃ args', run (parseOption erange) args opts = .ok args') ↔
      (∀ o ∈ opts, o.Good) ∧ args.users.length + (givenUsers opts).length ≤ maxUsers := by
  induction opts generalizing args with
  | nil => exact iff_of_true ⟨args, rfl⟩ ⟨by simp, hroom⟩
  | cons o opts ih =>
      have hstep : (∃ args', parseOption erange args o = .ok args') ↔ _ := parseOption_ok_iff hroom
      have hlength : (givenUsers (o :: opts)).length = o.users.length + (givenUsers opts).length :=
        List.length_append
      have hnext : ∀ {args₁}, parseOption erange args o = .ok args₁ →
          args₁.users.length = args.users.length + o.users.length := by
        intro args₁ hok
        rw [parseOption_users hok, List.length_append]
      constructor
      · rintro ⟨args', hrun⟩
        obtain ⟨args₁, hok, hrest⟩ := run_cons_ok_iff.mp hrun
        obtain ⟨hgood, hfits⟩ := hstep.mp ⟨args₁, hok⟩
        have husers := hnext hok
        have hroom₁ : args₁.users.length ≤ maxUsers := by omega
        obtain ⟨hgoods, htotal⟩ := (ih hroom₁).mp ⟨args', hrest⟩
        refine ⟨List.forall_mem_cons.mpr ⟨hgood, hgoods⟩, ?_⟩
        omega
      · rintro ⟨hgoods, htotal⟩
        obtain ⟨hgood, hrestGood⟩ := List.forall_mem_cons.mp hgoods
        obtain ⟨args₁, hok⟩ := hstep.mpr ⟨hgood, by omega⟩
        have husers := hnext hok
        have hroom₁ : args₁.users.length ≤ maxUsers := by omega
        obtain ⟨args', hrest⟩ := (ih hroom₁).mpr ⟨hrestGood, by omega⟩
        exact ⟨args', run_cons_ok_iff.mpr ⟨args₁, hok, hrest⟩⟩

end Options

/-! ### The users -/

/-- `user_create` takes each of the users after the ones before it. -/
structure Creatable (store : UserStore) (us : List Users) : Prop where
  fits : ∀ u ∈ us, u.name.length < usersMaxUsernameLength ∧ u.pass.length < usersMaxPasswordLength
  unknown : ∀ u ∈ us, userGetIfExists store u.name = none
  distinct : us.Pairwise fun u v => u.name ≠ v.name

/-- The two strings of a user are cut from one argument. -/
def Users.NoNul (u : Users) : Prop := 0 ∉ u.name ∧ 0 ∉ u.pass

theorem noNul_of_givenUsers {opts : List Getopt} {u : Users} (h : u ∈ givenUsers opts) :
    u.NoNul := by
  obtain ⟨o, -, hu⟩ := List.mem_flatMap.mp h
  rcases o with _ | s | s | _ | s | s | s | _ | _
  · cases hu
  · cases hu
  · cases hu
  · cases hu
  · cases hu
  · cases hu
  · obtain ⟨hbytes, -⟩ := Client.bytes_of_user (Option.mem_toList.mp hu)
    have hnul := s.noNul
    rw [hbytes, List.mem_append, List.mem_cons, not_or, not_or] at hnul
    exact ⟨hnul.1, hnul.2.2⟩
  · cases hu
  · cases hu

section Creation

variable {stack : UInt8 × UInt8} {frames : ℕ → UInt8 × UInt8} {store store' : UserStore}
  {us : List Users} {n m p : CString}

theorem createUsers_cons_iff {u : Users} : createUsers frames store (u :: us) = some store' ↔
    (userCreate store u.name u.pass userPrivilegeDefault (frames 0)).2 = .ok ∧
      createUsers (fun n => frames (n + 1))
        (userCreate store u.name u.pass userPrivilegeDefault (frames 0)).1 us = some store' := by
  rw [createUsers]
  generalize userCreate store u.name u.pass userPrivilegeDefault (frames 0) = r
  obtain ⟨store₁, status⟩ := r
  cases status with
  | ok => exact (and_iff_right rfl).symm
  | _ => exact iff_of_false nofun fun h => nomatch h.1

/-- The other names are looked up as before. -/
theorem userCreate_lookup_ne (h : store.Ordered) (hne : m ≠ n) :
    userGetIfExists (userCreate store n.bytes p.bytes userPrivilegeDefault stack).1 m.bytes =
      userGetIfExists store m.bytes :=
  UserOp.lookup_ne h (.create n p userPrivilegeDefault stack) hne

theorem userCreate_unknown_iff (h : store.Ordered)
    (hok : (userCreate store n.bytes p.bytes userPrivilegeDefault stack).2 = .ok) :
    userGetIfExists (userCreate store n.bytes p.bytes userPrivilegeDefault stack).1 m.bytes =
      none ↔ m ≠ n ∧ userGetIfExists store m.bytes = none := by
  by_cases hne : m = n
  · rw [hne, (userCreate_found h hok).2]
    exact iff_of_false nofun fun hboth => hboth.1 rfl
  · rw [userCreate_lookup_ne h hne]
    exact (and_iff_right hne).symm

/-- A new user without privileges makes nobody an administrator. -/
theorem userCreate_userIsAdmin (h : store.Ordered)
    (hok : (userCreate store n.bytes p.bytes userPrivilegeDefault stack).2 = .ok) :
    userIsAdmin (userCreate store n.bytes p.bytes userPrivilegeDefault stack).1 m.bytes =
      userIsAdmin store m.bytes := by
  by_cases hne : m = n
  · obtain ⟨-, hstatus, -⟩ := create_spec h n p userPrivilegeDefault stack
    rw [hne, userIsAdmin, userIsAdmin, (userCreate_found h hok).2, (hstatus.mp hok).1]
    rfl
  · rw [userIsAdmin, userIsAdmin, userCreate_lookup_ne h hne]

theorem createUsers_iff (h : store.Ordered) (hus : ∀ u ∈ us, u.NoNul) :
    (∃ store', createUsers frames store us = some store') ↔ Creatable store us := by
  induction us generalizing frames store with
  | nil => exact iff_of_true ⟨store, rfl⟩ ⟨by simp, by simp, .nil⟩
  | cons u us ih =>
      obtain ⟨⟨hname, hpass⟩, hus⟩ := List.forall_mem_cons.mp hus
      obtain ⟨hordered, hstatus, -⟩ :=
        create_spec h ⟨u.name, hname⟩ ⟨u.pass, hpass⟩ userPrivilegeDefault (frames 0)
      have hunknown_iff : (userCreate store u.name u.pass userPrivilegeDefault (frames 0)).2 = .ok →
          ∀ v ∈ us, userGetIfExists
            (userCreate store u.name u.pass userPrivilegeDefault (frames 0)).1 v.name = none ↔
              v.name ≠ u.name ∧ userGetIfExists store v.name = none := by
        intro hok v hv
        refine (userCreate_unknown_iff (m := ⟨v.name, (hus v hv).1⟩) (n := ⟨u.name, hname⟩)
          (p := ⟨u.pass, hpass⟩) h hok).trans (and_congr_left' ?_)
        rw [Ne, CString.ext_iff]
      constructor
      · rintro ⟨store', hsome⟩
        obtain ⟨hok, hrest⟩ := createUsers_cons_iff.mp hsome
        obtain ⟨hnone, huname, hupass⟩ := hstatus.mp hok
        obtain ⟨hfits, hunknown, hdistinct⟩ := (ih hordered hus).mp ⟨store', hrest⟩
        have hlater := fun v hv => (hunknown_iff hok v hv).mp (hunknown v hv)
        refine ⟨List.forall_mem_cons.mpr ⟨⟨huname, hupass⟩, hfits⟩,
          List.forall_mem_cons.mpr ⟨hnone, fun v hv => (hlater v hv).2⟩, ?_⟩
        exact List.pairwise_cons.mpr ⟨fun v hv => (hlater v hv).1.symm, hdistinct⟩
      · rintro ⟨hfits, hunknown, hdistinct⟩
        obtain ⟨⟨huname, hupass⟩, hfits⟩ := List.forall_mem_cons.mp hfits
        obtain ⟨hnone, hunknown⟩ := List.forall_mem_cons.mp hunknown
        obtain ⟨hne, hdistinct⟩ := List.pairwise_cons.mp hdistinct
        have hok := hstatus.mpr ⟨hnone, huname, hupass⟩
        obtain ⟨store', hrest⟩ := (ih hordered hus).mpr ⟨hfits, fun v hv =>
          (hunknown_iff hok v hv).mpr ⟨(hne v hv).symm, hunknown v hv⟩, hdistinct⟩
        exact ⟨store', createUsers_cons_iff.mpr ⟨hok, hrest⟩⟩

theorem createUsers_sound (h : store.Ordered) (hus : ∀ u ∈ us, u.NoNul)
    (hsome : createUsers frames store us = some store') :
    store'.Ordered ∧
      (∀ n p, StoredPair store' n p ↔ StoredPair store n p ∨ ⟨n.bytes, p.bytes⟩ ∈ us) ∧
      ∀ n : CString, userIsAdmin store' n.bytes = userIsAdmin store n.bytes := by
  induction us generalizing frames store with
  | nil =>
      cases hsome
      exact ⟨h, fun n p => by simp, fun _ => rfl⟩
  | cons u us ih =>
      obtain ⟨⟨hname, hpass⟩, hus⟩ := List.forall_mem_cons.mp hus
      obtain ⟨hok, hrest⟩ := createUsers_cons_iff.mp hsome
      obtain ⟨username, hname⟩ : ∃ c : CString, c.bytes = u.name := ⟨⟨u.name, hname⟩, rfl⟩
      obtain ⟨password, hpass⟩ : ∃ c : CString, c.bytes = u.pass := ⟨⟨u.pass, hpass⟩, rfl⟩
      rw [← hname, ← hpass] at hok hrest
      obtain ⟨hordered, -⟩ := create_spec h username password userPrivilegeDefault (frames 0)
      obtain ⟨hordered', hpairs, hadmins⟩ := ih hordered hus hrest
      refine ⟨hordered', ?_, fun n => (hadmins n).trans (userCreate_userIsAdmin h hok)⟩
      intro n p
      have hself : (⟨n.bytes, p.bytes⟩ : Users) = u ↔ n = username ∧ p = password := by
        rw [CString.ext_iff, CString.ext_iff, hname, hpass]
        cases u
        exact Users.mk.injEq .. ▸ Iff.rfl
      rw [hpairs, storedPair_create_iff h hok, List.mem_cons, hself]
      tauto

end Creation

/-! ## The store `main` serves from -/

theorem storedPair_usersInit {n p : CString} :
    StoredPair usersInit n p ↔ n = adminName ∧ p = adminName := by
  unfold StoredPair
  rw [usersInit_nodes]
  simp only [List.mem_singleton, exists_eq_left]
  have hpass : adminUser.passwordString = adminName.bytes := by
    change cString (adminName.bytes ++ List.replicate 251 0 ++ _) = adminName.bytes
    rw [List.append_assoc]
    exact cString_append_zero adminName.noNul
  rw [adminUser_name, hpass, CString.ext_iff (a := p)]
  exact and_congr eq_comm eq_comm

theorem userIsAdmin_usersInit {n : CString} :
    userIsAdmin usersInit n.bytes = true ↔ n = adminName := by
  rw [← usersInit_lookup_iff]
  rcases hfind : userGetIfExists usersInit n.bytes with _ | user
  · rw [userIsAdmin, hfind]
    simp
  · have hmem := List.mem_of_find?_eq_some hfind
    rw [usersInit_nodes, List.mem_singleton] at hmem
    rw [userIsAdmin, hfind, hmem]
    exact iff_of_true rfl rfl

section StartUp

variable {erange more : Bool} {frames : ℕ → UInt8 × UInt8} {opts : List Getopt} {args : Socks5Args}
  {store : UserStore}

theorem parseArgs_ok_iff : parseArgs erange opts more = .ok args ↔
    more = false ∧ run (parseOption erange) defaultArgs opts = .ok args := by
  unfold parseArgs
  rcases run (parseOption erange) defaultArgs opts with status | args'
  · exact iff_of_false nofun fun h => nomatch h.2
  · rcases more with _ | _
    · exact (and_iff_right rfl).symm
    · exact iff_of_false nofun fun h => nomatch h.1

theorem startUp_ok_iff : startUp erange frames opts more = .ok (args, store) ↔
    parseArgs erange opts more = .ok args ∧
      createUsers frames usersInit args.users = some store := by
  unfold startUp
  rcases parseArgs erange opts more with status | args'
  · exact iff_of_false nofun fun h => nomatch h.1
  · dsimp only
    constructor
    · intro h
      split at h
      · cases h
      · next hstore =>
          cases h
          exact ⟨rfl, hstore⟩
    · rintro ⟨hargs, hstore⟩
      cases hargs
      rw [hstore]

theorem users_of_parseArgs (h : parseArgs erange opts more = .ok args) :
    args.users = givenUsers opts :=
  run_parseOption_users (parseArgs_ok_iff.mp h).2

/-- What `main` serves from. -/
theorem startUp_store (h : startUp erange frames opts more = .ok (args, store)) :
    store.Ordered ∧
      (∀ n p, StoredPair store n p ↔
        n = adminName ∧ p = adminName ∨ ⟨n.bytes, p.bytes⟩ ∈ givenUsers opts) ∧
      ∀ n : CString, userIsAdmin store n.bytes = true ↔ n = adminName := by
  obtain ⟨hargs, hstore⟩ := startUp_ok_iff.mp h
  rw [users_of_parseArgs hargs] at hstore
  obtain ⟨hordered, hpairs, hadmins⟩ :=
    createUsers_sound usersInit_ordered (fun _ => noNul_of_givenUsers) hstore
  refine ⟨hordered, fun n p => ?_, fun n => ?_⟩
  · rw [hpairs, storedPair_usersInit]
  · rw [hadmins, userIsAdmin_usersInit]

theorem exists_startUp_iff : (∃ r, startUp erange frames opts more = .ok r) ↔
    more = false ∧ (∀ o ∈ opts, o.Good) ∧ (givenUsers opts).length ≤ maxUsers ∧
      Creatable usersInit (givenUsers opts) := by
  have hparses : (∃ args, run (parseOption erange) defaultArgs opts = .ok args) ↔
      (∀ o ∈ opts, o.Good) ∧ 0 + (givenUsers opts).length ≤ maxUsers :=
    run_parseOption_ok_iff (Nat.zero_le _)
  have hcreates : (∃ store, createUsers frames usersInit (givenUsers opts) = some store) ↔
      Creatable usersInit (givenUsers opts) :=
    createUsers_iff usersInit_ordered fun _ => noNul_of_givenUsers
  rw [Nat.zero_add] at hparses
  constructor
  · rintro ⟨⟨args, store⟩, h⟩
    obtain ⟨hargs, hstore⟩ := startUp_ok_iff.mp h
    obtain ⟨hmore, hrun⟩ := parseArgs_ok_iff.mp hargs
    obtain ⟨hgood, hroom⟩ := hparses.mp ⟨args, hrun⟩
    rw [users_of_parseArgs hargs] at hstore
    exact ⟨hmore, hgood, hroom, hcreates.mp ⟨store, hstore⟩⟩
  · rintro ⟨hmore, hgood, hroom, hcreatable⟩
    obtain ⟨args, hrun⟩ := hparses.mpr ⟨hgood, hroom⟩
    obtain ⟨store, hstore⟩ := hcreates.mpr hcreatable
    have hargs := parseArgs_ok_iff.mpr ⟨hmore, hrun⟩
    rw [← users_of_parseArgs hargs] at hstore
    exact ⟨(args, store), startUp_ok_iff.mpr ⟨hargs, hstore⟩⟩

end StartUp

/-- The server comes up exactly if every option is one that `parse_args`
accepts, there are at most ten users, and `user_create` takes each of them; then
the credentials it knows are those of `admin` and those of the command line, and
`admin` is the only administrator. -/
theorem startUp_users (erange : Bool) (frames : ℕ → UInt8 × UInt8) (opts : List Getopt) (more : Bool) :
    ((∃ r, startUp erange frames opts more = .ok r) ↔
      more = false ∧ (∀ o ∈ opts, o.Good) ∧ (givenUsers opts).length ≤ maxUsers ∧
        Creatable usersInit (givenUsers opts)) ∧
    ∀ args store, startUp erange frames opts more = .ok (args, store) →
      store.Ordered ∧
      (∀ n p, StoredPair store n p ↔
        n = adminName ∧ p = adminName ∨ ⟨n.bytes, p.bytes⟩ ∈ givenUsers opts) ∧
      ∀ n : CString, userIsAdmin store n.bytes = true ↔ n = adminName :=
  ⟨exists_startUp_iff, fun _ _ => startUp_store⟩

end Socks5Proxy
