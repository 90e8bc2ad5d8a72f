import Socks5Proxy.Client.Commands
import Socks5Proxy.Server.Startup

/-!
# The command line of the client

`parse_client_args` goes over the arguments twice.  It takes the flags it knows
and their values out, wherever they stand; what is left is a command and its
operands.
-/

namespace Socks5Proxy.Client

/-! ## The parser -/

/-- `"-h"`. -/
def helpFlag : List UInt8 := [45, 104]

/-- `"-v"`. -/
def versionFlag : List UInt8 := [45, 118]

/-- `"-L"`. -/
def hostFlag : List UInt8 := [45, 76]

/-- `"-P"`. -/
def portFlag : List UInt8 := [45, 80]

/-- `"-u"`. -/
def userFlag : List UInt8 := [45, 117]

/-- `"users"`. -/
def usersOption : List UInt8 := [117, 115, 101, 114, 115]

/-- `"metrics"`. -/
def metricsOption : List UInt8 := [109, 101, 116, 114, 105, 99, 115]

/-- `"remove-user"`. -/
def removeUserOption : List UInt8 := [114, 101, 109, 111, 118, 101, 45, 117, 115, 101, 114]

/-- `"change-role"`. -/
def changeRoleOption : List UInt8 := [99, 104, 97, 110, 103, 101, 45, 114, 111, 108, 101]

/-- `"change-password"`. -/
def changePasswordOption : List UInt8 :=
  [99, 104, 97, 110, 103, 101, 45, 112, 97, 115, 115, 119, 111, 114, 100]

/-- `"add-user"`. -/
def addUserOption : List UInt8 := [97, 100, 100, 45, 117, 115, 101, 114]

/-- `is_number`. -/
def isNumber (s : CString) : Bool := !s.bytes.isEmpty && s.bytes.all isDigit

/-- `need_args`; `none` is an option it does not know. -/
def needArgs (opt : CString) : Option ℕ :=
  if opt.bytes = usersOption then some 0
  else if opt.bytes = metricsOption then some 0
  else if opt.bytes = removeUserOption then some 1
  else if opt.bytes = changeRoleOption then some 2
  else if opt.bytes = changePasswordOption then some 2
  else if opt.bytes = addUserOption then some 3
  else none

/-- Why there is nothing to go on with: what has been asked for is printed, or
an error. -/
inductive ArgsExit
  | noArguments
  | help
  | version
  | hostMissing
  | portMissing
  | portNotNumeric
  | portInvalid (s : CString)
  | userMissing
  | tooManyUsers
  | userFormat
  | commandMissing
  | commandUnknown (option : CString)
  | argumentsMissing (option : CString) (nArgs remaining : ℕ)

/-- What `parse_client_args` returns then. -/
def ArgsExit.value : ArgsExit → ℤ
  | help => 1
  | version => 1
  | _ => -1

/-- The members of `struct ClientArgs` that the flags set; `user` is `none` while
`user` and `password` are indeterminate. -/
structure ClientFlags where
  host : CString
  port : ℕ
  user : Option Users
  usrCount : ℕ

theorem noNul_loopback : (0 : UInt8) ∉ [49, 50, 55, 46, 48, 46, 48, 46, 49] := by decide

/-- The host `127.0.0.1`, and the port 8080. -/
def defaultFlags : ClientFlags where
  host := ⟨[49, 50, 55, 46, 48, 46, 48, 46, 49], noNul_loopback⟩
  port := 8080
  user := none
  usrCount := 0

/-- `struct ClientArgs`, with null for an argument that the option does not
need. -/
structure ParsedArgs where
  flags : ClientFlags
  option : CString
  arg1 : Option CString
  arg2 : Option CString
  arg3 : Option CString

/-- The arguments in their order; the rest is null. -/
def withArguments (flags : ClientFlags) (option : CString) (given : List CString) : ParsedArgs where
  flags := flags
  option := option
  arg1 := given[0]?
  arg2 := given[1]?
  arg3 := given[2]?

/-- A flag and its value are set to null. -/
def nulled (r : ClientFlags × List (Option CString)) : ClientFlags × List (Option CString) :=
  (r.1, none :: none :: r.2)

/-- The first loop: what it sets, and what it leaves of `argv`.  It compares
`usr_count`, which nothing increments. -/
def parseFlags : List CString → ClientFlags →
    Except ArgsExit (ClientFlags × List (Option CString))
  | [], out => .ok (out, [])
  | s :: argv, out =>
    if s.bytes = helpFlag then .error .help
    else if s.bytes = versionFlag then .error .version
    else if s.bytes = hostFlag then
      match argv with
      | [] => .error .hostMissing
      | host :: argv => (parseFlags argv { out with host := host }).map nulled
    else if s.bytes = portFlag then
      match argv with
      | [] => .error .portMissing
      | port :: argv =>
        if isNumber port = false then .error .portNotNumeric
        else if strtol port.bytes < 1 ∨ strtol port.bytes > 65535 then .error (.portInvalid port)
        else (parseFlags argv { out with port := (strtol port.bytes).toNat }).map nulled
    else if s.bytes = userFlag then
      match argv with
      | [] => .error .userMissing
      | usrPass :: argv =>
        if out.usrCount ≥ 32 then .error .tooManyUsers
        else
          match parsePassword usrPass with
          | none => .error .userFormat
          | some user => (parseFlags argv { out with user := some user }).map nulled
    else (parseFlags argv out).map fun r => (r.1, some s :: r.2)

/-- The search for the command, and its arguments. -/
def takeCommand (flags : ClientFlags) (argv : List (Option CString)) :
    Except ArgsExit ParsedArgs :=
  match argv.dropWhile Option.isNone with
  | some option :: argv =>
    match needArgs option with
    | none => .error (.commandUnknown option)
    | some nArgs =>
      let remaining := (argv.filter Option.isSome).length
      if remaining < nArgs then .error (.argumentsMissing option nArgs remaining)
      else .ok (withArguments flags option ((argv.filterMap id).take nArgs))
  | _ => .error .commandMissing

/-- `parse_client_args` on the arguments behind the name of the program. -/
def parseClientArgs (argv : List CString) : Except ArgsExit ParsedArgs :=
  match argv with
  | [] => .error .noArguments
  | s :: argv => (parseFlags (s :: argv) defaultFlags).bind fun r => takeCommand r.1 r.2

/-! ## What it accepts -/

theorem noNul_hostFlag : (0 : UInt8) ∉ hostFlag := by decide

theorem noNul_portFlag : (0 : UInt8) ∉ portFlag := by decide

theorem noNul_userFlag : (0 : UInt8) ∉ userFlag := by decide

/-- A part of a command line: a flag with its value, or a word that is no
flag. -/
inductive Piece
  | host (s : CString)
  | port (s : CString)
  | user (s : CString)
  | word (s : CString)

namespace Piece

/-- The arguments it is written with. -/
def arguments : Piece → List CString
  | host s => [⟨hostFlag, noNul_hostFlag⟩, s]
  | port s => [⟨portFlag, noNul_portFlag⟩, s]
  | user s => [⟨userFlag, noNul_userFlag⟩, s]
  | word s => [s]

/-- A port is a decimal numeral from 1 to 65535, a user has a name and a
password, and a word is none of the five flags. -/
def Good : Piece → Prop
  | host _ => True
  | port s => s.bytes ≠ [] ∧ (∀ c ∈ s.bytes, isDigit c) ∧ 1 ≤ atoi s.bytes ∧ atoi s.bytes ≤ 65535
  | user s => parsePassword s ≠ none
  | word s => s.bytes ∉ [helpFlag, versionFlag, hostFlag, portFlag, userFlag]

/-- What it sets. -/
def set (flags : ClientFlags) : Piece → ClientFlags
  | host s => { flags with host := s }
  | port s => { flags with port := atoi s.bytes }
  | user s => { flags with user := parsePassword s }
  | word _ => flags

/-- What it leaves of its arguments. -/
def cells : Piece → List (Option CString)
  | host _ => [none, none]
  | port _ => [none, none]
  | user _ => [none, none]
  | word s => [some s]

/-- The word it is. -/
def word? : Piece → Option CString
  | host _ => none
  | port _ => none
  | user _ => none
  | word s => some s

end Piece

/-- The line is made of these parts, and behind the flags stands a known option
with as many operands as it needs. -/
structure CommandLine (argv : List CString) (pieces : List Piece) (option : CString)
    (operands : List CString) (nArgs : ℕ) : Prop where
  argv : argv = pieces.flatMap Piece.arguments
  good : ∀ p ∈ pieces, p.Good
  words : pieces.filterMap Piece.word? = option :: operands
  known : needArgs option = some nArgs
  enough : nArgs ≤ operands.length

/-! ### The flags -/

section Flags

variable {s : CString} {argv rest : List CString} {out : ClientFlags} {pieces : List Piece}
  {r : ClientFlags × List (Option CString)}

theorem map_eq_ok_iff {α β : Type} {x : Except ArgsExit α} {f : α → β} {b : β} :
    x.map f = .ok b ↔ ∃ a, x = .ok a ∧ f a = b := by
  rcases x with fault | a
  · simp [Except.map]
  · simp [Except.map]

/-- The test of a port. -/
theorem port_accepted_iff : (isNumber s = true ∧ ¬ (strtol s.bytes < 1 ∨ strtol s.bytes > 65535)) ↔
    (Piece.port s).Good := by
  rw [isNumber, Bool.and_eq_true, Bool.not_eq_true', List.isEmpty_eq_false_iff, List.all_eq_true,
    Piece.Good, and_assoc]
  refine and_congr_right fun hne => and_congr_right fun hdigits => ?_
  have hvalue := (strtol_numeral (.unsigned hne hdigits)).2
  omega

theorem toNat_strtol (h : (Piece.port s).Good) : (strtol s.bytes).toNat = atoi s.bytes := by
  obtain ⟨hne, hdigits, -, hle⟩ := h
  have hvalue := (strtol_numeral (.unsigned hne hdigits)).2
  omega

/-- `usr_count` stays what it is. -/
theorem usrCount_set (flags : ClientFlags) (p : Piece) :
    (p.set flags).usrCount = flags.usrCount := by
  rcases p with s | s | s | s <;> rfl

/-- The first loop takes a line of good parts apart. -/
theorem parseFlags_pieces (hgood : ∀ p ∈ pieces, p.Good) (hcount : out.usrCount < 32) :
    parseFlags (pieces.flatMap Piece.arguments) out =
      .ok (pieces.foldl (fun flags p => p.set flags) out, pieces.flatMap Piece.cells) := by
  induction pieces generalizing out with
  | nil => rfl
  | cons p pieces ih =>
      obtain ⟨hp, hgood⟩ := List.forall_mem_cons.mp hgood
      have hcount' : (p.set out).usrCount < 32 := by
        rw [usrCount_set]
        exact hcount
      have hrest := ih hgood hcount'
      rw [List.flatMap_cons, List.flatMap_cons, List.foldl_cons]
      rcases p with s | s | s | s
      · rw [Piece.arguments, List.cons_append, List.cons_append, List.nil_append, parseFlags,
          if_neg (by decide), if_neg (by decide), if_pos rfl]
        change (parseFlags _ ((Piece.host s).set out)).map nulled = _
        rw [hrest]
        rfl
      · obtain ⟨hnumber, hrange⟩ := port_accepted_iff.mpr hp
        have hport : { out with port := (strtol s.bytes).toNat } = (Piece.port s).set out := by
          rw [toNat_strtol hp]
          rfl
        rw [Piece.arguments, List.cons_append, List.cons_append, List.nil_append, parseFlags,
          if_neg (by decide), if_neg (by decide), if_neg (by decide), if_pos rfl,
          if_neg (by rw [hnumber]; decide), if_neg hrange, hport, hrest]
        rfl
      · obtain ⟨user, huser⟩ := Option.ne_none_iff_exists'.mp hp
        have hset : { out with user := some user } = (Piece.user s).set out := by
          rw [← huser]
          rfl
        rw [Piece.arguments, List.cons_append, List.cons_append, List.nil_append, parseFlags,
          if_neg (by decide), if_neg (by decide), if_neg (by decide), if_neg (by decide),
          if_pos rfl, if_neg (Nat.not_le.mpr hcount), huser]
        dsimp only
        rw [hset, hrest]
        rfl
      · have hflags : s.bytes ≠ helpFlag ∧ s.bytes ≠ versionFlag ∧ s.bytes ≠ hostFlag ∧
            s.bytes ≠ portFlag ∧ s.bytes ≠ userFlag := by
          simpa [Piece.Good] using hp
        obtain ⟨hhelp, hversion, hhost, hport, huser⟩ := hflags
        rw [Piece.arguments, List.cons_append, List.nil_append, parseFlags.eq_def]
        dsimp only
        rw [if_neg hhelp, if_neg hversion, if_neg hhost, if_neg hport, if_neg huser]
        change (parseFlags _ ((Piece.word s).set out)).map _ = _
        rw [hrest]
        rfl

/-- One more part. -/
theorem exists_pieces_cons (p : Piece) (hp : p.Good)
    (h : ∃ pieces : List Piece, rest = pieces.flatMap Piece.arguments ∧ ∀ p ∈ pieces, p.Good) :
    ∃ pieces : List Piece, p.arguments ++ rest = pieces.flatMap Piece.arguments ∧
      ∀ p ∈ pieces, p.Good := by
  obtain ⟨pieces, rfl, hgood⟩ := h
  exact ⟨p :: pieces, List.flatMap_cons.symm, List.forall_mem_cons.mpr ⟨hp, hgood⟩⟩

/-- It accepts no other line. -/
theorem exists_pieces (h : parseFlags argv out = .ok r) :
    ∃ pieces : List Piece, argv = pieces.flatMap Piece.arguments ∧ ∀ p ∈ pieces, p.Good := by
  fun_induction parseFlags argv out generalizing r with
  | case1 => exact ⟨[], rfl, List.forall_mem_nil _⟩
  | case5 s out _ _ hflag value argv ih =>
      obtain ⟨r', hr', -⟩ := map_eq_ok_iff.mp h
      obtain rfl : s = ⟨hostFlag, noNul_hostFlag⟩ := CString.ext_iff.mpr hflag
      exact exists_pieces_cons (.host value) trivial (ih hr')
  | case9 s out _ _ _ hflag value argv hnumber hrange ih =>
      obtain ⟨r', hr', -⟩ := map_eq_ok_iff.mp h
      obtain rfl : s = ⟨portFlag, noNul_portFlag⟩ := CString.ext_iff.mpr hflag
      have hgood := port_accepted_iff.mp ⟨(Bool.not_eq_false _).mp hnumber, hrange⟩
      exact exists_pieces_cons (.port value) hgood (ih hr')
  | case13 s out _ _ _ _ hflag value argv _ user huser ih =>
      obtain ⟨r', hr', -⟩ := map_eq_ok_iff.mp h
      obtain rfl : s = ⟨userFlag, noNul_userFlag⟩ := CString.ext_iff.mpr hflag
      have hgood : (Piece.user value).Good := by
        rw [Piece.Good, huser]
        exact Option.some_ne_none user
      exact exists_pieces_cons (.user value) hgood (ih hr')
  | case14 s argv out hhelp hversion hhost hport huser ih =>
      obtain ⟨r', hr', -⟩ := map_eq_ok_iff.mp h
      have hgood : (Piece.word s).Good := by
        simp [Piece.Good, hhelp, hversion, hhost, hport, huser]
      exact exists_pieces_cons (.word s) hgood (ih hr')
  | case2 | case3 | case4 | case6 | case7 | case8 | case10 | case11 | case12 => cases h

end Flags

/-! ### The command -/

section Commands

variable {argv operands : List CString} {option : CString} {flags : ClientFlags}
  {cells : List (Option CString)} {args : ParsedArgs}

theorem dropWhile_isNone_of_nil (h : cells.filterMap id = []) :
    cells.dropWhile Option.isNone = [] := by
  rw [List.dropWhile_eq_nil_iff]
  intro cell hcell
  rcases cell with _ | s
  · rfl
  · have hs : s ∈ cells.filterMap id := List.mem_filterMap.mpr ⟨some s, hcell, rfl⟩
    rw [h] at hs
    cases hs

theorem dropWhile_isNone_of_cons (h : cells.filterMap id = option :: operands) :
    ∃ rest, cells.dropWhile Option.isNone = some option :: rest ∧ rest.filterMap id = operands := by
  induction cells with
  | nil => cases h
  | cons cell cells ih =>
      rcases cell with _ | s
      · exact ih h
      · obtain ⟨rfl, rfl⟩ := List.cons.inj h
        exact ⟨cells, rfl, rfl⟩

theorem length_filter_isSome (cells : List (Option CString)) :
    (cells.filter Option.isSome).length = (cells.filterMap id).length := by
  induction cells with
  | nil => rfl
  | cons cell cells ih =>
      rcases cell with _ | s
      · exact ih
      · exact congrArg Nat.succ ih

/-- The second pass goes by the words only. -/
theorem takeCommand_ok_iff : takeCommand flags cells = .ok args ↔
    ∃ option operands nArgs, cells.filterMap id = option :: operands ∧
      needArgs option = some nArgs ∧ nArgs ≤ operands.length ∧
      args = withArguments flags option (operands.take nArgs) := by
  rcases hwords : cells.filterMap id with _ | ⟨option, operands⟩
  · rw [takeCommand, dropWhile_isNone_of_nil hwords]
    constructor
    · intro h
      cases h
    · rintro ⟨option, operands, nArgs, hcons, -⟩
      cases hcons
  · obtain ⟨rest, hdrop, hrest⟩ := dropWhile_isNone_of_cons hwords
    rw [takeCommand, hdrop]
    dsimp only
    rw [length_filter_isSome, hrest]
    constructor
    · intro h
      rcases hneeds : needArgs option with _ | nArgs
      · rw [hneeds] at h
        cases h
      · rw [hneeds] at h
        dsimp only at h
        split_ifs at h with hless
        exact ⟨option, operands, nArgs, rfl, hneeds, Nat.le_of_not_lt hless,
          (Except.ok.inj h).symm⟩
    · rintro ⟨option', operands', nArgs, hcons, hneeds, hle, rfl⟩
      obtain ⟨rfl, rfl⟩ := List.cons.inj hcons
      rw [hneeds]
      dsimp only
      rw [if_neg (Nat.not_lt.mpr hle)]

theorem filterMap_cells (pieces : List Piece) :
    (pieces.flatMap Piece.cells).filterMap id = pieces.filterMap Piece.word? := by
  induction pieces with
  | nil => rfl
  | cons p pieces ih =>
      rw [List.flatMap_cons, List.filterMap_append, ih]
      rcases p with s | s | s | s <;> rfl

/-- What is accepted is such a line. -/
theorem commandLine_of_accepted (h : parseClientArgs argv = .ok args) :
    ∃ pieces option operands nArgs, CommandLine argv pieces option operands nArgs ∧
      args = withArguments (pieces.foldl (fun flags p => p.set flags) defaultFlags) option
        (operands.take nArgs) := by
  rcases argv with _ | ⟨s, argv⟩
  · cases h
  · rw [parseClientArgs] at h
    rcases hflags : parseFlags (s :: argv) defaultFlags with fault | r
    · rw [hflags] at h
      cases h
    · rw [hflags] at h
      obtain ⟨pieces, hpieces, hgood⟩ := exists_pieces hflags
      rw [hpieces, parseFlags_pieces hgood (by decide)] at hflags
      obtain rfl := Except.ok.inj hflags
      obtain ⟨option, operands, nArgs, hwords, hknown, henough, rfl⟩ := takeCommand_ok_iff.mp h
      rw [filterMap_cells] at hwords
      exact ⟨pieces, option, operands, nArgs, ⟨hpieces, hgood, hwords, hknown, henough⟩, rfl⟩

/-- The arguments of the client are accepted exactly if they are flags with good
values, in any places, and a known command before as many operands as it needs.
The last value of a flag counts, and operands beyond those are ignored. -/
theorem parseClientArgs_ok_iff : parseClientArgs argv = .ok args ↔
    ∃ pieces option operands nArgs, CommandLine argv pieces option operands nArgs ∧
      args = withArguments (pieces.foldl (fun flags p => p.set flags) defaultFlags) option
        (operands.take nArgs) := by
  refine ⟨commandLine_of_accepted, ?_⟩
  rintro ⟨pieces, option, operands, nArgs, ⟨rfl, hgood, hwords, hknown, henough⟩, rfl⟩
  have hne : pieces.flatMap Piece.arguments ≠ [] := by
    rcases pieces with _ | ⟨p, pieces⟩
    · cases hwords
    · rw [List.flatMap_cons]
      rcases p with s | s | s | s <;> exact List.cons_ne_nil _ _
  have hparse : parseClientArgs (pieces.flatMap Piece.arguments) =
      (parseFlags (pieces.flatMap Piece.arguments) defaultFlags).bind
        fun r => takeCommand r.1 r.2 := by
    obtain ⟨s, argv, hcons⟩ := List.exists_cons_of_ne_nil hne
    rw [hcons]
    rfl
  rw [hparse, parseFlags_pieces hgood (by decide)]
  refine takeCommand_ok_iff.mpr ⟨option, operands, nArgs, ?_, hknown, henough, rfl⟩
  rw [filterMap_cells]
  exact hwords

end Commands

/-! ## What `main` does with it -/

/-- The requests of the client. -/
inductive Request
  | users
  | metrics
  | command (command : Command)

/-- The choice of `main`; it has no branch for any other option. -/
def ParsedArgs.request (args : ParsedArgs) : Option Request :=
  if args.option.bytes = usersOption then some .users
  else if args.option.bytes = addUserOption then some (.command .addUser)
  else if args.option.bytes = removeUserOption then some (.command .removeUser)
  else if args.option.bytes = changePasswordOption then some (.command .changePassword)
  else if args.option.bytes = changeRoleOption then some (.command .changeRole)
  else if args.option.bytes = metricsOption then some .metrics
  else none

/-- The pointers the request follows. -/
def Request.follows (args : ParsedArgs) : Request → List (Option CString)
  | users => []
  | metrics => []
  | command .addUser => [args.arg1, args.arg2, args.arg3]
  | command .removeUser => [args.arg1]
  | command .changePassword => [args.arg1, args.arg2]
  | command .changeRole => [args.arg1, args.arg2]

section Choice

variable {argv operands : List CString} {option : CString} {flags : ClientFlags} {args : ParsedArgs}
  {nArgs : ℕ}

/-- A known option has a branch, which follows as many pointers as
`need_args` says. -/
theorem request_of_known (h : needArgs option = some nArgs) (given : List CString) :
    ∃ request : Request, (withArguments flags option given).request = some request ∧
      request.follows (withArguments flags option given) =
        [given[0]?, given[1]?, given[2]?].take nArgs := by
  obtain ⟨bytes, hnul⟩ := option
  unfold needArgs at h
  dsimp only at h
  split_ifs at h with husers hmetrics hremove hrole hpassword hadd
  · obtain rfl := Option.some.inj h
    subst husers
    exact ⟨.users, rfl, rfl⟩
  · obtain rfl := Option.some.inj h
    subst hmetrics
    exact ⟨.metrics, rfl, rfl⟩
  · obtain rfl := Option.some.inj h
    subst hremove
    exact ⟨.command .removeUser, rfl, rfl⟩
  · obtain rfl := Option.some.inj h
    subst hrole
    exact ⟨.command .changeRole, rfl, rfl⟩
  · obtain rfl := Option.some.inj h
    subst hpassword
    exact ⟨.command .changePassword, rfl, rfl⟩
  · obtain rfl := Option.some.inj h
    subst hadd
    exact ⟨.command .addUser, rfl, rfl⟩

/-- The credentials of an accepted line are those of a `-u`. -/
theorem user_of_pieces {pieces : List Piece} {user : Users}
    (h : (pieces.foldl (fun flags p => p.set flags) flags).user = some user) :
    flags.user = some user ∨ ∃ usrPass, parsePassword usrPass = some user := by
  induction pieces generalizing flags with
  | nil => exact .inl h
  | cons p pieces ih =>
      rcases ih h with hset | hlater
      · rcases p with s | s | s | s
        · exact .inl hset
        · exact .inl hset
        · exact .inr ⟨s, hset⟩
        · exact .inl hset
      · exact .inr hlater

theorem user_of_accepted {user : Users} (h : parseClientArgs argv = .ok args)
    (huser : args.flags.user = some user) : ∃ usrPass, parsePassword usrPass = some user := by
  obtain ⟨pieces, option, operands, nArgs, -, rfl⟩ := commandLine_of_accepted h
  exact (user_of_pieces huser).resolve_left nofun

/-- Behind an accepted line `main` has a request to make, and no pointer that it
follows is null. -/
theorem accepted_follows_no_null (h : parseClientArgs argv = .ok args) :
    ∃ request : Request, args.request = some request ∧ none ∉ request.follows args := by
  obtain ⟨pieces, option, operands, nArgs, hline, rfl⟩ := commandLine_of_accepted h
  obtain ⟨request, hrequest, hfollows⟩ := request_of_known hline.known (operands.take nArgs)
  refine ⟨request, hrequest, ?_⟩
  rw [hfollows]
  have henough := hline.enough
  have hgiven : ∀ i < nArgs, none ≠ (operands.take nArgs)[i]? := by
    intro i hi
    rw [List.getElem?_eq_getElem (by rw [List.length_take]; omega)]
    exact (Option.some_ne_none _).symm
  intro hnone
  rcases nArgs with _ | _ | _ | nArgs
  · cases hnone
  · exact hgiven 0 (by omega) (List.mem_singleton.mp hnone)
  · rcases List.mem_cons.mp hnone with hfirst | hsecond
    · exact hgiven 0 (by omega) hfirst
    · exact hgiven 1 (by omega) (List.mem_singleton.mp hsecond)
  · have hall : [(operands.take (nArgs + 3))[0]?, (operands.take (nArgs + 3))[1]?,
        (operands.take (nArgs + 3))[2]?].take (nArgs + 3) = [(operands.take (nArgs + 3))[0]?,
        (operands.take (nArgs + 3))[1]?, (operands.take (nArgs + 3))[2]?] :=
      List.take_of_length_le (by simp)
    rw [hall] at hnone
    rcases List.mem_cons.mp hnone with hfirst | hnone
    · exact hgiven 0 (by omega) hfirst
    · rcases List.mem_cons.mp hnone with hsecond | hthird
      · exact hgiven 1 (by omega) hsecond
      · exact hgiven 2 (by omega) (List.mem_singleton.mp hthird)

end Choice

theorem noNul_removeUserOption : (0 : UInt8) ∉ removeUserOption := by decide

/-- `remove-user -u admin:secret admin`. -/
def removeUserLine : List CString :=
  [⟨removeUserOption, noNul_removeUserOption⟩, ⟨userFlag, noNul_userFlag⟩, adminArgument, adminName]

/-- What it sets. -/
def removeUserArgs : ParsedArgs :=
  withArguments { defaultFlags with user := parsePassword adminArgument }
    ⟨removeUserOption, noNul_removeUserOption⟩ [adminName]

theorem accepted_follows_no_null_removeUser :
    ∃ request : Request, removeUserArgs.request = some request ∧
      none ∉ request.follows removeUserArgs :=
  accepted_follows_no_null (show parseClientArgs removeUserLine = .ok removeUserArgs from rfl)

end Socks5Proxy.Client
