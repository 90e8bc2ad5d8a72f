import Socks5Proxy.Server.UserMap

/-!
# Credentials on a command line

The server and the management client both have an option `-u name:pass`.  The
server cuts the argument in place at its first colon.  The client copies it
into an array of 256 cells and takes the first two tokens between colons.
-/

namespace Socks5Proxy

/-- The separator. -/
def colon : UInt8 := 58

/-! ## The server -/

/-- `strchr`: the text in front of the first `c` and the text that begins with
it. -/
def strchr (s : List UInt8) (c : UInt8) : Option (List UInt8 × List UInt8) :=
  match s.dropWhile (· != c) with
  | [] => none
  | found => some (s.takeWhile (· != c), found)

/-- `struct users`. -/
structure Users where
  name : List UInt8
  pass : List UInt8
  deriving DecidableEq, Repr

/-- `user` of `args.c`; `none` is the exit of the process. -/
def Args.user (s : CString) : Option Users :=
  match strchr s.bytes colon with
  | none => none
  | some (front, p) =>
    -- the colon becomes the terminator of the name
    some { name := front, pass := p.drop 1 }

namespace Client

/-! ## The client -/

/-- `strtok` with the delimiter `":"`: the token and where the next call goes
on. -/
def strtok (s : List UInt8) : Option (List UInt8 × List UInt8) :=
  match s.dropWhile (· == colon) with
  | [] => none
  | token => some (token.takeWhile (· != colon), (token.dropWhile (· != colon)).drop 1)

/-- The array `buffer` of `parse_password`. -/
def passwordBuffer (usrPass : CString) : List UInt8 := (strncpy usrPass.bytes 256).set 255 0

def parsePassword (usrPass : CString) : Option Users :=
  match strtok (cString (passwordBuffer usrPass)) with
  | none => none
  | some (user, rest) =>
    match strtok rest with
    | none => none
    | some (password, _) => some { name := user, pass := password }

/-! ## Tokens -/

section Tokens

variable {name rest s token : List UInt8}

/-- The copy is cut after 255 bytes. -/
theorem cString_passwordBuffer (s : CString) :
    cString (passwordBuffer s) = s.bytes.take 255 := by
  have hlen : (strncpy s.bytes 256).length = 256 := by
    rw [strncpy, List.length_append, List.length_take, List.length_replicate]
    omega
  have hfront : (strncpy s.bytes 256).take 255 = strncpy (s.bytes.take 255) 255 := by
    rw [strncpy, strncpy, List.take_append, List.take_take, List.take_replicate, List.take_take,
      List.length_take, List.length_take]
    congr 2
    omega
  have hbuffer : passwordBuffer s = strncpy (s.bytes.take 255) 255 ++ 0 :: [] := by
    rw [passwordBuffer, List.set_eq_take_append_cons_drop, if_pos (by omega), hfront,
      List.drop_eq_nil_of_le (Nat.le_of_eq hlen)]
  have hnul : 0 ∉ s.bytes.take 255 := fun hmem => s.noNul (List.mem_of_mem_take hmem)
  rw [hbuffer, cString_strncpy hnul (List.length_take_le _ _)]

theorem forall_ne_colon (hname : colon ∉ name) : ∀ c ∈ name, (c != colon) = true := by
  intro c hc
  rw [bne_iff_ne]
  rintro rfl
  exact hname hc

theorem dropWhile_colon (hne : name ≠ []) (hname : colon ∉ name) (rest : List UInt8) :
    (name ++ rest).dropWhile (· == colon) = name ++ rest := by
  obtain ⟨c, name, rfl⟩ := List.exists_cons_of_ne_nil hne
  have hc := forall_ne_colon hname c List.mem_cons_self
  exact List.dropWhile_cons_of_neg (by simpa using hc)

/-- A token that a colon ends. -/
theorem strtok_append (hne : name ≠ []) (hname : colon ∉ name) (rest : List UInt8) :
    strtok (name ++ colon :: rest) = some (name, rest) := by
  have hskip := dropWhile_colon hne hname (colon :: rest)
  have hall := forall_ne_colon hname
  rw [strtok, hskip]
  rcases hname' : name ++ colon :: rest with _ | ⟨c, cs⟩
  · simp at hname'
  · simp only [← hname', List.takeWhile_append_of_pos hall, List.dropWhile_append_of_pos hall]
    simp

/-- A token that the end of the text ends. -/
theorem strtok_last (hne : name ≠ []) (hname : colon ∉ name) :
    strtok name = some (name, []) := by
  have hskip := dropWhile_colon hne hname []
  have hall := forall_ne_colon hname
  rw [List.append_nil] at hskip
  rw [strtok, hskip]
  rcases hname' : name with _ | ⟨c, cs⟩
  · exact absurd hname' hne
  · simp only [← hname', List.takeWhile_eq_self_iff.mpr hall, List.dropWhile_eq_nil_iff.mpr hall,
      List.drop_nil]

/-- A token has no colon, and is no longer than the text. -/
theorem strtok_token (h : strtok s = some (token, rest)) :
    colon ∉ token ∧ token.length ≤ s.length := by
  rw [strtok] at h
  split at h
  · cases h
  · rw [Option.some.injEq, Prod.mk.injEq] at h
    rw [← h.1]
    constructor
    · intro hmem
      have hbad := List.mem_takeWhile_imp hmem
      simp at hbad
    · exact Nat.le_trans (List.takeWhile_sublist _).length_le (List.dropWhile_sublist _).length_le

/-- A token is not empty, and what follows it is the rest of the text. -/
theorem strtok_lengths (h : strtok s = some (token, rest)) :
    token ≠ [] ∧ token.length + rest.length ≤ s.length := by
  rw [strtok] at h
  rcases hskip : s.dropWhile (· == colon) with _ | ⟨c, found⟩
  · rw [hskip] at h
    cases h
  · rw [hskip] at h
    obtain ⟨rfl, rfl⟩ := Prod.mk.inj (Option.some.inj h)
    have hc : (c != colon) = true := by
      have hhead := List.head_dropWhile_not (p := (· == colon)) (l := s) (by simp [hskip])
      simpa [hskip] using hhead
    have hsplit := congrArg List.length
      (List.takeWhile_append_dropWhile (p := (· != colon)) (l := c :: found))
    have hle := (List.dropWhile_sublist (· == colon) (l := s)).length_le
    rw [List.length_append] at hsplit
    rw [hskip] at hle
    constructor
    · rw [List.takeWhile_cons_of_pos (p := (· != colon)) hc]
      exact List.cons_ne_nil _ _
    · rw [List.length_drop]
      omega

/-- A name and a password leave room for each other in the array. -/
theorem parsePassword_lengths {arg : CString} {u : Users} (h : parsePassword arg = some u) :
    u.name ≠ [] ∧ u.pass ≠ [] ∧ u.name.length + u.pass.length ≤ 255 := by
  rw [parsePassword, cString_passwordBuffer] at h
  rcases hname : strtok (arg.bytes.take 255) with _ | ⟨name, rest⟩
  · rw [hname] at h
    cases h
  · rw [hname] at h
    dsimp only at h
    rcases hpass : strtok rest with _ | ⟨pass, rest'⟩
    · rw [hpass] at h
      cases h
    · rw [hpass] at h
      obtain rfl := Option.some.inj h
      obtain ⟨hne, hle⟩ := strtok_lengths hname
      obtain ⟨hne', hle'⟩ := strtok_lengths hpass
      have htake := List.length_take_le 255 arg.bytes
      exact ⟨hne, hne', by dsimp only; omega⟩

end Tokens

/-! ## Where they agree -/

section Agreement

variable {arg : CString} {u : Users}

/-- What the server has read is the argument around its first colon. -/
theorem bytes_of_user (h : Args.user arg = some u) :
    arg.bytes = u.name ++ colon :: u.pass ∧ colon ∉ u.name := by
  have hsplit := List.takeWhile_append_dropWhile (p := (· != colon)) (l := arg.bytes)
  rw [Args.user, strchr] at h
  rcases hfound : arg.bytes.dropWhile (· != colon) with _ | ⟨c, rest⟩
  · rw [hfound] at h
    cases h
  · rw [hfound] at h hsplit
    cases h
    have hc : c = colon := by
      have hhead := List.head_dropWhile_not (p := (· != colon)) (l := arg.bytes) (by simp [hfound])
      simpa [hfound] using hhead
    refine ⟨?_, ?_⟩
    · rw [hc] at hsplit
      exact hsplit.symm
    · intro hmem
      have hbad := List.mem_takeWhile_imp hmem
      simp at hbad

/-- What the client makes of an argument once the name has been found. -/
theorem parsePassword_of_name {rest : List UInt8}
    (h : strtok (arg.bytes.take 255) = some (u.name, rest)) :
    parsePassword arg = some u ↔ ∃ rest', strtok rest = some (u.pass, rest') := by
  rw [parsePassword, cString_passwordBuffer, h]
  dsimp only
  rcases strtok rest with _ | ⟨password, rest'⟩
  · simp
  · simp only [Option.some.injEq, Prod.mk.injEq, exists_and_left, exists_eq', and_true]
    exact ⟨fun heq => congrArg Users.pass heq, fun heq => by rw [heq]⟩

/-- A name that leaves no room behind the colon. -/
theorem parsePassword_of_long {name pass : List UInt8} (hbytes : arg.bytes = name ++ colon :: pass)
    (hne : name ≠ []) (hcolon : colon ∉ name) (hlong : 254 ≤ name.length) :
    parsePassword arg = none := by
  rw [parsePassword, cString_passwordBuffer, hbytes]
  rcases Nat.lt_or_ge name.length 255 with hlt | hge
  · have htake : (name ++ colon :: pass).take 255 = name ++ colon :: [] := by
      rw [List.take_append, List.take_of_length_le (by omega),
        show 255 - name.length = 1 by omega]
      rfl
    rw [htake, strtok_append hne hcolon]
    rfl
  · have htake : (name ++ colon :: pass).take 255 = name.take 255 := by
      rw [List.take_append, show 255 - name.length = 0 by omega, List.take_zero, List.append_nil]
    have hne' : name.take 255 ≠ [] := by
      intro hnil
      rcases List.take_eq_nil_iff.mp hnil with hzero | hnil
      · cases hzero
      · exact hne hnil
    rw [htake, strtok_last hne' fun hmem => hcolon (List.mem_of_mem_take hmem)]
    rfl

/-- An argument with a name and a password gives the client what it gives the
server exactly if it fits the client's array and the password has no colon. -/
theorem credentials_agree_iff (h : Args.user arg = some u) (hname : u.name ≠ [])
    (hpass : u.pass ≠ []) :
    parsePassword arg = some u ↔ arg.bytes.length ≤ 255 ∧ colon ∉ u.pass := by
  obtain ⟨hbytes, hcolon⟩ := bytes_of_user h
  have hlength : arg.bytes.length = u.name.length + (u.pass.length + 1) := by
    rw [hbytes, List.length_append, List.length_cons]
  have hpos : 0 < u.pass.length := List.length_pos_of_ne_nil hpass
  rcases Nat.lt_or_ge u.name.length 254 with hshort | hlong
  · have htake : arg.bytes.take 255 =
        u.name ++ colon :: u.pass.take (254 - u.name.length) := by
      rw [hbytes, List.take_append, List.take_of_length_le (by omega),
        show 255 - u.name.length = (254 - u.name.length) + 1 by omega, List.take_succ_cons]
    rw [parsePassword_of_name (htake ▸ strtok_append hname hcolon _)]
    constructor
    · rintro ⟨rest', hstrtok⟩
      obtain ⟨hfree, hle⟩ := strtok_token hstrtok
      rw [List.length_take] at hle
      exact ⟨by omega, hfree⟩
    · rintro ⟨hfits, hfree⟩
      rw [List.take_of_length_le (by omega)]
      exact ⟨[], strtok_last hpass hfree⟩
  · rw [parsePassword_of_long hbytes hname hcolon hlong]
    refine iff_of_false (Option.some_ne_none u).symm fun hboth => ?_
    have hfits := hboth.1
    omega

/-- `admin:secret` -/
def adminArgument : CString :=
  ⟨[97, 100, 109, 105, 110, 58, 115, 101, 99, 114, 101, 116], by decide⟩

theorem credentials_agree_admin :
    parsePassword adminArgument = some ⟨[97, 100, 109, 105, 110], [115, 101, 99, 114, 101, 116]⟩ ↔
      adminArgument.bytes.length ≤ 255 ∧ colon ∉ ([115, 101, 99, 114, 101, 116] : List UInt8) :=
  credentials_agree_iff rfl (List.cons_ne_nil _ _) (List.cons_ne_nil _ _)

/-- `a:b:c` -/
def colonArgument : CString := ⟨[97, 58, 98, 58, 99], by decide⟩

/-- The server has the password `b:c`, the client sends `b`. -/
theorem credentials_differ :
    Args.user colonArgument = some ⟨[97], [98, 58, 99]⟩ ∧
      parsePassword colonArgument = some ⟨[97], [98]⟩ := by
  decide

end Agreement

end Client

end Socks5Proxy
