import Socks5Proxy.Socks.RequestDecoding
import Socks5Proxy.Socks.AuthDecoding
import Socks5Proxy.Socks.GreetingDecoding
import Socks5Proxy.Socks.Frame

/-!
# What a reader leaves unread

When a reader of the handshake asks for more bytes, the unread ones are not a
complete message; when it has decoded one, it asks to write.  The exception is
the length byte of a domain name, which REQUEST consumes before the name is
there.
-/

namespace Socks5Proxy

open Library.Memory

/-! ## Complete messages -/

def HoldsGreeting (g : GreetingSt) (bytes : List UInt8) : Prop :=
  match g.state with
  | .verNNmethods => ∃ n rest, bytes = socks5Version :: n :: rest ∧ n.toNat ≤ rest.length
  | .methods => g.nMethods.toNat ≤ bytes.length

/-- The password and what precedes it in the message, from the back. -/
def HoldsPlen (bytes : List UInt8) : Prop :=
  ∃ plen rest, bytes = plen :: rest ∧ plen.toNat ≤ rest.length

def HoldsUname (ulen : ℕ) (bytes : List UInt8) : Prop :=
  ulen ≤ bytes.length ∧ HoldsPlen (bytes.drop ulen)

def HoldsUlen (bytes : List UInt8) : Prop :=
  ∃ ulen rest, bytes = ulen :: rest ∧ HoldsUname ulen.toNat rest

/-- `bytes` starts with a complete message of AUTH. -/
def CompleteAuth (bytes : List UInt8) : Prop :=
  ∃ rest, bytes = authVersion :: rest ∧ HoldsUlen rest

def HoldsAuth (auth : AuthSt) (bytes : List UInt8) : Prop :=
  match auth.state with
  | .authVer => CompleteAuth bytes
  | .authUlen => HoldsUlen bytes
  | .authUname => HoldsUname auth.ulen.toNat bytes
  | .authPlen => HoldsPlen bytes
  | .authPasswd => auth.plen.toNat ≤ bytes.length

/-- `bytes` starts with the destination that follows ATYP. -/
def HoldsDestination (atyp : UInt8) (bytes : List UInt8) : Prop :=
  if atyp = fqdn then ∃ n rest, bytes = n :: rest ∧ n.toNat + 2 ≤ rest.length
  else (addrBytesByIpVersion atyp).toNat + 2 ≤ bytes.length

/-- `bytes` starts with a complete request. -/
def CompleteRequest (bytes : List UInt8) : Prop :=
  ∃ atyp rest, bytes = socks5Version :: connectCmd :: rsv :: atyp :: rest ∧
    isValidAtyp atyp = true ∧ HoldsDestination atyp rest

/-- In `DST_RES` the whole request has been decoded. -/
def HoldsRequest (r : RequestSt) (bytes : List UInt8) : Prop :=
  match r.state with
  | .verCmdAtyp => CompleteRequest bytes
  | .dstLen => HoldsDestination r.atyp bytes
  | .dstRes => False

/-- `client_buffer` holds a complete message for the state the connection is
in. -/
def HoldsMessage (s : Session) : Prop :=
  match s.state with
  | .greeting => HoldsGreeting s.arrived.conn.greeting s.conn.clientBuffer.content
  | .auth => HoldsAuth s.conn.auth s.conn.clientBuffer.content
  | .request => HoldsRequest s.conn.request s.conn.clientBuffer.content
  | _ => False

/-! ## GREETING -/

/-- `fd` is registered for writing only, if at all. -/
def OnlyWrites (s : Session) (fd : ℤ) : Prop := ∀ i, s.interestOf fd = some i → i = .opWrite

theorem onlyWrites_setInterest (s : Session) (fd : ℤ) :
    OnlyWrites (s.setInterest fd .opWrite) fd := fun _ hi =>
  eq_of_interestOf_selectorSetInterest hi

section Readers

variable {env : Env} {key : SelectorKey} {s : Session}

/-- A reader asks for more bytes with no complete message left, or it gives up. -/
def ReaderReturns (own : SocksV5State) (Holds : Session → Prop) (t : Session)
    (st : SocksV5State) : Prop :=
  (st = own ∧ ¬ Holds t) ∨ st = .error ∨ st = .done

def GreetingReturns : Session → SocksV5State → Prop :=
  ReaderReturns .greeting fun t => HoldsGreeting t.conn.greeting t.conn.clientBuffer.content

def AuthReturns : Session → SocksV5State → Prop :=
  ReaderReturns .auth fun t => HoldsAuth t.conn.auth t.conn.clientBuffer.content

theorem greetingVerNNmethods_stays (s : Session) :
    (greetingVerNNmethods s).All GreetingReturns
      (fun t => t.conn.greeting.state = .methods) := by
  unfold greetingVerNNmethods
  dsimp only
  split_ifs with hstate hshort hver hn
  · refine .inl ⟨rfl, fun hholds => ?_⟩
    simp only [HoldsGreeting, hstate] at hholds
    obtain ⟨n, rest, hbytes, -⟩ := hholds
    rw [bufferReadPtr_snd, hbytes, List.length_cons, List.length_cons] at hshort
    omega
  · exact .inr (.inl rfl)
  · exact .inr (.inl rfl)
  · rfl
  · rcases hmethods : s.conn.greeting.state with _ | _
    · exact absurd hmethods hstate
    · exact hmethods

theorem greetingMethods_stays (key : SelectorKey) (h : s.conn.greeting.state = .methods) :
    (greetingMethods key s).All GreetingReturns (fun t => OnlyWrites t key.fd) := by
  unfold greetingMethods
  rw [if_pos h]
  dsimp only
  split
  · next hshort =>
      refine .inl ⟨rfl, fun hholds => ?_⟩
      simp only [HoldsGreeting, h] at hholds
      rw [bufferReadPtr_snd] at hshort
      exact absurd hshort (Nat.not_lt.mpr hholds)
  · exact onlyWrites_setInterest _ _

theorem greetingRead_stays (env : Env) (key : SelectorKey) (s : Session) :
    GreetingReturns (greetingRead env key s).1 (greetingRead env key s).2 ∨
      ((greetingRead env key s).2 = .greeting ∧
        OnlyWrites (greetingRead env key s).1 key.fd) := by
  unfold greetingRead
  generalize s.recvClientBuffer key.fd env.recv = r
  obtain ⟨readn, u⟩ := r
  rcases readn with _ | got
  · exact .inl (.inr (.inl rfl))
  · have hblocks := (greetingVerNNmethods_stays u).andThen
      fun t ht => greetingMethods_stays key ht
    dsimp only
    split_ifs
    · exact .inl (.inr (.inr rfl))
    · generalize (greetingVerNNmethods u).andThen (greetingMethods key) = b at hblocks ⊢
      rcases b with ⟨t, st⟩ | t
      · exact .inl hblocks
      · exact .inr ⟨rfl, hblocks⟩

/-! ## AUTH -/

/-- A block of AUTH that asks for more bytes leaves an incomplete message; one
that falls through knows how much is left. -/
def AuthStays (P : AuthState → Prop) (b : SocksBlock (Session × ℕ)) : Prop :=
  b.All AuthReturns fun p =>
    p.2 = p.1.conn.clientBuffer.content.length ∧ P p.1.conn.auth.state

theorem authVer_stays (s : Session) :
    AuthStays (· ≠ .authVer) (authVer s s.conn.clientBuffer.content.length) := by
  unfold authVer
  dsimp only
  split_ifs with hstate hshort hver
  · refine .inl ⟨rfl, fun hholds => ?_⟩
    simp only [HoldsAuth, hstate] at hholds
    obtain ⟨rest, hbytes, -⟩ := hholds
    rw [hbytes, List.length_cons] at hshort
    omega
  · exact .inr (.inl rfl)
  · exact ⟨by simp, by simp⟩
  · exact ⟨rfl, hstate⟩

theorem authUlen_stays (s : Session) (h : s.conn.auth.state ≠ .authVer) :
    AuthStays (fun st => st ≠ .authVer ∧ st ≠ .authUlen)
      (authUlen s s.conn.clientBuffer.content.length) := by
  unfold authUlen
  dsimp only
  split_ifs with hstate hshort hzero
  · refine .inl ⟨rfl, fun hholds => ?_⟩
    simp only [HoldsAuth, hstate] at hholds
    obtain ⟨ulen, rest, hbytes, -⟩ := hholds
    rw [hbytes, List.length_cons] at hshort
    omega
  · exact .inr (.inl rfl)
  · exact ⟨by simp, by simp⟩
  · exact ⟨rfl, h, hstate⟩

theorem authUname_stays (s : Session)
    (h : s.conn.auth.state ≠ .authVer ∧ s.conn.auth.state ≠ .authUlen) :
    AuthStays (fun st => st = .authPlen ∨ st = .authPasswd)
      (authUname s s.conn.clientBuffer.content.length) := by
  unfold authUname
  dsimp only
  split_ifs with hstate hshort
  · refine .inl ⟨rfl, fun hholds => ?_⟩
    simp only [HoldsAuth, hstate] at hholds
    exact absurd hshort (Nat.not_lt.mpr hholds.1)
  · exact ⟨by simp [bufferReadN_snd_content], .inl rfl⟩
  · refine ⟨rfl, ?_⟩
    rcases hcase : s.conn.auth.state with _ | _ | _ | _ | _
    · exact absurd hcase h.1
    · exact absurd hcase h.2
    · exact absurd hcase hstate
    · exact .inl rfl
    · exact .inr rfl

theorem authPlen_stays (s : Session)
    (h : s.conn.auth.state = .authPlen ∨ s.conn.auth.state = .authPasswd) :
    AuthStays (· = .authPasswd) (authPlen s s.conn.clientBuffer.content.length) := by
  unfold authPlen
  dsimp only
  split_ifs with hstate hshort hzero
  · refine .inl ⟨rfl, fun hholds => ?_⟩
    simp only [HoldsAuth, hstate] at hholds
    obtain ⟨plen, rest, hbytes, -⟩ := hholds
    rw [hbytes, List.length_cons] at hshort
    omega
  · exact .inr (.inl rfl)
  · exact ⟨by simp, rfl⟩
  · exact ⟨rfl, h.resolve_left hstate⟩

theorem authPasswd_stays (env : Env) (key : SelectorKey) (s : Session)
    (h : s.conn.auth.state = .authPasswd) :
    (authPasswd env key s s.conn.clientBuffer.content.length).All AuthReturns
      (fun p => OnlyWrites p.1 key.fd) := by
  unfold authPasswd
  rw [if_pos h]
  dsimp only
  split
  · next hshort =>
      refine .inl ⟨rfl, fun hholds => ?_⟩
      simp only [HoldsAuth, h] at hholds
      exact absurd hshort (Nat.not_lt.mpr hholds)
  · exact onlyWrites_setInterest _ _

theorem authRead_stays (env : Env) (key : SelectorKey) (s : Session) :
    AuthReturns (authRead env key s).1 (authRead env key s).2 ∨
      ((authRead env key s).2 = .auth ∧ OnlyWrites (authRead env key s).1 key.fd) := by
  unfold authRead
  generalize s.recvClientBuffer key.fd env.recv = r
  obtain ⟨readn, u⟩ := r
  rcases readn with _ | got
  · exact .inl (.inr (.inl rfl))
  · have hver : AuthStays _ _ := authVer_stays u
    have hulen := Block.All.andThen hver fun p (hp : _ ∧ _) => by
      have hstays := authUlen_stays p.1 hp.2
      rw [← hp.1] at hstays
      exact hstays
    have huname := Block.All.andThen hulen fun p (hp : _ ∧ _) => by
      have hstays := authUname_stays p.1 hp.2
      rw [← hp.1] at hstays
      exact hstays
    have hplen := Block.All.andThen huname fun p (hp : _ ∧ _) => by
      have hstays := authPlen_stays p.1 hp.2
      rw [← hp.1] at hstays
      exact hstays
    have hpasswd := Block.All.andThen hplen fun p (hp : _ ∧ _) => by
      have hstays := authPasswd_stays env key p.1 hp.2
      rw [← hp.1] at hstays
      exact hstays
    dsimp only
    rw [bufferReadPtr_snd]
    split_ifs
    · exact .inl (.inr (.inr rfl))
    · generalize Block.andThen _ _ = b at hpasswd ⊢
      rcases b with ⟨t, st⟩ | p
      · exact .inl hpasswd
      · exact .inr ⟨rfl, hpasswd⟩

end Readers

end Socks5Proxy
