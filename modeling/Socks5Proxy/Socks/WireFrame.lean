import Socks5Proxy.Socks.Decisions
import Socks5Proxy.Socks.GreetingDecoding
import Socks5Proxy.Socks.AuthDecoding
import Socks5Proxy.Socks.CopyStreams

/-!
# Callbacks that only change interests

The callbacks of GREETING, AUTH and COPY and the arrivals register nothing and
unregister nothing: they change interests and move bytes.
-/

namespace Socks5Proxy

open Library

/-- From `s` to `t` interests were changed and bytes were moved. -/
structure WireFrame (s t : Session) : Prop where
  sets : SetsInterests s.sel t.sel
  originFd : t.conn.originFd = s.conn.originFd
  resolution : t.conn.resolution = s.conn.resolution
  resolvers : t.resolvers = s.resolvers
  calls : ∃ log, t.log = s.log ++ log ∧ ∀ action ∈ log, action.Plain

section Basic

variable {s t u : Session} {fd : ℤ}

theorem WireFrame.of_same (hsel : t.sel = s.sel) (horigin : t.conn.originFd = s.conn.originFd)
    (hresolution : t.conn.resolution = s.conn.resolution)
    (hresolvers : t.resolvers = s.resolvers) (hlog : t.log = s.log) : WireFrame s t :=
  ⟨hsel ▸ .refl, horigin, hresolution, hresolvers, [], by rw [hlog, List.append_nil], nofun⟩

theorem WireFrame.refl (s : Session) : WireFrame s s := .of_same rfl rfl rfl rfl rfl

theorem WireFrame.trans (h : WireFrame s t) (h' : WireFrame t u) : WireFrame s u where
  sets := h.sets.trans h'.sets
  originFd := h'.originFd.trans h.originFd
  resolution := h'.resolution.trans h.resolution
  resolvers := h'.resolvers.trans h.resolvers
  calls := by
    obtain ⟨log, hlog, hplain⟩ := h.calls
    obtain ⟨log', hlog', hplain'⟩ := h'.calls
    refine ⟨log ++ log', by rw [hlog', hlog, List.append_assoc], ?_⟩
    intro action haction
    rcases List.mem_append.mp haction with hmem | hmem
    · exact hplain action hmem
    · exact hplain' action hmem

theorem WireFrame.act (action : Action) (h : action.Plain) : WireFrame s (s.act action) := by
  refine ⟨.refl, rfl, rfl, rfl, [action], rfl, ?_⟩
  intro a ha
  rw [List.mem_singleton.mp ha]
  exact h

theorem WireFrame.conn_act {c : Socks5} (action : Action) (h : action.Plain)
    (hc : c.originFd = s.conn.originFd) (hresolution : c.resolution = s.conn.resolution) :
    WireFrame s ({ s with conn := c }.act action) :=
  WireFrame.trans (t := { s with conn := c }) (.of_same rfl hc hresolution rfl rfl)
    (.act action h)

theorem WireFrame.setInterest (fd : ℤ) (i : FdInterest) : WireFrame s (s.setInterest fd i) :=
  ⟨.step .refl fd i, rfl, rfl, rfl, [], (List.append_nil _).symm, nofun⟩

theorem WireFrame.recvClientBuffer (fd : ℤ) (answer : Option (List UInt8)) :
    WireFrame s (s.recvClientBuffer fd answer).2 := by
  have hframe := DecodeFrame.recvClientBuffer (s := s) fd answer
  have hresolution : (s.recvClientBuffer fd answer).2.conn.resolution = s.conn.resolution := by
    obtain ⟨b, -, hsnd⟩ := recvClientBuffer_snd s fd answer
    rw [hsnd]
    rfl
  exact ⟨hframe.sel ▸ .refl, hframe.originFd, hresolution,
    resolvers_recvClientBuffer fd answer, hframe.calls⟩

theorem WireFrame.sendOriginBuffer (fd : ℤ) (answer : Option ℕ) :
    WireFrame s (s.sendOriginBuffer fd answer).2 := by
  rcases answer with _ | k
  · exact .act _ (by trivial)
  · obtain ⟨b, -, hsend⟩ := sendOriginBuffer_some s fd k
    rw [hsend]
    exact .conn_act (.send fd _) trivial rfl rfl

theorem WireFrame.metrics (m : MetricSnapshot) : WireFrame s { s with metrics := m } :=
  .of_same rfl rfl rfl rfl rfl

end Basic

section Handshake

variable {s : Session} {env : Env} {key : SelectorKey}

theorem greetingVerNNmethods_wire :
    (greetingVerNNmethods s).All (fun t _ => WireFrame s t) (WireFrame s) := by
  unfold greetingVerNNmethods
  dsimp only
  repeat' split
  all_goals exact .of_same rfl rfl rfl rfl rfl

theorem greetingMethods_wire (key : SelectorKey) (s : Session) :
    (greetingMethods key s).All (fun t _ => WireFrame s t) (WireFrame s) := by
  unfold greetingMethods
  dsimp only
  split
  · split
    · exact .refl s
    · refine WireFrame.trans ?_ (.setInterest _ _)
      exact .of_same rfl rfl rfl rfl rfl
  · exact .refl s

theorem greetingRead_wire (env : Env) (key : SelectorKey) (s : Session) :
    WireFrame s (greetingRead env key s).1 := by
  have hrecv := WireFrame.recvClientBuffer (s := s) key.fd env.recv
  unfold greetingRead
  generalize s.recvClientBuffer key.fd env.recv = r at hrecv ⊢
  obtain ⟨readn, u⟩ := r
  have hblocks := (greetingVerNNmethods_wire (s := u)).andThen fun t ht =>
    (greetingMethods_wire key t).mono (fun _ _ h => ht.trans h)
      fun _ h => ht.trans h
  rcases readn with _ | got
  · exact hrecv
  · dsimp only
    split_ifs
    · exact hrecv
    · generalize (greetingVerNNmethods u).andThen (greetingMethods key) = b at hblocks ⊢
      rcases b with ⟨t, st⟩ | t <;> exact hrecv.trans hblocks

theorem greetingWrite_wire : WireFrame s (greetingWrite env key s).1 := by
  have hcases := greetingWrite_cases env key s
  generalize (greetingWrite env key s).1 = t at hcases ⊢
  generalize (greetingWrite env key s).2 = st at hcases
  rcases hcases with _ | ⟨-, -⟩ | ⟨-, -, -⟩ | ⟨-, -, -⟩
  · exact .act _ (by trivial)
  · exact .conn_act (.send _ _) trivial rfl rfl
  · exact WireFrame.trans (by exact .conn_act (.send _ _) trivial rfl rfl) (.setInterest _ _)
  · exact WireFrame.trans (by exact .conn_act (.send _ _) trivial rfl rfl) (.setInterest _ _)

theorem authWrite_wire : WireFrame s (authWrite env key s).1 := by
  have hcases := authWrite_cases env key s
  generalize (authWrite env key s).1 = t at hcases ⊢
  generalize (authWrite env key s).2 = st at hcases
  rcases hcases with _ | ⟨-, -⟩ | ⟨-, -, -⟩ | ⟨-, -, -⟩
  · exact .act _ (by trivial)
  · exact .conn_act (.send _ _) trivial rfl rfl
  · exact .conn_act (.send _ _) trivial rfl rfl
  · exact WireFrame.trans (by exact .conn_act (.send _ _) trivial rfl rfl) (.setInterest _ _)

/-- A block of `auth_read`. -/
def BlockWire (s : Session) (b : SocksBlock (Session × ℕ)) : Prop :=
  b.All (fun t _ => WireFrame s t) fun p => WireFrame s p.1

theorem authVer_wire (toRead : ℕ) : BlockWire s (authVer s toRead) := by
  unfold BlockWire authVer
  dsimp only
  repeat' split
  all_goals exact .of_same rfl rfl rfl rfl rfl

theorem authUlen_wire (toRead : ℕ) : BlockWire s (authUlen s toRead) := by
  unfold BlockWire authUlen
  dsimp only
  repeat' split
  all_goals exact .of_same rfl rfl rfl rfl rfl

theorem authUname_wire (toRead : ℕ) : BlockWire s (authUname s toRead) := by
  unfold BlockWire authUname
  dsimp only
  repeat' split
  all_goals exact .of_same rfl rfl rfl rfl rfl

theorem authPlen_wire (toRead : ℕ) : BlockWire s (authPlen s toRead) := by
  unfold BlockWire authPlen
  dsimp only
  repeat' split
  all_goals exact .of_same rfl rfl rfl rfl rfl

theorem checkCredentials_wire : WireFrame s (checkCredentials env s) := by
  unfold checkCredentials
  dsimp only
  split
  · exact .act _ (by trivial)
  · exact .act _ (by trivial)
  · exact WireFrame.trans (.act _ (by trivial)) (.of_same rfl rfl rfl rfl rfl)

theorem writeOriginBuffer_wire {bytes : List UInt8} : WireFrame s (s.writeOriginBuffer bytes) :=
  .of_same rfl rfl rfl rfl rfl

theorem authPasswd_wire (env : Env) (key : SelectorKey) (toRead : ℕ) :
    BlockWire s (authPasswd env key s toRead) := by
  unfold BlockWire authPasswd
  dsimp only
  split
  · split
    · exact .refl s
    · refine WireFrame.trans ?_ (.setInterest _ _)
      refine WireFrame.trans ?_ writeOriginBuffer_wire
      refine WireFrame.trans ?_ checkCredentials_wire
      exact .of_same rfl rfl rfl rfl rfl
  · exact .refl s

theorem BlockWire.andThen {b : SocksBlock (Session × ℕ)}
    {f : Session × ℕ → SocksBlock (Session × ℕ)} (hb : BlockWire s b)
    (hf : ∀ p, BlockWire p.1 (f p)) : BlockWire s (b.andThen f) := by
  refine Block.All.andThen hb ?_
  intro p hp
  exact Block.All.mono (hf p) (fun t _ ht => hp.trans ht) fun q hq => hp.trans hq

theorem authRead_wire (env : Env) (key : SelectorKey) (s : Session) :
    WireFrame s (authRead env key s).1 := by
  have hrecv := WireFrame.recvClientBuffer (s := s) key.fd env.recv
  unfold authRead
  generalize s.recvClientBuffer key.fd env.recv = r at hrecv ⊢
  obtain ⟨readn, u⟩ := r
  rcases readn with _ | got
  · exact hrecv
  · have hblocks := fun toRead => ((((authVer_wire (s := u) toRead).andThen
      fun p => authUlen_wire p.2).andThen fun p => authUname_wire p.2).andThen
      fun p => authPlen_wire p.2).andThen fun p => authPasswd_wire env key p.2
    specialize hblocks (bufferReadPtr u.conn.clientBuffer).2
    dsimp only
    split_ifs
    · exact hrecv
    · generalize Block.andThen _ _ = b at hblocks ⊢
      rcases b with ⟨t, st⟩ | p <;> exact hrecv.trans hblocks

end Handshake

section Copy

variable {s t u : Session} {env : Env} {key : SelectorKey} {x : Side}

theorem setBuffer_wire {b : Buffer} : WireFrame s (s.setBuffer x b) := by
  rcases x <;> exact .of_same rfl rfl rfl rfl rfl

theorem setCopyInterests_wire {i : FdInterest} : WireFrame s (s.setCopyInterests x i) := by
  rcases x <;> exact .of_same rfl rfl rfl rfl rfl

/-- Another selector that `selector_set_interest` leads to. -/
theorem WireFrame.of_sets {sel : FdSelector FdHandler ℕ} (h : SetsInterests s.sel sel) :
    WireFrame s { s with sel := sel } :=
  ⟨h, rfl, rfl, rfl, [], (List.append_nil _).symm, nofun⟩

theorem afterTransfer_wire (a b : Side) : WireFrame s (afterTransfer s a b).1 := by
  unfold afterTransfer
  rcases hupdate : updateTargetInterests s a with _ | u
  · dsimp only
    unfold updateTargetInterestsFailed
    dsimp only
    split
    · next sel hsel =>
        have hfst := congrArg Prod.fst hsel
        dsimp only at hfst
        rw [← hfst]
        exact .of_sets ((SetsInterests.refl.step _ _).step _ _)
    · next sel status _ hsel =>
        have hfst := congrArg Prod.fst hsel
        dsimp only at hfst
        rw [← hfst]
        exact .of_sets (SetsInterests.refl.step _ _)
  · dsimp only
    rw [copyResult_fst]
    unfold updateTargetInterests at hupdate
    dsimp only at hupdate
    split at hupdate
    · next sel hsel =>
        split at hupdate
        · next sel' hsel' =>
            have hfst := congrArg Prod.fst hsel
            have hfst' := congrArg Prod.fst hsel'
            dsimp only at hfst hfst'
            have hsets : WireFrame s { s with sel := sel' } := by
              rw [← hfst', ← hfst]
              exact .of_sets ((SetsInterests.refl.step _ _).step _ _)
            rw [← Option.some.inj hupdate]
            exact (hsets.trans setCopyInterests_wire).trans setCopyInterests_wire
        · cases hupdate
    · cases hupdate

theorem shutRead_wire : WireFrame s (shutRead s x) :=
  (WireFrame.trans (.act _ (by trivial)) setCopyInterests_wire).trans (.setInterest _ _)

theorem shutWrite_wire : WireFrame s (shutWrite s x) :=
  (WireFrame.trans (.act _ (by trivial)) setCopyInterests_wire).trans (.setInterest _ _)

theorem socksv5CopyRead_wire : WireFrame s (socksv5CopyRead env key s).1 := by
  unfold socksv5CopyRead
  dsimp only
  split
  · exact .refl s
  · split
    · refine WireFrame.trans ?_ (afterTransfer_wire _ _)
      refine WireFrame.trans ?_ (.metrics _)
      exact setBuffer_wire.trans (.act _ (by trivial))
    · rw [copyResult_fst]
      exact (WireFrame.act _ (by trivial)).trans (shutRead_wire.trans shutWrite_wire)
    · rw [copyResult_fst]
      exact (WireFrame.act _ (by trivial)).trans (shutRead_wire.trans shutWrite_wire)

theorem socksv5CopyWrite_wire : WireFrame s (socksv5CopyWrite env key s).1 := by
  unfold socksv5CopyWrite
  dsimp only
  split
  · exact .refl s
  · split
    · refine WireFrame.trans ?_ (afterTransfer_wire _ _)
      refine WireFrame.trans ?_ (.metrics _)
      exact setBuffer_wire.trans (.act _ (by trivial))
    · rw [copyResult_fst]
      exact (WireFrame.act _ (by trivial)).trans (shutWrite_wire.trans shutRead_wire)
    · rw [copyResult_fst]
      exact (WireFrame.act _ (by trivial)).trans (shutWrite_wire.trans shutRead_wire)

theorem socksv5CopyArrival_wire : WireFrame s (socksv5CopyArrival s) := by
  unfold socksv5CopyArrival
  refine WireFrame.trans ?_ (.setInterest _ _)
  refine WireFrame.trans ?_ (.setInterest _ _)
  exact .of_same rfl rfl rfl rfl rfl

/-- COPY goes on or ends. -/
def CopyEnds (st : SocksV5State) : Prop := st = .copy ∨ st = .error ∨ st = .done

theorem copyResult_ends (s : Session) (a b : Side) : CopyEnds (copyResult s a b).2 := by
  unfold copyResult
  split
  · exact .inr (.inr rfl)
  · exact .inl rfl

theorem afterTransfer_ends (s : Session) (a b : Side) : CopyEnds (afterTransfer s a b).2 := by
  unfold afterTransfer
  split
  · exact .inr (.inl rfl)
  · exact copyResult_ends _ _ _

theorem socksv5CopyRead_ends (env : Env) (key : SelectorKey) (s : Session) :
    CopyEnds (socksv5CopyRead env key s).2 := by
  unfold socksv5CopyRead
  dsimp only
  split
  · exact .inl rfl
  · split
    · exact afterTransfer_ends _ _ _
    · exact copyResult_ends _ _ _
    · exact copyResult_ends _ _ _

theorem socksv5CopyWrite_ends (env : Env) (key : SelectorKey) (s : Session) :
    CopyEnds (socksv5CopyWrite env key s).2 := by
  unfold socksv5CopyWrite
  dsimp only
  split
  · exact .inl rfl
  · split
    · exact afterTransfer_ends _ _ _
    · exact copyResult_ends _ _ _
    · exact copyResult_ends _ _ _

end Copy

end Socks5Proxy
