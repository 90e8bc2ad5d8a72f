import Socks5Proxy.Client.Agreement
import Socks5Proxy.Client.Arguments
import Socks5Proxy.Client.Response
import Socks5Proxy.Pam.Exchange
import Socks5Proxy.Pam.TruncatedBodies

/-!
# What a reported success stands for

`main` of the client sends the credentials and reads two bytes of answer, sends
a command and reads the response.  It looks at one byte of each.  However the
network cuts what goes either way, a success that the client reports is that of
a call which the server has made for it.
-/

namespace Socks5Proxy.Client

open Library Library.Stream Library.Memory

theorem noNul_empty : (0 : UInt8) ∉ [] := List.not_mem_nil

/-- The arguments that a command follows; a null one has no text. -/
def ParsedArgs.commandArgs (args : ParsedArgs) : ClientArgs where
  arg1 := args.arg1.getD ⟨[], noNul_empty⟩
  arg2 := args.arg2.getD ⟨[], noNul_empty⟩
  arg3 := args.arg3.getD ⟨[], noNul_empty⟩

/-- What `main` sends behind the credentials, when it is a command on users. -/
def ParsedArgs.sent (args : ParsedArgs) : Option UserRequest :=
  match args.request with
  | some (.command command) => some (command.sent args.commandArgs)
  | _ => none

/-- What `main` reads: the answer to the credentials, and then the response of
the command.  The cells of `authResp` that `recv` has not reached keep what the
stack held. -/
def mainReads (alloc allocBody : Bool) (authStack stack : ℕ → UInt8)
    (segments : List (List UInt8)) : Option ServerResponse :=
  let (received, segments) := receive 2 segments
  let authResp := store authStack 0 received
  if authResp 1 = 0x00 then
    receiveResponse alloc allocBody stack segments
  else
    none

/-- The event hands the command over and carries it out: the credentials have
been accepted, the call that the handler finds is made for an administrator of
this name, and it returns `USER_OK`.  The handler has read zeros for what had
not arrived of the body. -/
structure CarriesOut (c : Credentials) (request : UserRequest) (u : PamSession) (e : PamEvent)
    (v : PamSession) : Prop where
  accepted : .authenticate (cString c.username) (cString c.password) .ok ∈ u.log
  requester : u.requester.bytes = cString c.username
  applied : ∃ fd env rest buffer op,
    e = .read fd env ∧
      env.recv = some (requestHeader request.method (UInt16.ofNat request.body.length) ++ rest) ∧
      rest <+: request.body ∧
      buffer.content = rest ++ List.replicate (request.body.length - rest.length) 0 ∧
      requestOp env request.method buffer = some op ∧
      AdminCall u.requester op u.users v.users ∧ (op.apply u.users).2 = .ok

/-! ## The bytes of a success -/

section Reads

variable {alloc allocBody : Bool} {authStack stack : ℕ → UInt8} {segments : List (List UInt8)}
  {response : ServerResponse} {delivered : List UInt8}

/-- The status is the second byte that is left. -/
theorem receiveResponse_success (h : receiveResponse alloc allocBody stack segments = some response)
    (hsuccess : response.status = 0x00) : ∃ ver rest, segments.flatten = ver :: 0x00 :: rest := by
  have hflatten := receive_append_flatten 4 segments
  rcases hfirst : receive 4 segments with ⟨received, left⟩
  rw [hfirst] at hflatten
  unfold receiveResponse at h
  rw [hfirst] at h
  rcases received with _ | ⟨ver, _ | ⟨status, received⟩⟩
  · simp at h
  · simp at h
  · have hfound : store stack 0 (ver :: status :: received) 1 = status := rfl
    have hstatus : response.status = status := by
      dsimp only at h
      rw [hfound] at h
      split_ifs at h <;> rw [← Option.some.inj h]
    rw [← hflatten, ← hstatus, hsuccess]
    exact ⟨ver, received ++ left.flatten, rfl⟩

/-- A success has two bytes of value zero: one at its place behind the answer to
the credentials, or one place before. -/
theorem mainReads_success (cut : Cut delivered)
    (h : mainReads alloc allocBody authStack stack cut.segments = some response)
    (hsuccess : response.status = 0x00) :
    (∃ first ver rest, delivered = first :: 0x00 :: ver :: 0x00 :: rest) ∨
      ∃ first second rest, delivered = first :: second :: 0x00 :: rest := by
  have hflatten := receive_append_flatten 2 cut.segments
  have hlen := length_receive_le 2 cut.segments
  have hempty : (receive 2 cut.segments).1 = [] → cut.segments = [] := by
    intro hnil
    rcases hsegments : cut.segments with _ | ⟨segment, segments⟩
    · rfl
    · rw [hsegments, receive_cons_fst] at hnil
      have hne := cut.nonempty segment (hsegments ▸ List.mem_cons_self)
      rcases List.take_eq_nil_iff.mp hnil with hzero | hsegment
      · cases hzero
      · exact absurd hsegment hne
  rw [cut.flatten] at hflatten
  unfold mainReads at h
  rcases hfirst : receive 2 cut.segments with ⟨received, left⟩
  rw [hfirst] at hflatten hlen hempty h
  dsimp only at hflatten hlen hempty h
  split_ifs at h with hauth
  obtain ⟨ver, rest, hleft⟩ := receiveResponse_success h hsuccess
  rw [hleft] at hflatten
  match received with
  | [] =>
    rw [hempty rfl] at hfirst
    obtain rfl : left = [] := (congrArg Prod.snd hfirst).symm
    cases hleft
  | [first] => exact .inr ⟨first, ver, rest, hflatten.symm⟩
  | [first, second] =>
    have hsecond : store authStack 0 [first, second] 1 = second := rfl
    rw [hsecond] at hauth
    rw [hauth] at hflatten
    exact .inl ⟨first, ver, rest, hflatten.symm⟩
  | _ :: _ :: _ :: _ =>
    simp only [List.length_cons] at hlen
    omega

end Reads

/-! ## The call behind a success -/

section Handlers

variable {env : PamEnv} {s t : PamSession} {buffer : Buffer} {op : UserOp}

/-- `handle_remove_user` succeeds by a call for an administrator. -/
theorem removeUser_success (hmethod : s.conn.request.method = pamRequestMethodRemoveUser)
    (hadmin : userIsAdmin s.users s.requester.bytes = true)
    (h : handlePamRequestMethod env s buffer = .ok t)
    (hsuccess : t.conn.request.status = pamRequestSuccess) :
    AdminCall s.requester (.remove (stringAt buffer)) s.users t.users ∧
      ((UserOp.remove (stringAt buffer)).apply s.users).2 = .ok := by
  have hguard := (userIsAdmin_handling s buffer).trans hadmin
  rw [dispatch_removeUser_fits (fits_of_handled h) hmethod, requestRemoveUser_eq hguard] at h
  generalize hu : (s.handling buffer).setStatus pamRequestSuccess = u at h
  have hrequester : u.requester = s.requester := by
    rw [← hu]
    exact requester_congr rfl
  have hstore : u.users = s.users := by rw [← hu]; rfl
  have hdenied : Except.ok (u.setStatus pamRequestUnauthorized) ≠ Except.ok (ε := Fault) t := by
    intro hdenied
    rw [← Except.ok.inj hdenied] at hsuccess
    change pamRequestUnauthorized = pamRequestSuccess at hsuccess
    exact absurd hsuccess (by decide)
  have hbehind : Except.ok (removeOther (stringAt buffer).bytes u) = Except.ok (ε := Fault) t →
      AdminCall s.requester (.remove (stringAt buffer)) s.users t.users ∧
        ((UserOp.remove (stringAt buffer)).apply s.users).2 = .ok := by
    intro hother
    rw [removeOther_eq, hrequester, hstore] at hother
    split_ifs at hother with hsame
    · exact absurd hother hdenied
    · obtain rfl := Except.ok.inj hother
      refine ⟨⟨hadmin, ?_, rfl⟩, ?_⟩
      · intro n hn
        obtain rfl := UserOp.remove.inj hn
        exact hsame
      · exact (UserOp.wireStatus_eq_success_iff (.remove (stringAt buffer)) _).mp hsuccess
  split_ifs at h
  · rcases hfind : userGetIfExists (s.handling buffer).users (stringAt buffer).bytes with _ | user
    · rw [hfind] at h
      cases h
    · rw [hfind] at h
      dsimp only at h
      split_ifs at h
      · exact absurd h hdenied
      · exact hbehind h
  · exact hbehind h

/-- A request that is answered with success is a call for an administrator, and
the store has accepted it. -/
theorem handle_success (hop : requestOp env s.conn.request.method buffer = some op)
    (h : handlePamRequestMethod env s buffer = .ok t)
    (hsuccess : t.conn.request.status = pamRequestSuccess) :
    AdminCall s.requester op s.users t.users ∧ (op.apply s.users).2 = .ok := by
  rcases hadmin : userIsAdmin s.users s.requester.bytes with _ | _
  · obtain ⟨t', ht', -, hstatus⟩ := handle_unauthorized hop (fits_of_handled h) hadmin
    obtain rfl := Except.ok.inj (h.symm.trans ht')
    rw [hstatus] at hsuccess
    exact absurd hsuccess (by decide)
  · by_cases hmethod : s.conn.request.method = pamRequestMethodRemoveUser
    · rw [hmethod] at hop
      obtain rfl : UserOp.remove (stringAt buffer) = op := Option.some.inj hop
      exact removeUser_success hmethod hadmin h hsuccess
    · obtain ⟨t', ht', husers, hstatus⟩ := handle_admin hop (fits_of_handled h) hadmin hmethod
      obtain rfl := Except.ok.inj (h.symm.trans ht')
      rw [hstatus, UserOp.wireStatus_eq_success_iff] at hsuccess
      refine ⟨⟨hadmin, ?_, husers⟩, hsuccess⟩
      rintro n rfl
      unfold requestOp at hop
      dsimp only at hop
      split_ifs at hop
      · cases hop
      · cases hop
      · cases hop

/-- The handler finds a call in every body of a request on users. -/
theorem exists_requestOp (request : UserRequest) (env : PamEnv) (buffer : Buffer) :
    ∃ op, requestOp env request.method buffer = some op := by
  rcases request with _ | _ | _ | _
  · exact ⟨_, rfl⟩
  · exact ⟨_, rfl⟩
  · exact ⟨_, rfl⟩
  · exact ⟨_, rfl⟩

/-- No command is too long for the buffer. -/
theorem length_body_of_sent {args : ParsedArgs} {request : UserRequest}
    (h : args.sent = some request) : request.body.length ≤ 32765 := by
  unfold ParsedArgs.sent at h
  split at h
  · obtain rfl := Option.some.inj h
    exact length_sent_body_le _ _
  · cases h

end Handlers

/-! ## Every run -/

section Runs

variable {sel : FdSelector FdHandler ℕ} {users : UserStore} {metrics : MetricSnapshot}
  {a : PamAccepted} {s t u v : PamSession} {e : PamEvent} {es : List PamEvent} {c : Credentials}
  {argv : List CString} {args : ParsedArgs} {request : UserRequest} {method : UInt16}
  {body delivered : List UInt8}
  {alloc allocBody : Bool} {authStack stack : ℕ → UInt8} {response : ServerResponse}

theorem pamExchange_of_accept (hfresh : PamFresh sel a)
    (haccept : pamPassiveAccept sel users metrics a = some s) :
    PamExchange c s ∧ PamUnasked s := by
  have hlog : s.log = [] := by rw [(pamPassiveAccept_eq haccept).2]
  have hunasked : PamUnasked s := by
    intro method body hhandle
    rw [hlog] at hhandle
    cases hhandle
  refine ⟨⟨pamIntact_of_accept hfresh haccept, .silent ?_ hunasked, fun _ =>
    .fresh (atPamAuth_of_accept haccept) hlog (pamPassiveAccept_interestOf haccept hfresh)⟩,
    hunasked⟩
  rw [PamSession.bytesOut, hlog, List.flatMap_nil]

/-- The bytes of a success are the answer to accepted credentials and the
response of a handler that has succeeded. -/
theorem history_of_success (h : PamHistory c t) (hdelivered : delivered <+: t.bytesOut)
    (cut : Cut delivered)
    (hresponse : mainReads alloc allocBody authStack stack cut.segments = some response)
    (hsuccess : response.status = 0x00) :
    ¬ PamUnasked t ∧ t.conn.auth.status = pamAuthSuccess ∧
      t.conn.request.status = pamRequestSuccess := by
  have hbytes := mainReads_success cut hresponse hsuccess
  have hlong : 3 ≤ delivered.length := by
    rcases hbytes with ⟨first, ver, rest, rfl⟩ | ⟨first, second, rest, rfl⟩
    · exact Nat.le_add_left 3 _
    · exact Nat.le_add_left 3 _
  rcases h with ⟨hout, -⟩ | ⟨-, hout, -, -⟩ | ⟨-, hout, -, hasked⟩
  · rw [hout, List.prefix_nil] at hdelivered
    rw [hdelivered] at hlong
    cases hlong
  · have hshort := (hdelivered.trans hout).length_le
    change delivered.length ≤ 2 at hshort
    omega
  · obtain ⟨more, hmore⟩ := hdelivered.trans hout
    change delivered ++ more = pamVersion1 :: t.conn.auth.status :: pamVersion1 ::
      t.conn.request.status :: _ at hmore
    rcases hbytes with ⟨first, ver, rest, rfl⟩ | ⟨first, second, rest, rfl⟩
    · obtain ⟨-, hmore⟩ := List.cons.inj hmore
      obtain ⟨hauth, hmore⟩ := List.cons.inj hmore
      obtain ⟨-, hmore⟩ := List.cons.inj hmore
      exact ⟨hasked, hauth.symm, (List.cons.inj hmore).1.symm⟩
    · obtain ⟨-, hmore⟩ := List.cons.inj hmore
      obtain ⟨-, hmore⟩ := List.cons.inj hmore
      -- one byte of the answer is read too late, and is no status of success
      exact absurd (List.cons.inj hmore).1 (by decide)

/-- From the event that hands the request over, its answer and the verdict on
the credentials stay what they are. -/
theorem kept_since_asked (hname : c.username.length < 255) (hbody : body.length ≤ 32765)
    (hv : PamExchange c v) (hasked : ¬ PamUnasked v) (henabled : Steps pamStep PamEnabled v es)
    (hoffers : Steps pamStep (PamOffers c method body) v es)
    (hrun : run pamStep v es = .ok t) :
    t.conn.request = v.conn.request ∧ t.conn.auth = v.conn.auth := by
  have hkept : PamExchange c t ∧ ¬ PamUnasked t ∧ t.conn.request = v.conn.request ∧
      t.conn.auth = v.conn.auth := by
    refine run_invariant (I := fun x => PamExchange c x ∧ ¬ PamUnasked x ∧
        x.conn.request = v.conn.request ∧ x.conn.auth = v.conn.auth) ?_
      ⟨hv, hasked, rfl, rfl⟩ (henabled.and hoffers) hrun
    rintro x e y ⟨hx, hxasked, hrequest, hauth⟩ ⟨hxenabled, hxoffers⟩ hstep
    obtain ⟨hadvances, hy⟩ := hx.step hname hbody hxenabled hxoffers hstep
    obtain ⟨hsame, hsameAuth⟩ := hadvances.keeps hxasked
    have hlog := pamStep_log hx.intact hxenabled hstep
    exact ⟨hy, fun hunasked => hxasked (pamUnasked_earlier hlog hunasked),
      hsame.trans hrequest, hsameAuth.trans hauth⟩
  exact hkept.2.2

/-- The event that hands a command over, when its answer is a success. -/
theorem carriesOut_of_handsOver
    (hhands : PamHandsOver request.method request.body u e v)
    (hchecked : PamChecked c u) (hauth : u.conn.auth.status = pamAuthSuccess)
    (hsuccess : v.conn.request.status = pamRequestSuccess) :
    CarriesOut c request u e v := by
  obtain ⟨fd, env, x, y, buffer, rest, he, hreading, hmethod, hhandle, heq, hrecv, hrest,
    hcontent⟩ := hhands
  obtain ⟨op, hop⟩ := exists_requestOp request env buffer
  have hstatus : y.conn.request.status = pamRequestSuccess := by
    rw [heq] at hsuccess
    exact hsuccess
  have husers : v.users = y.users := by rw [heq]; rfl
  have hrequester : x.requester = u.requester :=
    requester_congr (congrArg PamAuthSt.credentials hreading.auth)
  have hcall := handle_success (hmethod ▸ hop) hhandle hstatus
  rw [hrequester, hreading.users, ← husers] at hcall
  refine ⟨?_, hchecked.username, fd, env, rest, buffer, op, he, hrecv, hrest, hcontent, hop, hcall⟩
  rw [← hchecked.username, ← hchecked.pass]
  exact hchecked.answered.authenticated hauth

/-- A success that the client reports, whatever its command line, stands for an
event in which the server has carried its command out, once it had accepted its
credentials. -/
theorem success_carriedOut (hfresh : PamFresh sel a)
    (haccept : pamPassiveAccept sel users metrics a = some s)
    (hargs : parseClientArgs argv = .ok args)
    (huser : args.flags.user = some ⟨c.username, c.password⟩) (hsent : args.sent = some request)
    (henabled : Steps pamStep PamEnabled s es)
    (hoffers : Steps pamStep (PamOffers c request.method request.body) s es)
    (hrun : run pamStep s es = .ok t) (hdelivered : delivered <+: t.bytesOut)
    (cut : Cut delivered)
    (hresponse : mainReads alloc allocBody authStack stack cut.segments = some response)
    (hsuccess : response.status = 0x00) :
    ∃ before e after u v, es = before ++ e :: after ∧ run pamStep s before = .ok u ∧
      pamStep u e = .ok v ∧ CarriesOut c request u e v := by
  have hbody := length_body_of_sent hsent
  have hname : c.username.length < 255 := by
    obtain ⟨usrPass, hparse⟩ := user_of_accepted hargs huser
    obtain ⟨-, hpass, hfits⟩ := parsePassword_lengths hparse
    have hpos := List.length_pos_of_ne_nil hpass
    dsimp only at hfits hpos
    omega
  have hkeeps : ∀ x e y, PamExchange c x → (PamEnabled x e ∧
      PamOffers c request.method request.body x e) →
      pamStep x e = .ok y → PamExchange c y := fun x e y hx hsteps hstep =>
    (hx.step hname hbody hsteps.1 hsteps.2 hstep).2
  obtain ⟨hs, hunasked⟩ := pamExchange_of_accept (c := c) hfresh haccept
  have hboth := henabled.and hoffers
  have ht := run_invariant hkeeps hs hboth hrun
  obtain ⟨hasked, hauth, hstatus⟩ :=
    history_of_success ht.history hdelivered cut hresponse hsuccess
  obtain ⟨before, e, after, u, v, rfl, hbefore, hstep, hafter, hu, hv⟩ :=
    run_enters (Q := fun x => ¬ PamUnasked x) (not_not.mpr hunasked) hasked hrun
  have hexchange := run_invariant hkeeps hs hboth.init hbefore
  obtain ⟨⟨huenabled, huoffers⟩, hrest⟩ := (hboth.rest hbefore)
  obtain ⟨hadvances, hvexchange⟩ := hexchange.step hname hbody huenabled huoffers hstep
  obtain ⟨hhands, hchecked, hsame⟩ := hadvances.asks (not_not.mp hu) hv
  have hrest' := hrest v hstep
  obtain ⟨hrequest, hauthKept⟩ := kept_since_asked hname hbody hvexchange hv
    (hrest'.mono fun _ _ h => h.1) (hrest'.mono fun _ _ h => h.2) hafter
  refine ⟨before, e, after, u, v, rfl, hbefore, hstep,
    carriesOut_of_handsOver hhands hchecked ?_ ?_⟩
  · rw [← hsame, ← hauthKept]
    exact hauth
  · rw [← hrequest]
    exact hstatus

end Runs

/-- `admin:admin`. -/
def adminPair : List UInt8 := [97, 100, 109, 105, 110, 58, 97, 100, 109, 105, 110]

theorem noNul_adminPair : (0 : UInt8) ∉ adminPair := by decide

theorem noNul_addUserOption : (0 : UInt8) ∉ addUserOption := by decide

theorem noNul_b : (0 : UInt8) ∉ [98] := by decide

theorem noNul_one : (0 : UInt8) ∉ [49] := by decide

/-- `-u admin:admin add-user a b 1`. -/
def newUserLine : List CString :=
  [⟨userFlag, noNul_userFlag⟩, ⟨adminPair, noNul_adminPair⟩, ⟨addUserOption, noNul_addUserOption⟩,
    ⟨[97], noNul_a⟩, ⟨[98], noNul_b⟩, ⟨[49], noNul_one⟩]

/-- What it sets. -/
def newUserArgs : ParsedArgs :=
  withArguments { defaultFlags with user := some ⟨adminCredentials.username,
      adminCredentials.password⟩ } ⟨addUserOption, noNul_addUserOption⟩
    [⟨[97], noNul_a⟩, ⟨[98], noNul_b⟩, ⟨[49], noNul_one⟩]

/-- The administrator logs in and creates a user `a` with the password `b` and
the role 1. -/
def newUserRun : List PamEvent :=
  managementLogin adminName.bytes adminName.bytes ++
    [.read 4 (pamReceives (requestMessage pamRequestMethodAddUser [1, 97, 1, 98, 1])),
      .write 4 (pamSends 4)]

/-- The two answers, one in each segment. -/
def newUserAnswers : Cut ([0x01, 0x00, 0x01, 0x00, 0x00, 0x00] : List UInt8) where
  segments := [[0x01, 0x00], [0x01, 0x00, 0x00, 0x00]]
  nonempty := by decide
  flatten := rfl

theorem success_carriedOut_newUser :
    ∃ before e after u v, newUserRun = before ++ e :: after ∧
      run pamStep firstManagement before = .ok u ∧ pamStep u e = .ok v ∧
      CarriesOut adminCredentials (.addUser [97] [98] 1) u e v := by
  have hread : mainReads true true (fun _ => 0) (fun _ => 0) newUserAnswers.segments =
      some ⟨0x01, 0x00, 0, none⟩ := rfl
  have hdelivered : [0x01, 0x00, 0x01, 0x00, 0x00, 0x00] <+:
      (managementAfter newUserRun).bytesOut := by decide +kernel
  have hargs : parseClientArgs newUserLine = .ok newUserArgs := rfl
  exact success_carriedOut (firstManager_fresh default) firstManagement_accepted hargs rfl rfl
    (by decide +kernel) (by decide +kernel) (run_firstManagement (by decide +kernel)) hdelivered
    newUserAnswers hread rfl

end Socks5Proxy.Client
