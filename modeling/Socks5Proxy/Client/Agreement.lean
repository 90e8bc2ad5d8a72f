import Socks5Proxy.Client.Commands
import Socks5Proxy.Pam.Handover

/-!
# What the server makes of a command

The client keeps lengths and roles in single bytes without a test, and the
handlers read a field into an array of 255 cells, the terminator included.  The
two agree on the arguments that survive both.
-/

namespace Socks5Proxy.Client

open Library

/-! ## The request a command is for -/

/-- `r` is what the arguments of the command ask for. -/
def Command.Asks (args : ClientArgs) : Command → UserRequest → Prop
  | addUser, .addUser username password role =>
    username = args.arg1.bytes ∧ password = args.arg2.bytes ∧ Numeral args.arg3.bytes role.toNat
  | removeUser, .removeUser username => username = args.arg1.bytes
  | changePassword, .changePassword username newPassword =>
    username = args.arg1.bytes ∧ newPassword = args.arg2.bytes
  | changeRole, .changeRole username newRole =>
    username = args.arg1.bytes ∧ Numeral args.arg2.bytes newRole.toNat
  | _, _ => False

/-- Whatever the command sends, a connection that waits for a request and
receives it hands to the handler a body in which the handler reads what the
arguments ask for. -/
def Agrees (command : Command) (args : ClientArgs) : Prop :=
  ∀ alloc message, command.run alloc args = some message →
    ∃ r, command.Asks args r ∧
      ∀ (env : PamEnv) key s, AwaitsRequest s → env.recv = some message →
        ∃ method buffer, pamRequestHandover env key s = some (method, buffer) ∧
          handlerLocals method buffer = some r

/-! ## The request a command sends -/

/-- The bytes a length byte announces. -/
def truncated (s : CString) : List UInt8 := s.bytes.take (strlen s).toNat

def Command.sent (args : ClientArgs) : Command → UserRequest
  | addUser => .addUser (truncated args.arg1) (truncated args.arg2) (roleByte args.arg3)
  | removeUser => .removeUser (truncated args.arg1)
  | changePassword => .changePassword (truncated args.arg1) (truncated args.arg2)
  | changeRole => .changeRole (truncated args.arg1) (roleByte args.arg2)

section Sent

variable {s : CString} {command : Command} {args : ClientArgs}

theorem length_truncated (s : CString) : (truncated s).length = s.bytes.length % 256 := by
  rw [truncated, strlen, UInt8.toNat_ofNat', List.length_take]
  omega

theorem truncated_eq_iff : truncated s = s.bytes ↔ s.bytes.length < 256 := by
  constructor
  · intro h
    have hlen := congrArg List.length h
    rw [length_truncated] at hlen
    omega
  · intro h
    rw [truncated, strlen, UInt8.toNat_ofNat', List.take_of_length_le (by omega)]

theorem zero_notMem_truncated (s : CString) : 0 ∉ truncated s := fun h =>
  s.noNul (List.mem_of_mem_take h)

theorem encodeField_truncated (s : CString) :
    encodeField (truncated s) = strlen s :: s.bytes.take (strlen s).toNat := by
  have hbyte : UInt8.ofNat (s.bytes.length % 256) = UInt8.ofNat s.bytes.length := by
    rw [← UInt8.toNat_inj, UInt8.toNat_ofNat', UInt8.toNat_ofNat']
    omega
  rw [encodeField, length_truncated, hbyte]
  rfl

theorem length_truncated_eq (s : CString) : (truncated s).length = (strlen s).toNat := by
  rw [length_truncated, strlen, UInt8.toNat_ofNat']

theorem sendRequest_eq {method nBody : UInt16} {body : List UInt8}
    (h : nBody.toNat = body.length) :
    sendRequest true protocolVersion method nBody body = some (requestMessage method body) := by
  have hcount : UInt16.ofNat body.length = nBody := by rw [← h, UInt16.ofNat_toNat]
  simp only [sendRequest, if_true]
  rw [requestMessage, hcount, h, List.take_length]
  rfl

/-- A command sends its arguments behind the length bytes it has computed. -/
theorem run_eq_sent (command : Command) (args : ClientArgs) :
    command.run true args =
      some (requestMessage (command.sent args).method (command.sent args).body) := by
  have hulen := (strlen args.arg1).toNat_lt
  have hplen := (strlen args.arg2).toNat_lt
  have husername := length_truncated_eq args.arg1
  have hpassword := length_truncated_eq args.arg2
  rw [truncated] at husername hpassword
  rcases command with _ | _ | _ | _
  · simp only [Command.run, addUser, Command.sent, UserRequest.body, encodeField_truncated]
    refine sendRequest_eq ?_
    simp only [UInt16.toNat_add, UInt8.toNat_toUInt16, List.length_cons, List.length_append,
      List.length_nil, husername, hpassword, UInt16.reduceToNat]
    omega
  · simp only [Command.run, removeUser, Command.sent, UserRequest.body, encodeField_truncated]
    refine sendRequest_eq ?_
    simp only [UInt16.toNat_add, UInt8.toNat_toUInt16, List.length_cons, husername,
      UInt16.reduceToNat]
    omega
  · simp only [Command.run, changePassword, Command.sent, UserRequest.body, encodeField_truncated]
    refine sendRequest_eq ?_
    simp only [UInt16.toNat_add, UInt8.toNat_toUInt16, List.length_cons, List.length_append,
      husername, hpassword, UInt16.reduceToNat]
    omega
  · simp only [Command.run, changeRole, Command.sent, UserRequest.body, encodeField_truncated]
    refine sendRequest_eq ?_
    simp only [UInt16.toNat_add, UInt8.toNat_toUInt16, List.length_cons, List.length_append,
      List.length_nil, husername, UInt16.reduceToNat]
    omega

theorem sent_noNul (command : Command) (args : ClientArgs) : (command.sent args).NoNul := by
  rcases command with _ | _ | _ | _
  · simp [Command.sent, UserRequest.NoNul, UserRequest.fields, zero_notMem_truncated]
  · simp [Command.sent, UserRequest.NoNul, UserRequest.fields, zero_notMem_truncated]
  · simp [Command.sent, UserRequest.NoNul, UserRequest.fields, zero_notMem_truncated]
  · simp [Command.sent, UserRequest.NoNul, UserRequest.fields, zero_notMem_truncated]

theorem sent_encodable (command : Command) (args : ClientArgs) :
    (command.sent args).Encodable := by
  rw [UserRequest.encodable_iff]
  have hlen : ∀ s, (truncated s).length < 256 := by
    intro s
    rw [length_truncated]
    omega
  rcases command with _ | _ | _ | _
  · simp [Command.sent, UserRequest.fields, hlen]
  · simp [Command.sent, UserRequest.fields, hlen]
  · simp [Command.sent, UserRequest.fields, hlen]
  · simp [Command.sent, UserRequest.fields, hlen]

theorem length_sent_body_le (command : Command) (args : ClientArgs) :
    (command.sent args).body.length ≤ 32765 := by
  have husername := length_truncated args.arg1
  have hpassword := length_truncated args.arg2
  rcases command with _ | _ | _ | _
  · simp only [Command.sent, UserRequest.body, encodeField, List.length_append, List.length_cons,
      List.length_nil]
    omega
  · simp only [Command.sent, UserRequest.body, encodeField, List.length_cons]
    omega
  · simp only [Command.sent, UserRequest.body, encodeField, List.length_append, List.length_cons]
    omega
  · simp only [Command.sent, UserRequest.body, encodeField, List.length_append, List.length_cons,
      List.length_nil]
    omega

theorem run_of_not_alloc (command : Command) (args : ClientArgs) :
    command.run false args = none := by
  rcases command with _ | _ | _ | _
  · rfl
  · rfl
  · rfl
  · rfl

/-- A connection that has just entered PAM_REQUEST. -/
def waitingSession : PamSession :=
  pamRequestArrival { (default : PamSession) with
    conn.clientBuffer := bufferInit pamBufferSize fun _ => 0 }

/-- The handler finds the request that was sent, if it fits in the arrays. -/
theorem agrees_iff_sent :
    Agrees command args ↔
      (command.sent args).FitsArrays ∧ command.Asks args (command.sent args) := by
  constructor
  · intro h
    obtain ⟨r, hasks, hserver⟩ := h true _ (run_eq_sent command args)
    have hwaiting : AwaitsRequest waitingSession := awaitsRequest_of_arrival rfl rfl
    have hrecv : ({ (default : PamEnv) with recv := some (requestMessage
      (command.sent args).method (command.sent args).body) } : PamEnv).recv = _ := rfl
    obtain ⟨buffer, hcontent, hhandover⟩ := pamRequestHandover_of_message hwaiting ⟨0, 0⟩
      (length_sent_body_le command args) hrecv
    obtain ⟨method, buffer', hcall, hlocals⟩ := hserver _ ⟨0, 0⟩ waitingSession hwaiting hrecv
    rw [hhandover, Option.some.injEq, Prod.mk.injEq] at hcall
    obtain ⟨rfl, rfl⟩ := hcall
    have hfits : (command.sent args).FitsArrays := by
      by_contra hlong
      rw [handlerLocals_body_of_long (sent_encodable command args) (sent_noNul command args)
        hcontent hlong] at hlocals
      cases hlocals
    rw [handlerLocals_body hfits (sent_noNul command args) hcontent] at hlocals
    obtain rfl := Option.some.inj hlocals
    exact ⟨hfits, hasks⟩
  · rintro ⟨hfits, hasks⟩ alloc message hsent
    rcases alloc with _ | _
    · rw [run_of_not_alloc] at hsent
      cases hsent
    · rw [run_eq_sent, Option.some.injEq] at hsent
      subst hsent
      refine ⟨_, hasks, ?_⟩
      intro env key s hwaiting hrecv
      obtain ⟨buffer, hcontent, hhandover⟩ := pamRequestHandover_of_message hwaiting key
        (length_sent_body_le command args) hrecv
      exact ⟨_, buffer, hhandover, handlerLocals_body hfits (sent_noNul command args) hcontent⟩

end Sent

/-! ## The arguments that survive -/

/-- A decimal numeral of a byte. -/
def IsRole (s : CString) : Prop := ∃ n : ℕ, n < 256 ∧ Numeral s.bytes n

/-- Names and passwords leave room for a terminator, and roles are numerals of
a byte. -/
def Representable (args : ClientArgs) : Command → Prop
  | .addUser =>
    args.arg1.bytes.length < 255 ∧ args.arg2.bytes.length < 255 ∧ IsRole args.arg3
  | .removeUser => args.arg1.bytes.length < 255
  | .changePassword => args.arg1.bytes.length < 255 ∧ args.arg2.bytes.length < 255
  | .changeRole => args.arg1.bytes.length < 255 ∧ IsRole args.arg2

section Survival

variable {s : CString}

theorem truncated_fits_iff :
    (truncated s).length < 255 ∧ truncated s = s.bytes ↔ s.bytes.length < 255 := by
  rw [truncated_eq_iff, length_truncated]
  omega

theorem numeral_roleByte_iff : Numeral s.bytes (roleByte s).toNat ↔ IsRole s := by
  constructor
  · intro h
    exact ⟨(roleByte s).toNat, (roleByte s).toNat_lt, h⟩
  · rintro ⟨n, hn, h⟩
    have hvalue : strtol s.bytes = n := strtol_of_numeral h (by omega)
    have hbyte : (roleByte s).toNat = n := by
      rw [roleByte, atoiInt, hvalue, Int32.toInt_ofInt_of_le (by omega) (by omega), UInt8.ofInt,
        UInt8.toNat_ofNat']
      omega
    rwa [hbyte]

end Survival

/-- The client and the server agree on a command exactly if its names and
passwords have less than 255 bytes and its role is a numeral of a byte. -/
theorem agrees_iff (command : Command) (args : ClientArgs) :
    Agrees command args ↔ Representable args command := by
  rw [agrees_iff_sent]
  rcases command with _ | _ | _ | _
  · rw [Representable, ← truncated_fits_iff, ← truncated_fits_iff, ← numeral_roleByte_iff]
    simp only [Command.sent, Command.Asks, UserRequest.FitsArrays, UserRequest.fields,
      List.forall_mem_cons]
    tauto
  · rw [Representable, ← truncated_fits_iff]
    simp [Command.sent, Command.Asks, UserRequest.FitsArrays, UserRequest.fields]
  · rw [Representable, ← truncated_fits_iff, ← truncated_fits_iff]
    simp only [Command.sent, Command.Asks, UserRequest.FitsArrays, UserRequest.fields,
      List.forall_mem_cons]
    tauto
  · rw [Representable, ← truncated_fits_iff, ← numeral_roleByte_iff]
    simp only [Command.sent, Command.Asks, UserRequest.FitsArrays, UserRequest.fields,
      List.forall_mem_cons]
    tauto

theorem noNul_a : (0 : UInt8) ∉ [97] := by decide

/-- `change-role a user`. -/
def roleName : ClientArgs where
  arg1 := ⟨[97], noNul_a⟩
  arg2 := ⟨[117, 115, 101, 114], by decide⟩
  arg3 := ⟨[], by decide⟩

/-- A role that is no number is sent as the role of an administrator. -/
theorem roleName_becomes_admin :
    Command.changeRole.sent roleName = .changeRole [97] 0 ∧ ¬ Agrees .changeRole roleName := by
  refine ⟨by decide, ?_⟩
  rw [agrees_iff_sent]
  rintro ⟨-, -, hnumeral⟩
  obtain ⟨c, rest, htext, hc⟩ := hnumeral.head
  obtain rfl : 117 = c := List.head_eq_of_cons_eq htext
  revert hc
  decide

end Socks5Proxy.Client
