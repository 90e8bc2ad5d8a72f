import Socks5Proxy.Shared.Registry

/-!
# What the selector holds for the server

The handler tables that are registered, the part of `struct selector_key` the
handlers read, and the selector `main` creates.  The address of a connection
record stands for the pointer `data`.
-/

namespace Socks5Proxy

/-- The `struct fd_handler` tables of the server. -/
inductive FdHandler
  | socksv5
  | pam
  | socks5Handler
  | pamHandler
  | loggerHandlers
  deriving DecidableEq, Inhabited, Repr

/-- The descriptor and the data of `struct selector_key`. -/
structure SelectorKey where
  fd : ℤ
  data : ℕ
  deriving DecidableEq, Inhabited, Repr

/-- Which callbacks the tables define. -/
def fdHandlerCallbacks : Callbacks FdHandler where
  read := fun
    | .loggerHandlers => false
    | _ => true
  write := fun
    | .socksv5 | .pam => false
    | _ => true
  block := fun
    | .socks5Handler => true
    | _ => false
  close := fun
    | .socks5Handler | .pamHandler => true
    | _ => false

/-- The selector `main` creates, with nothing registered. -/
def emptySelector : FdSelector FdHandler ℕ :=
  { (default : FdSelector FdHandler ℕ) with
    fds := List.replicate (nextCapacity fdSetsize) Item.blank }

theorem emptySelector_item (fd : ℤ) : emptySelector.item fd = Item.blank := by
  simp only [FdSelector.item, emptySelector, List.getD_eq_getElem?_getD,
    List.getElem?_replicate]
  split <;> rfl

theorem nextCapacity_fdSetsize : nextCapacity fdSetsize = fdSetsize + 1 := by decide

end Socks5Proxy
