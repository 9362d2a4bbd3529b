import Kdbus.Memory

/-!
# Connections and error codes

What the endpoint checks and the metadata writer read of a connection (`connection.h`,
`names.h`): its credentials, its privileged flag and the well-known names it owns.  The
registry that stores name ownership is not part of this excerpt; only the list a connection
owns, in `names_list` order, is consumed here.
-/

namespace Kdbus

/-- `struct cred`, as far as the checks read it.  The policy databases see all of it. -/
structure Cred where
  uid : Nat
  gid : Nat
  fsuid : Nat
deriving DecidableEq

/-- `struct kdbus_conn`: its credentials, whether it is privileged, and the names it owns, in
the order of `conn->names_list`. -/
structure KdbusConn where
  cred : Cred
  privileged : Bool
  namesList : List CString
deriving DecidableEq

/-! ## Error codes -/

/-- `EPERM`. -/
def eperm : Nat := 1

/-- `ENOENT`. -/
def enoent : Nat := 2

/-- `ENOMEM`. -/
def enomem : Nat := 12

/-- `EOPNOTSUPP`. -/
def eopnotsupp : Nat := 95

end Kdbus
