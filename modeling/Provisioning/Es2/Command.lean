/-!
# Functions of the ES2+ interface

* `Es2.Command` : the functions; `Command.name` is the last part of their address.
-/

namespace Provisioning.Es2

inductive Command
  | getProfileStatus
  | recoverProfile
  | cancelOrder
  | downloadOrder
  | confirmOrder
  deriving DecidableEq, Repr

def Command.name : Command → String
  | getProfileStatus => "getProfileStatus"
  | recoverProfile => "recoverProfile"
  | cancelOrder => "cancelOrder"
  | downloadOrder => "downloadOrder"
  | confirmOrder => "confirmOrder"

end Provisioning.Es2
