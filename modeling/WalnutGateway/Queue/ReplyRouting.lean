import WalnutGateway.Common.Search
import WalnutGateway.Queue.Frame
import WalnutGateway.Queue.Producers
import WalnutGateway.Uart.UserReply

/-!
# Replies for the TCP server

What `utils_route_response_to_module` logs and enqueues of a reply for the TCP module. A reply
goes out as text, of which a packet takes 249 bytes, or as the bytes that the hex digits behind
its marker stand for.
-/

namespace WalnutGateway

/-- The level of the line that is logged. -/
inductive RouteLog where
  | debug
  | warn
  deriving DecidableEq

/-- `utils_route_response_to_module` for the TCP module: what is logged, and the device. The
module is available if its configuration is there, enabled, and has a queue. The copy of the
address fails only without a destination, so its warning is never logged. -/
def utilsRouteResponseLogged (available : Bool) (d : Device ModuleMessage)
    (address response : List Byte) (sender : ModuleId) :
    Option RouteLog × Device ModuleMessage :=
  if response.length = 0 then (some .debug, d)
  else if ¬ available then (some .debug, d)
  else
    match routedPacket response with
    | none => (some .warn, d)
    | some packet =>
      let pushed := queuePush tcpSendQueueConfig d (routedMessage address packet sender)
      (if pushed.1 = .success then none else some .warn, pushed.2)

/-- The device of an available module is the one that the producers model. -/
theorem utilsRouteResponseLogged_device (d : Device ModuleMessage) (address response : List Byte)
    (sender : ModuleId) : (utilsRouteResponseLogged true d address response sender).2 =
      utilsRouteResponseToModule d address response sender := by
  rw [utilsRouteResponseLogged, utilsRouteResponseToModule]
  by_cases hempty : response.length = 0
  · rw [if_pos hempty, routedPacket, if_pos hempty]
  · rw [if_neg hempty, if_neg (by decide)]
    cases routedPacket response <;> rfl

/-- `utils_bytes_to_hex_str`: the digits, `none` where it returns 0. -/
def utilsBytesToHexStr (data : List Byte) (hexOutSize : Nat) : Option (List Byte) :=
  if hexOutSize < data.length * 2 + 1 then none else some (data.flatMap hexUpper)

end WalnutGateway
