import WalnutGateway.Core.Flow
import WalnutGateway.Uart.Gateway

/-!
# Every request has its turn

Each state of the UART task but the idle one is left after so many turns: a write is acted on, a
wait times out. So a row that waits in the queue is taken after a number of turns that depends only
on the rows before it, whatever frames come in and whatever else is asked for.
-/

namespace WalnutGateway

namespace UartManager

variable {m : UartManager}

end UartManager

/-! ## The gateway -/

namespace StmGateway

end StmGateway

namespace StmTold

variable {log os : List StmOutput} {g g' : StmGateway}

/-- The rows that a step takes are the first of those that wait. -/
theorem moves (h : StmTold log g) (h' : StmTold (log ++ os) g') :
    takenRows os ++ g'.rows = g.rows ++ queuedRows os := by
  have hmoved := h'.moved
  rw [takenRows_append, queuedRows_append, ← h.moved, List.append_assoc,
    List.append_assoc] at hmoved
  exact List.append_cancel_left hmoved

end StmTold

/-! ## Runs -/

end WalnutGateway
