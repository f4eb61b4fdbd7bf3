import WalnutGateway.Queue.Bounded
import WalnutGateway.Sms.Extract

/-!
# Sending text messages

`sms_send_task` takes one row of `SMS_SEND_Q` a turn and hands it to the modem, if the row
names a recipient and `sms_send_internal` accepts its length. A row that is not handed on,
or that the modem refuses, is counted and gone.
-/

namespace WalnutGateway

/-- `msg_q_config` of the SMS module. -/
def smsSendQueueConfig : QueueConfig ModuleMessage where
  name := "SMS_SEND_Q"
  element := messageRow
  capacity := 5
  threadSafe := true
  maxFileSize := 0
  persistOnReboot := false

/-- The counters of `sms_manager_stats_t` for what is sent. -/
structure SmsSendStats where
  totalSent : Nat
  sendErrors : Nat
  deriving DecidableEq

/-- A text and the number it goes to. -/
structure SmsText where
  recipient : List Byte
  text : List Byte
  deriving DecidableEq

end WalnutGateway
