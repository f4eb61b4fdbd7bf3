import WalnutGateway.Queue.Representation

/-!
# The TCP send queue

The elements of `TCP_SEND_Q` are `ModuleMessage` structures: two enumerators,
the address, the inline payload, a 32-bit pointer, the length and three flags,
padded to a word. A message without a heap block is told by these bytes.
-/

namespace WalnutGateway

/-- The enumerator with a value; other values count as the last one. -/
def ModuleId.ofWord : Nat → ModuleId
  | 0 => .log
  | 1 => .uart
  | 2 => .cmd
  | 3 => .urc
  | 4 => .sim
  | 5 => .network
  | 6 => .tcp
  | 7 => .gps
  | 8 => .sms
  | 9 => .ble
  | 10 => .system
  | 11 => .fileTransfer
  | _ => .count

theorem ModuleId.ofWord_toNat (i : ModuleId) : ModuleId.ofWord i.toNat = i := by
  cases i <;> rfl

theorem ModuleId.toNat_lt (i : ModuleId) : i.toNat < 256 ^ 4 := by
  cases i <;> decide

/-- A `bool` in memory. -/
def boolByte (b : Bool) : Byte := if b then 1 else 0

theorem boolByte_ne_zero (b : Bool) : decide (boolByte b ≠ 0) = b := by
  cases b <;> decide

namespace ModuleMessage

/-- `sizeof(ModuleMessage)`. -/
def size : Nat := 340

/-- The three flags and the padding byte. -/
def flagBytes (m : ModuleMessage) : List Byte :=
  [boolByte m.useDynamicBuffer, boolByte m.isRaw, boolByte m.payloadIsBinary, 0]

/-- The bytes of a message; a heap address is only known not to be 0. -/
def toBytes (m : ModuleMessage) : List Byte :=
  leBytes 4 m.sourceModule.toNat ++ (leBytes 4 m.destinationModule.toNat ++
    (m.address.toList ++ (m.message.toList ++
      (leBytes 4 (if m.dynamicBuffer.isSome then 1 else 0) ++
        (leBytes 4 m.dataLen ++ m.flagBytes)))))

/-- The message found in `size` bytes; a stored address leads nowhere. -/
def ofBytes (bs : List Byte) : ModuleMessage where
  sourceModule := .ofWord (leNat (bs.take 4))
  destinationModule := .ofWord (leNat ((bs.drop 4).take 4))
  address := CArray.ofList 64 ((bs.drop 8).take 64)
  message := CArray.ofList moduleMessageInlineSize ((bs.drop 72).take 256)
  dynamicBuffer := if leNat ((bs.drop 328).take 4) = 0 then none else some []
  dataLen := leNat ((bs.drop 332).take 4)
  useDynamicBuffer := (bs.drop 336).headD 0 ≠ 0
  isRaw := (bs.drop 337).headD 0 ≠ 0
  payloadIsBinary := (bs.drop 338).headD 0 ≠ 0

@[simp] theorem length_toBytes (m : ModuleMessage) : m.toBytes.length = size := by
  have hm : m.message.toList.length = 256 := m.message.toList_length
  simp [toBytes, flagBytes, size, hm]

/-- What follows a field is found behind the field's width. -/
private theorem drop_field {a b : List Byte} {n k j : Nat} (ha : a.length = n) (hk : k = n + j) :
    (a ++ b).drop k = b.drop j := by
  rw [List.drop_append, List.drop_of_length_le (by omega), ha, List.nil_append, hk,
    Nat.add_sub_cancel_left]

/-- A message without a heap block is read back from its bytes. -/
theorem ofBytes_toBytes {m : ModuleMessage} (h : m.Inline) : ofBytes m.toBytes = m := by
  have hs : (leBytes 4 m.sourceModule.toNat).length = 4 := length_leBytes ..
  have hd : (leBytes 4 m.destinationModule.toNat).length = 4 := length_leBytes ..
  have ha : m.address.toList.length = 64 := m.address.toList_length
  have hm : m.message.toList.length = 256 := m.message.toList_length
  have hp : (leBytes 4 (if m.dynamicBuffer.isSome then 1 else 0)).length = 4 := length_leBytes ..
  have hl : (leBytes 4 m.dataLen).length = 4 := length_leBytes ..
  have hfit : m.dataLen < 256 ^ 4 := h.fits.trans_lt (by decide)
  have hsource : ModuleId.ofWord (leNat (m.toBytes.take 4)) = m.sourceModule := by
    rw [toBytes, List.take_left' hs, leNat_leBytes m.sourceModule.toNat_lt, ModuleId.ofWord_toNat]
  have hdest : ModuleId.ofWord (leNat ((m.toBytes.drop 4).take 4)) = m.destinationModule := by
    rw [toBytes, drop_field hs (j := 0) rfl, List.drop_zero, List.take_left' hd,
      leNat_leBytes m.destinationModule.toNat_lt, ModuleId.ofWord_toNat]
  have haddr : CArray.ofList 64 ((m.toBytes.drop 8).take 64) = m.address := by
    rw [toBytes, drop_field hs (j := 4) rfl, drop_field hd (j := 0) rfl, List.drop_zero,
      List.take_left' ha, CArray.ofList_toList]
  have hmess : CArray.ofList moduleMessageInlineSize ((m.toBytes.drop 72).take 256) =
      m.message := by
    rw [toBytes, drop_field hs (j := 68) rfl, drop_field hd (j := 64) rfl,
      drop_field ha (j := 0) rfl, List.drop_zero, List.take_left' hm, CArray.ofList_toList]
  have htail (j : Nat) : m.toBytes.drop (328 + j) =
      (leBytes 4 (if m.dynamicBuffer.isSome then 1 else 0) ++
        (leBytes 4 m.dataLen ++ m.flagBytes)).drop j := by
    rw [toBytes, drop_field hs (j := 324 + j) (by omega), drop_field hd (j := 320 + j) (by omega),
      drop_field ha (j := 256 + j) (by omega), drop_field hm (j := j) rfl]
  have hnull : (if leNat ((m.toBytes.drop 328).take 4) = 0 then none else some []) =
      m.dynamicBuffer := by
    rw [htail 0, List.drop_zero, List.take_left' hp, h.noBuffer]
    rfl
  have hlen : leNat ((m.toBytes.drop 332).take 4) = m.dataLen := by
    rw [htail 4, drop_field hp (j := 0) rfl, List.drop_zero, List.take_left' hl,
      leNat_leBytes hfit]
  have hflags (j : Nat) : m.toBytes.drop (336 + j) = m.flagBytes.drop j := by
    rw [show 336 + j = 328 + (8 + j) by omega, htail, drop_field hp (j := 4 + j) (by omega),
      drop_field hl (j := j) rfl]
  have hdyn : decide ((m.toBytes.drop 336).headD 0 ≠ 0) = m.useDynamicBuffer := by
    rw [hflags 0]
    exact boolByte_ne_zero _
  have hraw : decide ((m.toBytes.drop 337).headD 0 ≠ 0) = m.isRaw := by
    rw [hflags 1]
    exact boolByte_ne_zero _
  have hbin : decide ((m.toBytes.drop 338).headD 0 ≠ 0) = m.payloadIsBinary := by
    rw [hflags 2]
    exact boolByte_ne_zero _
  rw [ofBytes, hsource, hdest, haddr, hmess, hnull, hlen, hdyn, hraw, hbin]

end ModuleMessage

/-- A row of a queue of messages. -/
def messageRow : RowType ModuleMessage where
  size := ModuleMessage.size
  image := ModuleMessage.toBytes
  ofImage := ModuleMessage.ofBytes
  asMessage m := m
  ofMessage m := m
  Plain m := m.Inline
  length_image := ModuleMessage.length_toBytes
  ofImage_image _ h := ModuleMessage.ofBytes_toBytes h

/-- `msg_q_config` of the TCP module. -/
def tcpSendQueueConfig : QueueConfig ModuleMessage where
  name := "TCP_SEND_Q"
  element := messageRow
  capacity := 7
  threadSafe := true
  maxFileSize := 1024 * 200
  persistOnReboot := true

instance : DecidablePred tcpSendQueueConfig.element.Plain :=
  fun m => inferInstanceAs (Decidable m.Inline)

theorem queueIsTcpSendQ_tcpSendQueueConfig : queueIsTcpSendQ tcpSendQueueConfig = true := by
  decide

theorem wellFormed_tcpSendQueueConfig : tcpSendQueueConfig.WellFormed where
  capacity_pos := by decide
  capacity_lt := by decide
  file_pos := by decide
  file_le := by decide
  size_pos := by decide
  message _ _ := rfl
  plain h := by rw [queueIsTcpSendQ_tcpSendQueueConfig] at h; contradiction

end WalnutGateway
