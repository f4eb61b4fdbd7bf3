import WalnutGateway.Common.Utils

/-!
# Response packets for the TCP queue

`tcp_command_response_packet_create` frames a text reply as a type 38 packet,
`tcp_ble_cmd_response_packet_create` the binary a hex reply stands for as a
type 39 packet. Both share one layout: marker, type, payload length, payload,
end marker.
-/

namespace WalnutGateway

/-- `GPS_PACKET_START_ID1`, `GPS_PACKET_START_ID2`. -/
def packetStartId : List Byte := [0x57, 0x45]

/-- `GPS_PACKET_STOP_ID1`, `GPS_PACKET_STOP_ID2`. -/
def packetStopId : List Byte := [0x77, 0x65]

/-- `TCP_CMD_RESP_PACKET_TYPE` of `tcp_ops.h`. -/
def tcpOpsCmdRespPacketType : Byte := 38

/-- `BLE_CMD_RESP_TCP_PACKET_TYPE`. -/
def bleCmdRespTcpPacketType : Byte := 39

/-- `TCP_CMD_RESP_HEADER_SIZE`. -/
def tcpCmdRespHeaderSize : Nat := 7

/-- `TCP_CMD_RESP_PAYLOAD_MAX`. -/
def tcpCmdRespPayloadMax : Nat := moduleMessageInlineSize - tcpCmdRespHeaderSize

/-- The layout of both packets: `WE`, type, length, payload, `we`. -/
def responseFrame (type : Byte) (payload : List Byte) : List Byte :=
  packetStartId ++ type :: leBytes 2 payload.length ++ payload ++ packetStopId

/-- `tcp_command_response_packet_create`: the packet, `none` where 0 is returned. -/
def tcpCommandResponsePacketCreate (outSize : Nat) (payload : List Byte) : Option (List Byte) :=
  let payload := payload.take tcpCmdRespPayloadMax
  if outSize < tcpCmdRespHeaderSize + payload.length then none
  else some (responseFrame tcpOpsCmdRespPacketType payload)

/-- `tcp_ble_cmd_response_packet_create`: the packet, `none` where 0 is returned. -/
def tcpBleCmdResponsePacketCreate (outSize : Nat) (hex : List Byte) : Option (List Byte) :=
  if hex.length = 0 ∨ outSize ≤ tcpCmdRespHeaderSize then none else
  let binCap := min (outSize - tcpCmdRespHeaderSize) tcpCmdRespPayloadMax
  match utilsHexStrToBytes hex binCap with
  | none => none
  | some bin => if bin.length = 0 then none else some (responseFrame bleCmdRespTcpPacketType bin)

@[simp] theorem length_responseFrame (type : Byte) (payload : List Byte) :
    (responseFrame type payload).length = tcpCmdRespHeaderSize + payload.length := by
  simp [responseFrame, packetStartId, packetStopId, tcpCmdRespHeaderSize]
  omega

/-- Marker and type stand in the first three bytes. -/
theorem getD_responseFrame (type : Byte) (payload : List Byte) :
    (responseFrame type payload).getD 0 0 = 0x57 ∧ (responseFrame type payload).getD 1 0 = 0x45 ∧
      (responseFrame type payload).getD 2 0 = type :=
  ⟨rfl, rfl, rfl⟩

/-- A text reply becomes a type 38 frame that fits a message. -/
theorem tcpCommandResponsePacketCreate_eq_some {outSize : Nat} {payload packet : List Byte}
    (h : tcpCommandResponsePacketCreate outSize payload = some packet) :
    ∃ body, packet = responseFrame tcpOpsCmdRespPacketType body ∧
      packet.length ≤ moduleMessageInlineSize := by
  unfold tcpCommandResponsePacketCreate at h
  dsimp only at h
  split at h
  · contradiction
  · cases h
    refine ⟨_, rfl, ?_⟩
    have hcap : tcpCmdRespHeaderSize + tcpCmdRespPayloadMax = moduleMessageInlineSize := rfl
    rw [length_responseFrame, List.length_take]
    omega

/-- A hex reply becomes a type 39 frame that fits a message. -/
theorem tcpBleCmdResponsePacketCreate_eq_some {outSize : Nat} {hex packet : List Byte}
    (h : tcpBleCmdResponsePacketCreate outSize hex = some packet) :
    ∃ body, packet = responseFrame bleCmdRespTcpPacketType body ∧
      packet.length ≤ moduleMessageInlineSize := by
  unfold tcpBleCmdResponsePacketCreate at h
  dsimp only at h
  split at h
  · contradiction
  · cases hbin : utilsHexStrToBytes hex
        (min (outSize - tcpCmdRespHeaderSize) tcpCmdRespPayloadMax) with
    | none =>
      rw [hbin] at h
      contradiction
    | some bin =>
      rw [hbin] at h
      have hlen := length_utilsHexStrToBytes_le hbin
      have hcap : tcpCmdRespHeaderSize + tcpCmdRespPayloadMax = moduleMessageInlineSize := rfl
      dsimp only at h
      split at h
      · contradiction
      · cases h
        refine ⟨bin, rfl, ?_⟩
        rw [length_responseFrame]
        omega

end WalnutGateway
