import WalnutGateway.Sdk.File

/-!
# Shared types

Result codes, module identifiers, inter-module messages, and the queue
configuration with the type of its elements. A message carries its payload
inline or in a heap block; `data_len` is its length in both cases.
-/

namespace WalnutGateway

/-- `UINT32_MAX`. -/
def uint32Max : Nat := 2 ^ 32 - 1

/-- Conversion to `UINT16`. -/
def toUint16 (n : Nat) : Nat := n % 2 ^ 16

/-- `Result` of `common/types.h`. -/
inductive Result
  | success
  | error
  | timeout
  | invalidParam
  | notInitialized
  | alreadyInitialized
  | outOfMemory
  | notFound
  | busy
  | notSupported
  deriving DecidableEq, Repr

/-- `result_is_error`: anything but success. -/
def Result.isError (r : Result) : Bool := r ≠ .success

/-- `ModuleId` of `module_manager.h`. -/
inductive ModuleId
  | log
  | uart
  | cmd
  | urc
  | sim
  | network
  | tcp
  | gps
  | sms
  | ble
  | system
  | fileTransfer
  | count
  deriving DecidableEq, Repr

/-- The enumerator's value. -/
def ModuleId.toNat : ModuleId → Nat
  | .log => 0
  | .uart => 1
  | .cmd => 2
  | .urc => 3
  | .sim => 4
  | .network => 5
  | .tcp => 6
  | .gps => 7
  | .sms => 8
  | .ble => 9
  | .system => 10
  | .fileTransfer => 11
  | .count => 12

/-! ## Messages -/

/-- `MODULE_MESSAGE_INLINE_SIZE`. -/
def moduleMessageInlineSize : Nat := 256

/-- `ModuleMessage`; `dynamicBuffer` is the heap block pointed to, `none` for `NULL`. -/
structure ModuleMessage where
  sourceModule : ModuleId
  destinationModule : ModuleId
  address : CArray 64
  message : CArray moduleMessageInlineSize
  dynamicBuffer : Option (List Byte)
  /-- Payload length in bytes. -/
  dataLen : Nat
  useDynamicBuffer : Bool
  isRaw : Bool
  payloadIsBinary : Bool
  deriving DecidableEq

namespace ModuleMessage

/-- A zeroed message between two modules with `data` as inline payload. -/
def ofPayload (source destination : ModuleId) (data : List Byte) : ModuleMessage where
  sourceModule := source
  destinationModule := destination
  address := CArray.ofList 64 []
  message := CArray.ofList moduleMessageInlineSize data
  dynamicBuffer := none
  dataLen := data.length
  useDynamicBuffer := false
  isRaw := false
  payloadIsBinary := false

/-- A zeroed message between two modules with `data` in a heap block. -/
def ofBuffer (source destination : ModuleId) (data : List Byte) : ModuleMessage :=
  { ofPayload source destination [] with
    dynamicBuffer := some data
    dataLen := data.length
    useDynamicBuffer := true }

/-- `module_message_payload_ptr`: the memory the pointer reaches, `none` for `NULL`. -/
def payloadPtr (m : ModuleMessage) : Option (List Byte) :=
  if m.useDynamicBuffer then m.dynamicBuffer else some m.message.toList

/-- The payload: `data_len` bytes at the payload pointer. -/
def payload (m : ModuleMessage) : List Byte := memRead (m.payloadPtr.getD []) m.dataLen

/-- The payload is in the message itself, nothing points to the heap, and the
length field is in range for the inline array. -/
structure Inline (m : ModuleMessage) : Prop where
  static : m.useDynamicBuffer = false
  noBuffer : m.dynamicBuffer = none
  fits : m.dataLen ≤ moduleMessageInlineSize

instance (m : ModuleMessage) : Decidable m.Inline :=
  decidable_of_iff (m.useDynamicBuffer = false ∧ m.dynamicBuffer = none ∧
    m.dataLen ≤ moduleMessageInlineSize) ⟨fun h => ⟨h.1, h.2.1, h.2.2⟩, fun h => ⟨h.1, h.2, h.3⟩⟩

theorem payloadPtr_of_static {m : ModuleMessage} (h : m.useDynamicBuffer = false) :
    m.payloadPtr = some m.message.toList := by
  simp [payloadPtr, h]

@[simp] theorem length_payload (m : ModuleMessage) : m.payload.length = m.dataLen :=
  length_memRead ..

theorem inline_ofPayload (s t : ModuleId) {data : List Byte}
    (h : data.length ≤ moduleMessageInlineSize) : (ofPayload s t data).Inline :=
  ⟨rfl, rfl, h⟩

/-- A message built from `data` carries `data`. -/
theorem payload_ofPayload (s t : ModuleId) {data : List Byte}
    (h : data.length ≤ moduleMessageInlineSize) : (ofPayload s t data).payload = data := by
  have hlen : data.length ≤ (CArray.ofList moduleMessageInlineSize data).toList.length := by
    rwa [List.Vector.toList_length]
  rw [payload, payloadPtr_of_static rfl, Option.getD_some]
  exact (memRead_of_le hlen).trans (CArray.take_ofList h)

end ModuleMessage

/-! ## Queue elements and configuration -/

/-- What a queue knows about its elements: the bytes one occupies in RAM, and
its reading as a `ModuleMessage` through a pointer cast. -/
structure RowType (α : Type) where
  /-- `element_size`. -/
  size : Nat
  /-- The bytes of an element. -/
  image : α → List Byte
  /-- The element found in `size` bytes. -/
  ofImage : List Byte → α
  /-- `(const ModuleMessage *)elem`. -/
  asMessage : α → ModuleMessage
  /-- An element written through `(ModuleMessage *)out`. -/
  ofMessage : ModuleMessage → α
  /-- The element holds no pointer, so its bytes say everything about it. -/
  Plain : α → Prop
  length_image : ∀ a, (image a).length = size
  ofImage_image : ∀ a, Plain a → ofImage (image a) = a

/-- `QueueConfig`; `element` stands for `element_size` and the element type. -/
structure QueueConfig (α : Type) where
  name : String
  element : RowType α
  capacity : Nat
  threadSafe : Bool
  maxFileSize : Nat
  persistOnReboot : Bool

/-- `cfg->element_size`. -/
def QueueConfig.elementSize {α : Type} (cfg : QueueConfig α) : Nat := cfg.element.size

/-- `struct Queue` without its mutex; `buffer i` is slot `i`. -/
structure Queue (α : Type) where
  head : Nat
  tail : Nat
  count : Nat
  buffer : Nat → α
  fileSize : Nat
  fileReadOffset : Nat

/-- The flash files of the queue manager and of the pre-boot handler. -/
inductive FlashFile
  /-- `queue_<name>.dat`, the snapshot. -/
  | queueDat (name : String)
  /-- `queue_<name>_overflow.dat`. -/
  | queueOverflow (name : String)
  /-- `PRE_BOOT_INFO_FILE_PATH`. -/
  | preBootInfo
  deriving DecidableEq, Repr

end WalnutGateway
