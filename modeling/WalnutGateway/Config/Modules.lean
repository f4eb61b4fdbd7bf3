import WalnutGateway.Common.Text
import WalnutGateway.Config.File

/-!
# The configurations of the modules

The structures that are kept in the file, as they lie in memory: where each field
is, what the defaults write, and what the check of the module looks at. A string
function that starts in a field runs on over the bytes behind it until it finds a
NUL.
-/

namespace WalnutGateway

/-- A field of a structure: `width` bytes from `offset` on. -/
def field (block : List Byte) (offset width : Nat) : List Byte := (block.drop offset).take width

/-- An assignment to the field that starts at `offset`. -/
def setField (block : List Byte) (offset : Nat) (bytes : List Byte) : List Byte :=
  block.take offset ++ bytes ++ block.drop (offset + bytes.length)

/-- The string that starts at `offset`, as far as the structure goes. -/
def fieldString (block : List Byte) (offset : Nat) : List Byte := cString (block.drop offset)

/-- `utils_strncpy_safe` of a literal into an array of `n` bytes. -/
def defaultString (n : Nat) (s : String) : List (Option Byte) :=
  (utilsStrncpySafe n (asciiBytes s)).toList.map some

/-- A word that the defaults write. -/
def defaultWord (width n : Nat) : List (Option Byte) := (leBytes width n).map some

/-! ## Command -/

/-- The offset of `auth_password` in `CommandConfig`, behind `auth_enable`. -/
def authPasswordOffset : Nat := 1

/-- `sizeof(auth_password)`. -/
def authPasswordSize : Nat := 32

/-- `command_config_get_defaults`. -/
def commandConfigDefaults : List (Option Byte) :=
  some 1 :: defaultString authPasswordSize "WEWARE2024" ++ [some 0, some 20, some 1]

/-- `command_config_validate`. -/
def commandConfigValidate (block : List Byte) : Bool :=
  let n := (fieldString block authPasswordOffset).length
  ¬ (n = 0 ∨ n ≥ authPasswordSize)

/-- The configuration of `g_module_cmd`. -/
def commandModule : ModuleConfig where
  name := asciiBytes "Command Manager"
  defaults := commandConfigDefaults
  configValidateFn := some commandConfigValidate
  configPtr := true
  configSize := 36
  configStored := true
  length_defaults := by decide +kernel
  length_name := by decide +kernel
  name_ne_zero := by decide +kernel
  configSize_lt := by decide

/-! ## Network -/

/-- The offset of `username` in `NetworkConfig`, behind `apn`. -/
def usernameOffset : Nat := 32

/-- The offset of `password` in `NetworkConfig`. -/
def passwordOffset : Nat := 64

/-- `network_config_get_defaults`; the last three bytes are padding. -/
def networkConfigDefaults : List (Option Byte) :=
  defaultString 32 "wheelseye.com" ++ defaultString 32 "" ++ defaultString 32 "" ++
    defaultWord 4 1 ++ [some 1] ++ List.replicate 3 none

/-- `network_config_validate`. -/
def networkConfigValidate (block : List Byte) : Bool := ¬ (fieldString block 0).length = 0

/-- The configuration of `g_module_network`. -/
def networkModule : ModuleConfig where
  name := asciiBytes "Network Manager"
  defaults := networkConfigDefaults
  configValidateFn := some networkConfigValidate
  configPtr := true
  configSize := 104
  configStored := true
  length_defaults := by decide +kernel
  length_name := by decide +kernel
  name_ne_zero := by decide +kernel
  configSize_lt := by decide

/-! ## TCP -/

/-- `sizeof(server_ip)`; the field is the first of `WewareTcpConfig`. -/
def serverIpSize : Nat := 64

/-- `weware_tcp_config_get_defaults`, which clears the structure first. -/
def wewareTcpConfigDefaults : List (Option Byte) :=
  defaultString serverIpSize "13.126.118.139" ++ defaultWord 2 9616 ++ defaultWord 2 0 ++
    defaultWord 4 30000 ++ defaultWord 4 5000 ++ defaultWord 4 10000 ++
    [some 0, some 1, some 0, some 0]

/-- `isalnum` of the C locale. -/
def isAlnum (c : Byte) : Bool :=
  (0x30 ≤ c ∧ c ≤ 0x39) ∨ (0x41 ≤ c ∧ c ≤ 0x5A) ∨ (0x61 ≤ c ∧ c ≤ 0x7A)

/-- `tcp_config_host_is_valid` on a string. -/
def tcpConfigHostIsValid (host : List Byte) : Bool :=
  ¬ (host.length = 0 ∨ host.length ≥ serverIpSize) ∧
    host.all fun c => isAlnum c || c == 0x2E || c == 0x2D

/-- `tcp_config_port_is_valid`. -/
def tcpConfigPortIsValid (port : Int) : Bool := 1 ≤ port ∧ port ≤ 65535

/-- `weware_tcp_config_validate`. -/
def wewareTcpConfigValidate (block : List Byte) : Bool :=
  tcpConfigHostIsValid (fieldString block 0) &&
    tcpConfigPortIsValid (leNat (field block 64 2)) &&
    ! (leNat (field block 68 4) == 0 || leNat (field block 72 4) == 0 ||
      leNat (field block 76 4) == 0)

/-- The configuration of `g_module_tcp`. -/
def tcpModule : ModuleConfig where
  name := asciiBytes "TCP Client"
  defaults := wewareTcpConfigDefaults
  configValidateFn := some wewareTcpConfigValidate
  configPtr := true
  configSize := 84
  configStored := true
  length_defaults := by decide +kernel
  length_name := by decide +kernel
  name_ne_zero := by decide +kernel
  configSize_lt := by decide

/-! ## SMS -/

/-- `sms_config_get_defaults`. -/
def smsConfigDefaults : List (Option Byte) := defaultWord 4 1 ++ defaultWord 4 500

/-- `sms_config_validate`. -/
def smsConfigValidate (block : List Byte) : Bool :=
  let formatMode := leNat (field block 0 4)
  let urcTimeoutMs := leNat (field block 4 4)
  ¬ (formatMode ≠ 0 ∧ formatMode ≠ 1) ∧ ¬ (urcTimeoutMs = 0 ∨ urcTimeoutMs > 10000)

/-- The configuration of `g_module_sms`. -/
def smsModule : ModuleConfig where
  name := asciiBytes "SMS Manager"
  defaults := smsConfigDefaults
  configValidateFn := some smsConfigValidate
  configPtr := true
  configSize := 8
  configStored := true
  length_defaults := by decide +kernel
  length_name := by decide +kernel
  name_ne_zero := by decide +kernel
  configSize_lt := by decide

/-! ## The other slots -/

/-- The configuration of `g_module_log`, which is not kept in the file. -/
def logModule : ModuleConfig where
  name := asciiBytes "Log Manager"
  defaults := defaultWord 4 0
  configValidateFn := some fun block => leNat (field block 0 4) ≤ 1
  configPtr := true
  configSize := 4
  configStored := false
  length_defaults := by decide +kernel
  length_name := by decide +kernel
  name_ne_zero := by decide +kernel
  configSize_lt := by decide

/-- A module that has no configuration. -/
def plainModule (name : List Byte) (hlength : name.length < moduleNameMaxSize)
    (hzero : ∀ b ∈ name, b ≠ 0) : ModuleConfig where
  name := name
  defaults := []
  configValidateFn := none
  configPtr := false
  configSize := 0
  configStored := false
  length_defaults := rfl
  length_name := hlength
  name_ne_zero := hzero
  configSize_lt := by decide

/-- `g_modules` without its `NULL` slot; the checks of the GPS and the system
configuration compare floating-point numbers and are left open. -/
def gModules (gps system : ModuleConfig) : List ModuleConfig :=
  [logModule,
    plainModule (asciiBytes "UART Manager") (by decide +kernel) (by decide +kernel),
    commandModule,
    plainModule (asciiBytes "URC Processor") (by decide +kernel) (by decide +kernel),
    plainModule (asciiBytes "SIM Manager") (by decide +kernel) (by decide +kernel),
    networkModule, tcpModule, gps, smsModule,
    plainModule (asciiBytes "BLE Manager") (by decide +kernel) (by decide +kernel),
    system]

end WalnutGateway
