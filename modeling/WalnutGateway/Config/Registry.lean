import WalnutGateway.Config.Modules

/-!
# The configurations with floating-point numbers

The GPS and the system configuration hold `float` fields that their checks compare. A
comparison of two floats is one of their bits, so the checks run on bytes like the
others.
-/

namespace WalnutGateway

/-! ## Floats -/

/-- The bits of a `float` are not a number. -/
def floatIsNan (bits : Nat) : Bool := bits % 2 ^ 31 > 0x7F800000

/-- The place of a `float` among the others, in the order of its values. -/
def floatOrder (bits : Nat) : Int := if bits < 2 ^ 31 then bits else -((bits : Int) - 2 ^ 31)

/-- `a >= b` on `float`. -/
def floatGe (a b : Nat) : Bool := ! floatIsNan a && ! floatIsNan b && floatOrder b ≤ floatOrder a

/-- `a < b` on `float`. -/
def floatLt (a b : Nat) : Bool := ! floatIsNan a && ! floatIsNan b && floatOrder a < floatOrder b

/-! ## GPS -/

/-- `gps_config_get_defaults`, with the bits of the floats. -/
def gpsConfigDefaults : List (Option Byte) :=
  defaultWord 4 10 ++ defaultWord 4 30 ++ defaultWord 4 0x41A00000 ++ defaultWord 4 0x42480000 ++
    [some 1, some 1, some 1, some 0] ++ defaultWord 4 0 ++ [some 1, some 0, some 1, none] ++
    defaultWord 4 0 ++ defaultWord 4 0x40A00000

/-- `gps_config_validate`. -/
def gpsConfigValidate (block : List Byte) : Bool :=
  let word offset := leNat (field block offset 4)
  ! (uint32ToInt32 (word 0) ≤ 0 || uint32ToInt32 (word 4) ≤ 0) &&
    ! (floatLt (word 8) 0 || floatLt 0x43340000 (word 8)) && ! floatLt (word 12) 0 &&
    ! (word 20 != 0 && word 20 != 1 && word 20 != 2) &&
    ! (word 28 != 0 && word 28 != 1 && word 28 != 2) && ! floatLt (word 32) 0

/-- `sizeof(GpsConfig)` fits an `int`. -/
theorem gpsConfigSize_lt : 36 < 2 ^ 31 := by decide

/-- The configuration of `g_module_gps`. -/
def gpsModule : ModuleConfig where
  name := asciiBytes "GPS Manager"
  defaults := gpsConfigDefaults
  configValidateFn := some gpsConfigValidate
  configPtr := true
  configSize := 36
  configStored := true
  length_defaults := by decide +kernel
  length_name := by decide +kernel
  name_ne_zero := by decide +kernel
  configSize_lt := gpsConfigSize_lt

/-! ## System -/

/-- The offset of the field for an index of `system_config_set` in `SystemConfig`. -/
def systemFieldOffset : Nat → Nat
  | 0 => 0
  | 1 => 4
  | 2 => 8
  | 3 => 12
  | 4 => 16
  | 5 => 20
  | 6 => 24
  | 7 => 28
  | 8 => 32
  | 9 => 36
  | 10 => 40
  | 11 => 44
  | 12 => 48
  | 13 => 53
  | 14 => 54
  | 15 => 55
  | _ => 52

/-- `system_config_get_defaults`, with the bits of the floats. -/
def systemConfigDefaults : List (Option Byte) :=
  defaultWord 4 0 ++ defaultWord 4 0x40A00000 ++ defaultWord 4 0x409CCCCD ++
    defaultWord 4 0x414B3333 ++ defaultWord 4 0x41700000 ++ [some 5] ++ List.replicate 3 none ++
    defaultWord 4 0 ++ defaultWord 4 4 ++ defaultWord 4 0x40A00000 ++ defaultWord 4 0x43480000 ++
    defaultWord 4 0x3D4CCCCD ++ defaultWord 4 2000 ++ defaultWord 4 5 ++
    [some 0, some 0, some 1, some 0]

/-- `system_config_validate`. -/
def systemConfigValidate (block : List Byte) : Bool :=
  let word i := leNat (field block (systemFieldOffset i) 4)
  ! floatGe (word 2) (word 1) && ! floatGe (word 3) (word 4) &&
    ! leNat (field block (systemFieldOffset 5) 1) == 0 &&
    ! (floatLt (word 8) 0 || floatLt (word 9) 0 || floatLt (word 10) 0) &&
    ! (word 11 == 0 || word 12 == 0)

/-- The configuration of `g_module_system`. -/
def systemModule : ModuleConfig where
  name := asciiBytes "System Manager"
  defaults := systemConfigDefaults
  configValidateFn := some systemConfigValidate
  configPtr := true
  configSize := 56
  configStored := true
  length_defaults := by decide +kernel
  length_name := by decide +kernel
  name_ne_zero := by decide +kernel
  configSize_lt := by decide

/-- The registry with all its modules; no name is there twice. -/
def walnutModules : List ModuleConfig := gModules gpsModule systemModule

theorem nodup_walnutModules : (walnutModules.map ModuleConfig.name).Nodup := by
  decide +kernel

end WalnutGateway
