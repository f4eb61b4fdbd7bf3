import WalnutGateway.Common.Text
import WalnutGateway.Core.Machine
import WalnutGateway.Core.XorEnvelope
import WalnutGateway.Gps.Packet

/-!
# Login packets

`login_packet_create` packs the cached IMEI, the versions and a session count into an envelope of
24 bytes. The cache of `device_utils.c` is filled from the modem or by hand; the count goes up
with each packet that is made.
-/

namespace WalnutGateway

/-! ## The IMEI cache -/

/-- `DEVICE_UTILS_IMEI_LENGTH`. -/
def deviceUtilsImeiLength : Nat := 15

/-- `IMEI_MAX_RETRIES`. -/
def imeiMaxRetries : Nat := 20

/-- What `wm_sdk_device_get_imei` answers. -/
inductive ImeiAnswer
  | notSupported
  | failed
  | imei (s : List Byte)

/-- The cached IMEI; `none` while it is not initialized. -/
abbrev ImeiCache := Option (List Byte)

/-- The IMEI that `device_utils_init` stores. -/
def storedImei : List Byte := asciiBytes "860056081830565"

/-- The attempts of `device_utils_init`: success, and the cache. -/
def imeiAttempts : List ImeiAnswer → ImeiCache → Bool × ImeiCache
  | [], cache => (false, cache)
  | .notSupported :: _, _ => (false, none)
  | .imei s :: rest, cache =>
    if deviceUtilsImeiLength ≤ s.length then (true, some storedImei) else imeiAttempts rest cache
  | .failed :: rest, cache => imeiAttempts rest cache

/-- `device_utils_init`. -/
def deviceUtilsInit (answers : List ImeiAnswer) (cache : ImeiCache) : Bool × ImeiCache :=
  if cache.isSome then (true, cache) else imeiAttempts (answers.take imeiMaxRetries) cache

/-- `device_utils_refresh_imei`. -/
def deviceUtilsRefreshImei (answers : List ImeiAnswer) : Bool × ImeiCache :=
  deviceUtilsInit answers none

/-- `device_utils_set_imei` of a string. -/
def deviceUtilsSetImei (imei : List Byte) (cache : ImeiCache) : Bool × ImeiCache :=
  if imei.length < deviceUtilsImeiLength ∨ deviceUtilsImeiLength + 1 ≤ imei.length then
    (false, cache)
  else (true, some imei)

/-- `device_utils_get_imei`. -/
def deviceUtilsGetImei (cache : ImeiCache) : Option (List Byte) :=
  cache.map (·.take deviceUtilsImeiLength)

/-! ## The packet -/

/-- `hex_char_to_val`: `0xFF` for no digit. -/
def hexCharToVal (c : Byte) : Byte :=
  if 0x30 ≤ c ∧ c ≤ 0x39 then c - 0x30
  else if 0x41 ≤ c ∧ c ≤ 0x46 then c - 0x41 + 10
  else if 0x61 ≤ c ∧ c ≤ 0x66 then c - 0x61 + 10
  else 0xFF

/-- Two digits a byte, for as long as there are two. -/
def packDigits : List Byte → Option (List Byte)
  | c :: c' :: rest =>
    if hexCharToVal c = 0xFF ∨ hexCharToVal c' = 0xFF then none
    else (packDigits rest).map ((hexCharToVal c <<< 4 ||| hexCharToVal c') :: ·)
  | _ => some []

/-- `convert_hex_string_to_bytes`. -/
def convertHexStringToBytes (hexStr : List Byte) (outputSize : Nat) : Option (List Byte) :=
  if outputSize < 2 then none
  else if hexStr.length < 4 then none
  else packDigits (hexStr.take (2 * outputSize))

/-- `imei_to_8bytes`. -/
def imeiTo8bytes (imei : List Byte) : Option (List Byte) :=
  if imei.length ≠ 15 ∧ imei.length ≠ 16 then none
  else if imei.length = 15 then
    match imei with
    | [] => none
    | c :: rest =>
      if hexCharToVal c = 0xFF then none else (packDigits rest).map (hexCharToVal c :: ·)
  else packDigits imei

/-- `write_version_field`. -/
def writeVersionField (version : List Byte) : List Byte :=
  if version.length < 4 then [0x00, 0x00]
  else
    match convertHexStringToBytes version 2 with
    | some [a, b] => [b, a]
    | _ => [0x00, 0x00]

/-- `FIRMWARE_VERSION`. -/
def firmwareVersion : List Byte := asciiBytes "0100"

/-- `HARDWARE_VERSION`. -/
def hardwareVersion : List Byte := asciiBytes "0106"

/-- The packet from its length field to the reserved bytes. -/
def loginPacketBody (imei8 : List Byte) (sessionCount : Nat) : List Byte :=
  [0x00, 0x12] ++ imei8 ++ writeVersionField firmwareVersion ++
    writeVersionField hardwareVersion ++
    [UInt8.ofNat (sessionCount % 256), UInt8.ofNat (sessionCount / 256 % 256)] ++ [0x00, 0x00]

/-- `login_packet_create` into a buffer of `bufferSize` bytes: the packet, unless 0 is returned, and
the session count. -/
def loginPacketCreate (bufferSize : Nat) (cache : ImeiCache) (sessionCount : Nat) :
    Option (List Byte) × Nat :=
  if bufferSize < 24 then (none, sessionCount)
  else
    match (deviceUtilsGetImei cache).bind imeiTo8bytes with
    | none => (none, sessionCount)
    | some imei8 =>
      let count := (sessionCount + 1) % 2 ^ 32
      let body := loginPacketBody imei8 count
      (some ([0x57, 0x45, 0x48] ++ body ++ [body.foldl (· ^^^ ·) 0] ++ [0x77, 0x65]), count)

/-! ## The device over its life -/

/-- The cache and the session count. -/
structure LoginState where
  cache : ImeiCache
  sessionCount : Nat

/-- What is done to them. -/
inductive LoginOp
  | init (answers : List ImeiAnswer)
  | refresh (answers : List ImeiAnswer)
  | set (imei : List Byte)
  | deinit
  /-- A packet is made in `g_login_packet_buffer`, which has room for a position behind it. -/
  | login

/-- The cache and the packets, which are the answers together with the IMEI they were made from. -/
def loginMachine : Machine LoginState LoginOp (Option (List Byte × List Byte)) where
  step s
    | .init answers => (none, { s with cache := (deviceUtilsInit answers s.cache).2 })
    | .refresh answers => (none, { s with cache := (deviceUtilsRefreshImei answers).2 })
    | .set imei => (none, { s with cache := (deviceUtilsSetImei imei s.cache).2 })
    | .deinit => (none, { s with cache := none })
    | .login =>
      let r := loginPacketCreate 79 s.cache s.sessionCount
      ((r.1.bind fun packet => (deviceUtilsGetImei s.cache).map (·, packet)),
        { s with sessionCount := r.2 })

/-! ## What a server reads -/

/-- The fields of a login packet. -/
structure LoginFields where
  /-- The digits of the IMEI, as numbers. -/
  imei : List Byte
  firmware : Nat
  hardware : Nat
  session : Nat
  deriving DecidableEq

/-- The envelope that a login packet is. -/
def IsLoginFrame (frame : List Byte) : Prop :=
  IsEnvelope [0x57, 0x45, 0x48] [0x77, 0x65] 18 frame

/-- The digits of packed bytes. -/
def unpackDigits (bs : List Byte) : List Byte := bs.flatMap fun b : Byte => [b >>> 4, b &&& 0x0F]

/-- The fields at their offsets. -/
def loginFields (frame : List Byte) : LoginFields where
  imei := (unpackDigits ((frame.drop 5).take 8)).drop 1
  firmware := leNat ((frame.drop 13).take 2)
  hardware := leNat ((frame.drop 15).take 2)
  session := leNat ((frame.drop 17).take 2)

/-! ## Digits -/

theorem hexCharToVal_lt (c : Byte) : hexCharToVal c ≠ 0xFF → hexCharToVal c < 16 := by
  apply forall_byte (P := fun c => hexCharToVal c ≠ 0xFF → hexCharToVal c < 16)
  decide +kernel

theorem unpackDigits_cons (b : Byte) (bs : List Byte) :
    unpackDigits (b :: bs) = (b >>> 4) :: (b &&& 0x0F) :: unpackDigits bs := rfl

/-- Two digits stand in one byte. -/
theorem halves_of_digits {a b : Byte} (ha : a < 16) (hb : b < 16) :
    (a <<< 4 ||| b) >>> 4 = a ∧ (a <<< 4 ||| b) &&& 0x0F = b := by
  have hall : ∀ n < 16, ∀ m < 16, (UInt8.ofNat n <<< 4 ||| UInt8.ofNat m) >>> 4 = UInt8.ofNat n ∧
      (UInt8.ofNat n <<< 4 ||| UInt8.ofNat m) &&& 0x0F = UInt8.ofNat m := by decide +kernel
  have := hall a.toNat (UInt8.lt_iff_toNat_lt.mp ha) b.toNat (UInt8.lt_iff_toNat_lt.mp hb)
  rwa [UInt8.ofNat_toNat, UInt8.ofNat_toNat] at this

/-- A digit that stands alone has a zero before it. -/
theorem halves_of_digit {b : Byte} (hb : b < 16) : b >>> 4 = 0 ∧ b &&& 0x0F = b := by
  have := halves_of_digits (a := 0) (by decide) hb
  simpa using this

/-- Digits of an even number are packed if all of them are digits, and read back. -/
theorem packDigits_spec (s : List Byte) (heven : s.length % 2 = 0) :
    (∀ bs ∈ packDigits s, bs.length = s.length / 2 ∧ unpackDigits bs = s.map hexCharToVal) ∧
      (packDigits s = none ↔ ∃ c ∈ s, hexCharToVal c = 0xFF) := by
  fun_induction packDigits s with
  | case1 c c' rest hdigit =>
    refine ⟨by simp, iff_of_true rfl ?_⟩
    rcases hdigit with h | h
    · exact ⟨c, List.mem_cons_self, h⟩
    · exact ⟨c', List.mem_cons_of_mem c List.mem_cons_self, h⟩
  | case2 c c' rest hdigits ih =>
    rw [not_or] at hdigits
    simp only [List.length_cons] at heven
    obtain ⟨hsome, hnone⟩ := ih (by omega)
    constructor
    · intro bs hbs
      obtain ⟨bytes, hbytes, rfl⟩ := Option.map_eq_some_iff.mp hbs
      obtain ⟨hlength, hread⟩ := hsome bytes hbytes
      obtain ⟨hhigh, hlow⟩ := halves_of_digits (hexCharToVal_lt c hdigits.1)
        (hexCharToVal_lt c' hdigits.2)
      rw [unpackDigits_cons, hhigh, hlow, hread]
      exact ⟨by simp only [List.length_cons]; omega, rfl⟩
    · rw [Option.map_eq_none_iff, hnone]
      simp [hdigits.1, hdigits.2]
  | case3 s hshort =>
    cases s with
    | nil => exact ⟨by simp [unpackDigits], by simp⟩
    | cons c s =>
      cases s with
      | nil => simp at heven
      | cons c' rest => exact absurd rfl (hshort c c' rest)

/-- An IMEI of 15 digits fills eight bytes. -/
theorem imeiTo8bytes_spec {imei : List Byte} (hlength : imei.length = 15) :
    (∀ bs ∈ imeiTo8bytes imei,
      bs.length = 8 ∧ (unpackDigits bs).drop 1 = imei.map hexCharToVal) ∧
      (imeiTo8bytes imei = none ↔ ∃ c ∈ imei, hexCharToVal c = 0xFF) := by
  unfold imeiTo8bytes
  rw [if_neg (by omega), if_pos hlength]
  cases imei with
  | nil => cases hlength
  | cons c rest =>
    rw [List.length_cons] at hlength
    obtain ⟨hsome, hnone⟩ := packDigits_spec rest (by omega)
    dsimp only
    by_cases hdigit : hexCharToVal c = 0xFF
    · rw [if_pos hdigit]
      exact ⟨by simp, iff_of_true rfl ⟨c, List.mem_cons_self, hdigit⟩⟩
    · rw [if_neg hdigit]
      constructor
      · intro bs hbs
        obtain ⟨bytes, hbytes, rfl⟩ := Option.map_eq_some_iff.mp hbs
        obtain ⟨hlength', hread⟩ := hsome bytes hbytes
        obtain ⟨-, hlow⟩ := halves_of_digit (hexCharToVal_lt c hdigit)
        rw [unpackDigits_cons, hlow, hread]
        exact ⟨by simp only [List.length_cons]; omega, rfl⟩
      · rw [Option.map_eq_none_iff, hnone]
        simp [hdigit]

/-! ## One packet -/

/-- The fields of a packet are those it was made from. -/
theorem loginFields_packet {imei8 : List Byte} (hlength : imei8.length = 8) (count : Nat) :
    loginFields ([0x57, 0x45, 0x48] ++ loginPacketBody imei8 count ++
        [(loginPacketBody imei8 count).foldl (· ^^^ ·) 0] ++ [0x77, 0x65]) =
      ⟨(unpackDigits imei8).drop 1, 0x0100, 0x0106, count % 65536⟩ := by
  have hfirmware : writeVersionField firmwareVersion = [0x00, 0x01] := by decide +kernel
  have hhardware : writeVersionField hardwareVersion = [0x06, 0x01] := by decide +kernel
  generalize hcheck : (loginPacketBody imei8 count).foldl (· ^^^ ·) 0 = check
  have hframe : [0x57, 0x45, 0x48] ++ loginPacketBody imei8 count ++ [check] ++ [0x77, 0x65] =
      [0x57, 0x45, 0x48, 0x00, 0x12] ++ (imei8 ++ ([0x00, 0x01, 0x06, 0x01,
        UInt8.ofNat (count % 256), UInt8.ofNat (count / 256 % 256), 0x00, 0x00, check, 0x77,
        0x65])) := by
    simp [loginPacketBody, hfirmware, hhardware]
  rw [hframe]
  have hdrop (n : Nat) (rest : List Byte) :
      ([0x57, 0x45, 0x48, 0x00, 0x12] ++ (imei8 ++ rest)).drop (13 + n) = rest.drop n := by
    have hall : ([0x57, 0x45, 0x48, 0x00, 0x12] ++ (imei8 ++ rest)).drop 13 = rest := by
      rw [← List.append_assoc]
      exact List.drop_left' (by simp [hlength])
    rw [← List.drop_drop, hall]
  simp only [loginFields, LoginFields.mk.injEq]
  refine ⟨?_, ?_, ?_, ?_⟩
  · have hdrop' (rest : List Byte) :
        ([0x57, 0x45, 0x48, 0x00, 0x12] ++ (imei8 ++ rest)).drop 5 = imei8 ++ rest := rfl
    rw [hdrop', List.take_left' hlength]
  · rw [hdrop 0]
    rfl
  · rw [hdrop 2]
    rfl
  · rw [hdrop 4]
    simp only [List.drop_succ_cons, List.drop_zero, List.take_succ_cons, List.take_zero, leNat,
      UInt8.toNat_ofNat']
    omega

/-- What a packet says: its envelope, the IMEI it was made from, the versions, and its number. -/
structure LoginSays (imei packet : List Byte) (count : Nat) : Prop where
  frame : IsLoginFrame packet
  fields : loginFields packet = ⟨imei.map hexCharToVal, 0x0100, 0x0106, count % 65536⟩

/-- A packet is made where an IMEI of digits is cached and the buffer has room; it takes the next
number, and no number is taken else. -/
theorem loginPacketCreate_cases {bufferSize : Nat} (hsize : 24 ≤ bufferSize) {cache : ImeiCache}
    (hcache : ∀ imei ∈ cache, imei.length = 15) (count : Nat) :
    (loginPacketCreate bufferSize cache count = (none, count) ∧
        ∀ imei ∈ cache, ∃ c ∈ imei, hexCharToVal c = 0xFF) ∨
      ∃ imei packet, cache = some imei ∧ (∀ c ∈ imei, hexCharToVal c ≠ 0xFF) ∧
        loginPacketCreate bufferSize cache count = (some packet, (count + 1) % 2 ^ 32) ∧
        LoginSays imei packet ((count + 1) % 2 ^ 32) := by
  unfold loginPacketCreate deviceUtilsGetImei
  rw [if_neg (by omega)]
  cases cache with
  | none => exact Or.inl ⟨rfl, by simp⟩
  | some imei =>
    have hlength := hcache imei rfl
    obtain ⟨hsome, hnone⟩ := imeiTo8bytes_spec hlength
    rw [Option.map_some, Option.bind_some, List.take_of_length_le (by rw [hlength]; rfl)]
    cases hpack : imeiTo8bytes imei with
    | none =>
      refine Or.inl ⟨rfl, fun imei' himei' => ?_⟩
      rw [← Option.mem_some_iff.mp himei']
      exact hnone.mp hpack
    | some imei8 =>
      obtain ⟨hlength8, hdigits⟩ := hsome imei8 hpack
      refine Or.inr ⟨imei, _, rfl, fun c hc hbad => ?_, rfl, ⟨_, ?_, rfl⟩, ?_⟩
      · rw [hnone.mpr ⟨c, hc, hbad⟩] at hpack
        cases hpack
      · have hversions : (writeVersionField firmwareVersion).length = 2 ∧
            (writeVersionField hardwareVersion).length = 2 := by decide +kernel
        simp [loginPacketBody, hlength8, hversions]
      · rw [loginFields_packet hlength8, hdigits]

/-! ## Whole runs -/

/-- An IMEI that is cached has its length, and comes from the modem's place or was set. -/
def LoginState.Sourced (s : LoginState) (set : List (List Byte)) : Prop :=
  ∀ imei ∈ s.cache, imei.length = 15 ∧ (imei = storedImei ∨ imei ∈ set)

/-- The IMEI that an operation sets. -/
def LoginOp.sets : LoginOp → List (List Byte)
  | .set imei => [imei]
  | _ => []

theorem imeiAttempts_cache (answers : List ImeiAnswer) (cache : ImeiCache) :
    (imeiAttempts answers cache).2 = cache ∨ (imeiAttempts answers cache).2 = none ∨
      (imeiAttempts answers cache).2 = some storedImei := by
  fun_induction imeiAttempts answers cache with
  | case1 cache => exact Or.inl rfl
  | case2 cache rest => exact Or.inr (Or.inl rfl)
  | case3 cache s rest hlong => exact Or.inr (Or.inr rfl)
  | case4 cache s rest hshort ih => exact ih
  | case5 cache rest ih => exact ih

theorem sourced_deviceUtilsInit {s : LoginState} {set : List (List Byte)} (hs : s.Sourced set)
    (answers : List ImeiAnswer) :
    LoginState.Sourced { s with cache := (deviceUtilsInit answers s.cache).2 } set := by
  intro imei himei
  dsimp only at himei
  unfold deviceUtilsInit at himei
  split at himei
  · exact hs imei himei
  · rcases imeiAttempts_cache (answers.take imeiMaxRetries) s.cache with h | h | h <;>
      rw [h] at himei
    · exact hs imei himei
    · cases himei
    · obtain rfl := Option.mem_some_iff.mp himei
      exact ⟨by decide, Or.inl rfl⟩

/-- What one operation does: it keeps the cache in order, and makes a packet that says what is
cached under the next number, or makes none and takes no number. -/
theorem loginMachine_step (s : LoginState) (op : LoginOp) {set : List (List Byte)}
    (hs : s.Sourced set) :
    (loginMachine.step s op).2.Sourced (set ++ op.sets) ∧
      (((loginMachine.step s op).1 = none ∧
          (loginMachine.step s op).2.sessionCount = s.sessionCount) ∨
        ∃ imei packet, (loginMachine.step s op).1 = some (imei, packet) ∧ s.cache = some imei ∧
          (loginMachine.step s op).2.sessionCount = (s.sessionCount + 1) % 2 ^ 32 ∧
          LoginSays imei packet ((s.sessionCount + 1) % 2 ^ 32)) := by
  cases op with
  | init answers =>
    simp only [LoginOp.sets, List.append_nil]
    exact ⟨sourced_deviceUtilsInit hs answers, Or.inl ⟨rfl, rfl⟩⟩
  | refresh answers =>
    simp only [LoginOp.sets, List.append_nil]
    refine ⟨?_, Or.inl ⟨rfl, rfl⟩⟩
    exact sourced_deviceUtilsInit (s := { s with cache := none }) (fun _ h => by cases h) answers
  | set imei =>
    refine ⟨fun imei' himei' => ?_, Or.inl ⟨rfl, rfl⟩⟩
    change imei' ∈ (deviceUtilsSetImei imei s.cache).2 at himei'
    unfold deviceUtilsSetImei at himei'
    have hfifteen : deviceUtilsImeiLength = 15 := rfl
    by_cases hwrong : imei.length < deviceUtilsImeiLength ∨ deviceUtilsImeiLength + 1 ≤ imei.length
    · rw [if_pos hwrong] at himei'
      obtain ⟨hlength, hsource⟩ := hs imei' himei'
      exact ⟨hlength, hsource.imp id (List.mem_append_left _)⟩
    · rw [if_neg hwrong] at himei'
      obtain rfl := Option.mem_some_iff.mp himei'
      exact ⟨by omega, Or.inr (List.mem_append_right _ List.mem_cons_self)⟩
  | deinit =>
    refine ⟨fun imei himei => ?_, Or.inl ⟨rfl, rfl⟩⟩
    cases himei
  | login =>
    simp only [LoginOp.sets, List.append_nil]
    refine ⟨hs, ?_⟩
    simp only [loginMachine]
    rcases loginPacketCreate_cases (by decide : 24 ≤ 79) (fun imei himei => (hs imei himei).1)
      s.sessionCount with ⟨hnone, -⟩ | ⟨imei, packet, hcache, -, hsome, hsays⟩
    · rw [hnone]
      exact Or.inl ⟨rfl, rfl⟩
    · refine Or.inr ⟨imei, packet, ?_, hcache, by rw [hsome], hsays⟩
      have hlength := (hs imei hcache).1
      rw [hsome, hcache, deviceUtilsGetImei, Option.bind_some, Option.map_some, Option.map_some,
        List.take_of_length_le (by rw [hlength]; rfl)]

/-- In every run the packets that are made carry the numbers one after the other, modulo 2^16,
whatever fails in between; each is an envelope whose fields are the versions and the IMEI that was
cached when it was made, and that is the fixed one, or one that was set by hand. -/
theorem login_packets_numbered {s : LoginState} {set : List (List Byte)} (hs : s.Sourced set)
    (ops : List LoginOp) :
    (((loginMachine.run s ops).1.filterMap id).map fun p => (loginFields p.2).session) =
        (List.range ((loginMachine.run s ops).1.filterMap id).length).map
          (fun k => (s.sessionCount + 1 + k) % 65536) ∧
      ∀ p ∈ (loginMachine.run s ops).1.filterMap id,
        (p.1 = storedImei ∨ p.1 ∈ set ++ ops.flatMap LoginOp.sets) ∧
          ∃ count, LoginSays p.1 p.2 count := by
  induction ops generalizing s set with
  | nil => exact ⟨rfl, by simp⟩
  | cons op ops ih =>
    obtain ⟨hnext, hstep⟩ := loginMachine_step s op hs
    obtain ⟨hnumbers, hpackets⟩ := ih hnext
    rw [List.append_assoc, ← List.flatMap_cons] at hpackets
    rcases hstep with ⟨hnone, hcount⟩ | ⟨imei, packet, hsome, hcache, hcount, hsays⟩
    · rw [hcount] at hnumbers
      simp only [Machine.run, hnone, List.filterMap_cons_none, id]
      exact ⟨hnumbers, hpackets⟩
    · simp only [Machine.run, hsome, List.filterMap_cons_some (f := id) rfl]
      refine ⟨?_, List.forall_mem_cons.mpr ⟨⟨?_, _, hsays⟩, hpackets⟩⟩
      · rw [List.map_cons, List.length_cons, List.range_succ_eq_map, List.map_cons, hnumbers,
          hsays.fields, List.map_map, hcount]
        congr 1
        · dsimp only
          omega
        · apply List.map_congr_left
          intro k _
          simp only [Function.comp_apply]
          omega
      · exact (hs imei hcache).2.imp id (List.mem_append_left _)

/-- The life of a device from its start: a login that comes too early, the modem, two logins. -/
def earlyLogin : List LoginOp := [.login, .init [.failed, .imei storedImei], .login, .login]

theorem login_packets_numbered_early :
    (((loginMachine.run ⟨none, 0⟩ earlyLogin).1.filterMap id).map
        fun p => (loginFields p.2).session) =
        (List.range ((loginMachine.run ⟨none, 0⟩ earlyLogin).1.filterMap id).length).map
          (fun k => (0 + 1 + k) % 65536) ∧
      ∀ p ∈ (loginMachine.run ⟨none, 0⟩ earlyLogin).1.filterMap id,
        (p.1 = storedImei ∨ p.1 ∈ [] ++ earlyLogin.flatMap LoginOp.sets) ∧
          ∃ count, LoginSays p.1 p.2 count :=
  have hnone : LoginState.Sourced ⟨none, 0⟩ [] := fun _ h => by cases h
  login_packets_numbered hnone earlyLogin

/-! ## Damage on the way -/

/-- No byte of a login packet or of a position packet can be changed alone without the packet
ceasing to be an envelope of its kind. -/
theorem packets_notice_change :
    (∀ bufferSize cache count packet, (∀ imei ∈ cache, imei.length = 15) →
      (loginPacketCreate bufferSize cache count).1 = some packet →
      ∀ i, ∀ hi : i < packet.length, ∀ b, b ≠ packet[i] → ¬ IsLoginFrame (packet.set i b)) ∧
    ∀ bufferSize env gps packet, gpsPacketCreate bufferSize env gps = some packet →
      ∀ i, ∀ hi : i < packet.length, ∀ b, b ≠ packet[i] →
        ¬ IsEnvelope [0x57, 0x45, 0x49] [0x77, 0x65] 49 (packet.set i b) := by
  constructor
  · intro bufferSize cache count packet hcache hpacket i hi b hb
    by_cases hsize : bufferSize < 24
    · rw [loginPacketCreate, if_pos hsize] at hpacket
      cases hpacket
    · rcases loginPacketCreate_cases (not_lt.mp hsize) hcache count with
        ⟨hnone, -⟩ | ⟨imei, packet', -, -, hsome, hsays⟩
      · rw [hnone] at hpacket
        cases hpacket
      · rw [hsome] at hpacket
        obtain rfl := Option.some.inj hpacket
        exact hsays.frame.not_set hi hb
  · intro bufferSize env gps packet hpacket i hi b hb
    have hframe : IsEnvelope [0x57, 0x45, 0x49] [0x77, 0x65] 49 packet := by
      unfold gpsPacketCreate at hpacket
      split at hpacket
      · cases hpacket
      · exact ⟨gpsPacketBody env gps, length_gpsPacketBody env gps, (Option.some.inj hpacket).symm⟩
    exact hframe.not_set hi hb

/-- The first packet of a device. -/
def firstLogin : List Byte :=
  [0x57, 0x45, 0x48, 0x00, 0x12, 0x08, 0x60, 0x05, 0x60, 0x81, 0x83, 0x05, 0x65, 0x00, 0x01, 0x06,
    0x01, 0x01, 0x00, 0x00, 0x00, 0x7A, 0x77, 0x65]

theorem packets_notice_change_imei : ¬ IsLoginFrame (firstLogin.set 12 0x66) :=
  packets_notice_change.1 79 (some storedImei) 0 firstLogin
    (fun imei himei => by rw [← Option.mem_some_iff.mp himei]; decide) (by decide +kernel) 12
    (by decide) 0x66 (by decide)

end WalnutGateway
