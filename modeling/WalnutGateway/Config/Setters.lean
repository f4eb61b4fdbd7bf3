import WalnutGateway.Config.Registry
import WalnutGateway.Config.Strings

/-!
# The set functions of the modules

Each `SET-*-CONFIG` command has a function of its own that takes a configuration
string apart, stages the values and puts them into the block if all of them are
accepted. The network, command and system functions then save the file.
-/

namespace WalnutGateway

/-- What a set function returns, the block it leaves, and whether it calls
`config_save_to_file`. -/
structure SetReply where
  result : Result
  block : List Byte
  saves : Bool
  deriving DecidableEq

/-! ## TCP -/

/-- `WEWARE_TCP_CONFIG_STRING_MAX`. -/
def wewareTcpConfigStringMax : Nat := 192

/-- `tcp_config_parse_bool`. -/
def tcpConfigParseBool (value : List Byte) : Option Byte :=
  if value ∈ ["1", "true", "TRUE", "True"].map asciiBytes then some 1
  else if value ∈ ["0", "false", "FALSE", "False"].map asciiBytes then some 0
  else none

/-- `tcp_config_parse_timeout`. -/
def tcpConfigParseTimeout (value : List Byte) : Option Nat :=
  match strtoul value with
  | some (parsed, []) => if parsed = 0 ∨ parsed > uint32Max then none else some parsed
  | _ => none

/-- `tcp_config_trim`. -/
def tcpConfigTrim (s : List Byte) : List Byte := trim isspace s

/-- The branches of `weware_tcp_config_set` for a key. -/
def wewareTcpConfigApply (key value staged : List Byte) : Option (List Byte) :=
  if key = asciiBytes "ip" then
    if tcpConfigHostIsValid value then some (setField staged 0 (value ++ [0])) else none
  else if key = asciiBytes "port" then
    if tcpConfigPortIsValid (atol value) then
      some (setField staged 64 (leBytes 2 (atol value).toNat))
    else none
  else if key = asciiBytes "conn-to" then
    (tcpConfigParseTimeout value).map fun n => setField staged 68 (leBytes 4 n)
  else if key = asciiBytes "send-to" then
    (tcpConfigParseTimeout value).map fun n => setField staged 72 (leBytes 4 n)
  else if key = asciiBytes "retry" then
    (tcpConfigParseTimeout value).map fun n => setField staged 76 (leBytes 4 n)
  else if key = asciiBytes "loginwithgps" then
    (tcpConfigParseBool value).map fun b => setField staged 80 [b]
  else if key = asciiBytes "live-first" then
    (tcpConfigParseBool value).map fun b => setField staged 81 [b]
  else none

/-- The loop of `weware_tcp_config_set` over the pieces between the commas. -/
def wewareTcpConfigStage : List (List Byte) → List Byte → Option (List Byte)
  | [], staged => some staged
  | token :: tokens, staged =>
    let entry := tcpConfigTrim token
    if entry = [] then wewareTcpConfigStage tokens staged
    else if colon ∉ entry then none
    else
      let key := tcpConfigTrim (entry.takeWhile (· != colon))
      let value := tcpConfigTrim ((entry.dropWhile (· != colon)).drop 1)
      (wewareTcpConfigApply key value staged).bind (wewareTcpConfigStage tokens)

/-- `weware_tcp_config_set`, which does not save. -/
def wewareTcpConfigSet (config configString : List Byte) : SetReply :=
  let s := cString configString
  if s.length ≥ wewareTcpConfigStringMax then ⟨.invalidParam, config, false⟩ else
  match wewareTcpConfigStage (s.splitOn comma) config with
  | none => ⟨.invalidParam, config, false⟩
  | some staged =>
    if wewareTcpConfigValidate staged then ⟨.success, staged, false⟩
    else ⟨.invalidParam, config, false⟩

/-! ## Network and command -/

/-- The loop over the tokens of `network_config_set` and `command_config_set`: tokens
without a key are skipped, and `parsedAny` says that there was one with a key. -/
def stageKeyed {σ : Type} (table : List (String × Nat)) (stage : Nat → List Byte → σ → Option σ) :
    List (List Byte) → Bool → σ → Option (Bool × σ)
  | [], parsedAny, temp => some (parsedAny, temp)
  | t :: tokens, parsedAny, temp =>
    let token := utilsTrimWhitespace t
    match utilsConfigParseKey token 32 with
    | none => stageKeyed table stage tokens parsedAny temp
    | some key =>
      match utilsConfigKeyToIndex key table with
      | none => none
      | some index =>
        (stage index (utilsExtractConfigValue token) temp).bind (stageKeyed table stage tokens true)

/-- `s_net_cfg_keys`. -/
def sNetCfgKeys : List (String × Nat) :=
  [("apn", 0), ("user", 1), ("pass", 2), ("cid", 3), ("auto", 4)]

/-- The temporary values of `network_config_set`. -/
structure NetworkTemp where
  apn : CArray 32
  username : CArray 32
  password : CArray 32
  cid : Nat
  autoConnect : List Byte

/-- The values before the first token. -/
def NetworkTemp.ofConfig (config : List Byte) : NetworkTemp where
  apn := utilsStrncpySafe 32 (config.drop 0)
  username := utilsStrncpySafe 32 (config.drop usernameOffset)
  password := utilsStrncpySafe 32 (config.drop passwordOffset)
  cid := leNat (field config 96 4)
  autoConnect := field config 100 1

/-- The branches of `network_config_set`. -/
def networkConfigStage (index : Nat) (value : List Byte) (temp : NetworkTemp) :
    Option NetworkTemp :=
  match index with
  | 0 =>
    if value.length = 0 ∨ value.length ≥ 32 then none
    else some { temp with apn := utilsStrncpySafe 32 value }
  | 1 =>
    if value.length ≥ 32 then none else some { temp with username := utilsStrncpySafe 32 value }
  | 2 =>
    if value.length ≥ 32 then none else some { temp with password := utilsStrncpySafe 32 value }
  | 3 =>
    if atol value < 1 ∨ atol value > 16 then none
    else some { temp with cid := (atol value).toNat }
  | 4 => (parseBool value).map fun b => { temp with autoConnect := [b] }
  | _ => some temp

/-- The second pass of `network_config_set`. -/
def NetworkTemp.update (temp : NetworkTemp) (config : List Byte) : List Byte :=
  let config := setField config 0 (utilsStrncpySafe 32 temp.apn.toList).toList
  let config := setField config usernameOffset (utilsStrncpySafe 32 temp.username.toList).toList
  let config := setField config passwordOffset (utilsStrncpySafe 32 temp.password.toList).toList
  let config := setField config 96 (leBytes 4 temp.cid)
  setField config 100 temp.autoConnect

/-- `network_config_set`. -/
def networkConfigSet (alloc : Bool) (config configString : List Byte) : SetReply :=
  match utilsStrdupForTokenization alloc configString with
  | none => ⟨.invalidParam, config, false⟩
  | some copy =>
    match stageKeyed sNetCfgKeys networkConfigStage (strtokTokens (· == comma) copy) false
        (.ofConfig config) with
    | some (true, temp) => ⟨.success, temp.update config, true⟩
    | _ => ⟨.invalidParam, config, false⟩

/-- `s_cmd_cfg_keys`. -/
def sCmdCfgKeys : List (String × Nat) :=
  [("auth-en", 0), ("pass", 1), ("min-csq", 2), ("adoc-net-task", 3)]

/-- The offset of `min_csq_threshold` in `CommandConfig`. -/
def minCsqThresholdOffset : Nat := 34

/-- The offset of `adoc_net_task_flag` in `CommandConfig`. -/
def adocNetTaskFlagOffset : Nat := 35

/-- The temporary values of `command_config_set`. -/
structure CommandTemp where
  authEnable : List Byte
  authPassword : CArray authPasswordSize
  minCsq : List Byte
  adocNetTaskFlag : List Byte

/-- The values before the first token. -/
def CommandTemp.ofConfig (config : List Byte) : CommandTemp where
  authEnable := field config 0 1
  authPassword := utilsStrncpySafe authPasswordSize (config.drop authPasswordOffset)
  minCsq := field config minCsqThresholdOffset 1
  adocNetTaskFlag := field config adocNetTaskFlagOffset 1

/-- The branches of `command_config_set`. -/
def commandConfigStage (index : Nat) (value : List Byte) (temp : CommandTemp) :
    Option CommandTemp :=
  match index with
  | 0 => (parseBool value).map fun b => { temp with authEnable := [b] }
  | 1 =>
    if value.length = 0 ∨ value.length ≥ authPasswordSize then none
    else some { temp with authPassword := utilsStrncpySafe authPasswordSize value }
  | 2 =>
    match strtol value with
    | some (v, []) => if v < 0 ∨ v > 31 then none else some { temp with minCsq := [intByte v] }
    | _ => none
  | 3 => (parseBool value).map fun b => { temp with adocNetTaskFlag := [b] }
  | _ => some temp

/-- The update at the end of `command_config_set`. -/
def CommandTemp.update (temp : CommandTemp) (config : List Byte) : List Byte :=
  let config := setField config 0 temp.authEnable
  let config := setField config authPasswordOffset
    (utilsStrncpySafe authPasswordSize temp.authPassword.toList).toList
  let config := setField config minCsqThresholdOffset temp.minCsq
  setField config adocNetTaskFlagOffset temp.adocNetTaskFlag

/-- `command_config_set`. -/
def commandConfigSet (alloc : Bool) (config configString : List Byte) : SetReply :=
  if (cString configString).length = 0 then ⟨.invalidParam, config, false⟩ else
  match utilsStrdupForTokenization alloc configString with
  | none => ⟨.error, config, false⟩
  | some copy =>
    match stageKeyed sCmdCfgKeys commandConfigStage (strtokTokens (· == comma) copy) false
        (.ofConfig config) with
    | some (true, temp) => ⟨.success, temp.update config, true⟩
    | _ => ⟨.invalidParam, config, false⟩

/-! ## System -/

/-- `s_sys_cfg_keys`. -/
def sSysCfgKeys : List (String × Nat) :=
  [("ign-src", 0), ("is", 0), ("wire-on-v", 1), ("wo", 1), ("wire-off-v", 2), ("wf", 2),
    ("soft-lo-v", 3), ("sl", 3), ("soft-hi-v", 4), ("sh", 4), ("deb", 5), ("d", 5),
    ("mot-src", 6), ("ms", 6), ("mot-method", 7), ("mm", 7),
    ("mot-spd-kmh", 8), ("mot-spd", 8), ("sp", 8), ("mot-dist-m", 9), ("mot-dist", 9), ("di", 9),
    ("accel-g", 10), ("ag", 10), ("accel-dur-ms", 11), ("ad", 11), ("mot-stop-sec", 12), ("st", 12),
    ("mot-spd-en", 13), ("se", 13), ("mot-dist-en", 14), ("de", 14), ("accel-en", 15), ("ae", 15),
    ("mot-spd-calc", 16), ("sc", 16)]

/-- `parse_enum_digit`. -/
def parseEnumDigit (s : List Byte) (maxInclusive : Int) : Option Nat :=
  match strtol s with
  | some (v, []) => if v < 0 ∨ v > maxInclusive then none else some v.toNat
  | _ => none

/-- An enumerator given by its number or by one of its names. -/
def parseEnum (maxInclusive : Int) (names : List (String × Nat)) (s : List Byte) : Option Nat :=
  (parseEnumDigit s maxInclusive).or (utilsConfigKeyToIndex s names)

/-- `parse_ign_src`. -/
def parseIgnSrc : List Byte → Option Nat :=
  parseEnum 1 [("WIRE", 0), ("W", 0), ("SOFT", 1), ("S", 1)]

/-- `parse_mot_src`. -/
def parseMotSrc : List Byte → Option Nat := parseEnum 1 [("IGN", 0), ("IGNITION", 0), ("SOFT", 1)]

/-- `parse_mot_method`. -/
def parseMotMethod : List Byte → Option Nat :=
  parseEnum 4 [("GNSS_SPEED", 0), ("GNSS", 0), ("ACCEL", 1), ("GPS_DIST", 2), ("DIST", 2),
    ("TRIP", 3), ("ANY", 4)]

/-- `strtof` of the C library: the bits of the number and the text behind it, `none`
where `*end` is the start. -/
abbrev Strtof := List Byte → Option (Nat × List Byte)

/-- The bytes that the branches of `system_config_set` put into the field of an index. -/
def systemConfigValue (strtof : Strtof) (index : Nat) (value : List Byte) : Option (List Byte) :=
  match index with
  | 0 => (parseIgnSrc value).map (leBytes 4)
  | 1 | 2 | 3 | 4 =>
    match strtof value with
    | some (v, []) => some (leBytes 4 v)
    | _ => none
  | 5 =>
    match strtol value with
    | some (v, []) => if v ≤ 0 ∨ v > 255 then none else some [intByte v]
    | _ => none
  | 6 => (parseMotSrc value).map (leBytes 4)
  | 7 => (parseMotMethod value).map (leBytes 4)
  | 8 | 9 | 10 =>
    match strtof value with
    | some (v, []) => if floatLt v 0 then none else some (leBytes 4 v)
    | _ => none
  | 11 | 12 =>
    match strtoul value with
    | some (v, []) => if v = 0 then none else some (leBytes 4 v)
    | _ => none
  | _ => (parseBool value).map fun b => [b]

/-- The switch of `system_config_set`; an index behind the last is ignored. -/
def systemConfigStage (strtof : Strtof) (index : Nat) (value temp : List Byte) :
    Option (List Byte) :=
  if index > 16 then some temp
  else (systemConfigValue strtof index value).map (setField temp (systemFieldOffset index))

/-- The index a token is for: that of its key, or its place in the string. -/
def systemConfigIndex (token : List Byte) (paramIndex : Nat) : Option Nat :=
  if colon ∉ token then some paramIndex
  else
    let key := token.takeWhile (· != colon)
    if key.length = 0 ∨ key.length ≥ 32 then none else utilsConfigKeyToIndex key sSysCfgKeys

/-- The loop of `system_config_set`, with `param_index`. -/
def systemConfigTokens (strtof : Strtof) :
    List (List Byte) → Nat → List Byte → Option (Nat × List Byte)
  | [], paramIndex, temp => some (paramIndex, temp)
  | t :: tokens, paramIndex, temp =>
    let token := utilsTrimWhitespace t
    (systemConfigIndex token paramIndex).bind fun index =>
      (systemConfigStage strtof index (utilsExtractConfigValue token) temp).bind
        (systemConfigTokens strtof tokens (paramIndex + 1))

/-- `system_config_set`; a string of commas alone is a success that saves nothing. -/
def systemConfigSet (strtof : Strtof) (alloc : Bool) (config configString : List Byte) : SetReply :=
  if (cString configString).length = 0 then ⟨.invalidParam, config, false⟩ else
  match utilsStrdupForTokenization alloc configString with
  | none => ⟨.error, config, false⟩
  | some copy =>
    match systemConfigTokens strtof (strtokTokens (· == comma) copy) 0 config with
    | none => ⟨.invalidParam, config, false⟩
    | some (0, _) => ⟨.success, config, false⟩
    | some (_, temp) =>
      if systemConfigValidate temp then ⟨.success, temp, true⟩ else ⟨.invalidParam, config, false⟩

/-! ## Fields and assignments -/

section Fields

variable {block bytes : List Byte} {offset width : Nat}

theorem length_setField (h : offset + bytes.length ≤ block.length) :
    (setField block offset bytes).length = block.length := by
  simp only [setField, List.length_append, List.length_take, List.length_drop]
  omega

theorem length_field (h : offset + width ≤ block.length) :
    (field block offset width).length = width := by
  simp only [field, List.length_take, List.length_drop]
  omega

/-- The field that was assigned holds what it was given. -/
theorem field_setField (h : offset ≤ block.length) :
    field (setField block offset bytes) offset bytes.length = bytes := by
  have hlen : (block.take offset).length = offset := List.length_take_of_le h
  rw [setField, field, List.append_assoc, List.drop_left' hlen, List.take_left]

/-- A field before the one that is assigned stays. -/
theorem field_setField_of_le {offset' : Nat} (h : offset + width ≤ offset')
    (hlen : offset' ≤ block.length) :
    field (setField block offset' bytes) offset width = field block offset width := by
  have htake : (block.take offset').length = offset' := List.length_take_of_le hlen
  have hnew : block.take offset' <+: setField block offset' bytes := by
    rw [setField, List.append_assoc]
    exact List.prefix_append _ _
  rw [field_eq_of_extends hnew (by omega),
    field_eq_of_extends (List.take_prefix offset' block) (by omega)]

/-- What follows the NUL of a string does not count. -/
theorem cString_append_of_mem {bs : List Byte} (h : 0 ∈ bs) (tail : List Byte) :
    cString (bs ++ tail) = cString bs := by
  induction bs with
  | nil => cases h
  | cons b bs ih =>
    by_cases hb : b = 0
    · subst hb
      rfl
    · have hmem : 0 ∈ bs := by
        rcases List.mem_cons.mp h with h | h
        · exact absurd h.symm hb
        · exact h
      have hrest := ih hmem
      unfold cString at hrest ⊢
      rw [List.cons_append, List.takeWhile_cons_of_pos (by simpa using hb),
        List.takeWhile_cons_of_pos (by simpa using hb), hrest]

/-- A field with a NUL holds its string. -/
theorem fieldString_eq (h : 0 ∈ field block offset width) :
    fieldString block offset = cString (field block offset width) := by
  have hsplit := List.take_append_drop width (block.drop offset)
  rw [fieldString, ← hsplit]
  exact cString_append_of_mem h _

theorem length_toList {n : Nat} (a : CArray n) : a.toList.length = n := List.Vector.toList_length a

/-- A safe copy ends with a NUL. -/
theorem zero_mem_utilsStrncpySafe {n : Nat} (hn : 0 < n) (src : List Byte) :
    0 ∈ (utilsStrncpySafe n src).toList := by
  change 0 ∈ memRead ((cString src).take (n - 1)) n
  have hlen : ((cString src).take (n - 1)).length < n := by
    rw [List.length_take]
    omega
  rw [memRead, List.mem_append]
  right
  rw [List.mem_replicate]
  exact ⟨by omega, rfl⟩

/-- A block of a given size whose field from `offset` on holds a string, with its NUL. -/
structure HoldsString (size offset width : Nat) (s block : List Byte) : Prop where
  length : block.length = size
  terminated : 0 ∈ field block offset width
  string : fieldString block offset = s

/-- A string that is assigned to its field is there. -/
theorem holdsString_setField {size : Nat} (hwidth : 0 < width) (hlen : block.length = size)
    (hfit : offset + width ≤ size) (src : List Byte) :
    HoldsString size offset width ((cString src).take (width - 1))
      (setField block offset (utilsStrncpySafe width src).toList) := by
  have hbytes : (utilsStrncpySafe width src).toList.length = width := length_toList _
  have hfield : field (setField block offset (utilsStrncpySafe width src).toList) offset
      (utilsStrncpySafe width src).toList.length = (utilsStrncpySafe width src).toList :=
    field_setField (by omega)
  rw [hbytes] at hfield
  have hzero := zero_mem_utilsStrncpySafe hwidth src
  constructor
  · rw [length_setField (by omega), hlen]
  · rwa [hfield]
  · rw [fieldString_eq (by rwa [hfield]), hfield, cString_utilsStrncpySafe hwidth]

/-- A string stays when something behind it is assigned. -/
theorem HoldsString.setField {size offset' : Nat} {s : List Byte}
    (h : HoldsString size offset width s block) (hle : offset + width ≤ offset')
    (hfit : offset' + bytes.length ≤ size) :
    HoldsString size offset width s (WalnutGateway.setField block offset' bytes) := by
  obtain ⟨hlen, hzero, hstring⟩ := h
  have hfield : field (WalnutGateway.setField block offset' bytes) offset width =
      field block offset width := field_setField_of_le hle (by omega)
  constructor
  · rw [length_setField (by omega), hlen]
  · rwa [hfield]
  · rw [fieldString_eq (by rwa [hfield]), hfield, ← hstring, fieldString_eq hzero]

end Fields

/-! ## What the set functions keep -/

/-- A set function changes nothing when it rejects, keeps the size of the block, and
leaves one that passes its check if it passed before. -/
structure SetReply.Spec (m : ModuleConfig) (config : List Byte) (r : SetReply) : Prop where
  rejected : r.result ≠ .success → r.block = config ∧ r.saves = false
  length : config.length = m.configSize → r.block.length = m.configSize
  validates : r.result = .success → config.length = m.configSize → m.validates config = true →
    m.validates r.block = true

/-- A reply that leaves the block alone and saves nothing. -/
theorem SetReply.spec_same (m : ModuleConfig) (config : List Byte) (result : Result) :
    (SetReply.mk result config false).Spec m config :=
  ⟨fun _ => ⟨rfl, rfl⟩, fun h => h, fun _ _ h => h⟩

theorem length_wewareTcpConfigApply {key value staged staged' : List Byte}
    (h : wewareTcpConfigApply key value staged = some staged')
    (hlen : staged.length = tcpModule.configSize) : staged'.length = tcpModule.configSize := by
  have hsize : tcpModule.configSize = 84 := rfl
  rw [hsize] at hlen ⊢
  have hword (offset width n : Nat) (hle : offset + width ≤ 84) :
      (setField staged offset (leBytes width n)).length = 84 := by
    rw [length_setField, hlen]
    rw [length_leBytes, hlen]
    exact hle
  have hbyte (offset : Nat) (b : Byte) (hle : offset + 1 ≤ 84) :
      (setField staged offset [b]).length = 84 := by
    rw [length_setField, hlen]
    rw [List.length_singleton, hlen]
    exact hle
  unfold wewareTcpConfigApply at h
  split_ifs at h with _ hhost
  · cases h
    have hfit : value.length < serverIpSize := by
      simp only [tcpConfigHostIsValid, decide_eq_true_eq, not_or, not_le] at hhost
      exact hhost.1.2
    rw [length_setField, hlen]
    rw [List.length_append, List.length_singleton, hlen]
    unfold serverIpSize at hfit
    omega
  · cases h
    exact hword 64 2 _ (by decide)
  · obtain ⟨n, -, rfl⟩ := Option.map_eq_some_iff.mp h
    exact hword 68 4 n (by decide)
  · obtain ⟨n, -, rfl⟩ := Option.map_eq_some_iff.mp h
    exact hword 72 4 n (by decide)
  · obtain ⟨n, -, rfl⟩ := Option.map_eq_some_iff.mp h
    exact hword 76 4 n (by decide)
  · obtain ⟨b, -, rfl⟩ := Option.map_eq_some_iff.mp h
    exact hbyte 80 b (by decide)
  · obtain ⟨b, -, rfl⟩ := Option.map_eq_some_iff.mp h
    exact hbyte 81 b (by decide)

theorem length_wewareTcpConfigStage {tokens : List (List Byte)} {staged staged' : List Byte}
    (h : wewareTcpConfigStage tokens staged = some staged')
    (hlen : staged.length = tcpModule.configSize) : staged'.length = tcpModule.configSize := by
  induction tokens generalizing staged with
  | nil =>
    cases h
    exact hlen
  | cons token tokens ih =>
    unfold wewareTcpConfigStage at h
    dsimp only at h
    split_ifs at h
    · exact ih h hlen
    · obtain ⟨next, happly, h⟩ := Option.bind_eq_some_iff.mp h
      exact ih h (length_wewareTcpConfigApply happly hlen)

theorem wewareTcpConfigSet_spec (config configString : List Byte) :
    (wewareTcpConfigSet config configString).Spec tcpModule config ∧
      (wewareTcpConfigSet config configString).saves = false := by
  unfold wewareTcpConfigSet
  dsimp only
  split_ifs
  · exact ⟨SetReply.spec_same _ _ _, rfl⟩
  · cases hstage : wewareTcpConfigStage ((cString configString).splitOn comma) config with
    | none => exact ⟨SetReply.spec_same _ _ _, rfl⟩
    | some staged =>
      dsimp only
      split_ifs with hvalid
      · refine ⟨⟨fun h => absurd rfl h, length_wewareTcpConfigStage hstage, ?_⟩, rfl⟩
        intro _ _ _
        exact hvalid
      · exact ⟨SetReply.spec_same _ _ _, rfl⟩

/-- What holds of the temporary values before the tokens and is kept by each value
holds after them; the characters of a value are those of the tokens. -/
theorem stageKeyed_invariant {σ : Type} {table : List (String × Nat)}
    {stage : Nat → List Byte → σ → Option σ} {Good : σ → Prop} {Allowed : Byte → Prop}
    (hstage : ∀ index value temp temp', (∀ c ∈ value, Allowed c) → Good temp →
      stage index value temp = some temp' → Good temp')
    {tokens : List (List Byte)} (htokens : ∀ t ∈ tokens, ∀ c ∈ t, Allowed c)
    {parsedAny parsed : Bool} {temp temp' : σ}
    (h : stageKeyed table stage tokens parsedAny temp = some (parsed, temp')) (hgood : Good temp) :
    Good temp' := by
  induction tokens generalizing parsedAny temp with
  | nil =>
    cases h
    exact hgood
  | cons t tokens ih =>
    rw [List.forall_mem_cons] at htokens
    unfold stageKeyed at h
    dsimp only at h
    split at h
    · exact ih htokens.2 h hgood
    · split at h
      · cases h
      · obtain ⟨next, hnext, h⟩ := Option.bind_eq_some_iff.mp h
        refine ih htokens.2 h (hstage _ _ _ _ ?_ hgood hnext)
        intro c hc
        exact htokens.1 c (mem_trim (mem_utilsExtractConfigValue hc))

/-- The copy is the string. -/
theorem utilsStrdupForTokenization_some {alloc : Bool} {src copy : List Byte}
    (h : utilsStrdupForTokenization alloc src = some copy) : copy = cString src := by
  unfold utilsStrdupForTokenization at h
  dsimp only at h
  split_ifs at h
  exact (Option.some.inj h).symm

/-- No token of a copied string has a NUL. -/
theorem ne_zero_of_token {alloc : Bool} {src copy : List Byte}
    (h : utilsStrdupForTokenization alloc src = some copy) :
    ∀ t ∈ strtokTokens (· == comma) copy, ∀ c ∈ t, c ≠ 0 := by
  intro t ht c hc
  have hmem := ((mem_strtokTokens ht).2 c hc).2
  rw [utilsStrdupForTokenization_some h] at hmem
  exact ne_zero_of_mem_cString hmem

/-- A string that is copied stays one with a character. -/
theorem cString_utilsStrncpySafe_ne_nil {n : Nat} (hn : 1 < n) {src : List Byte}
    (h : cString src ≠ []) : cString (utilsStrncpySafe n src).toList ≠ [] := by
  rw [cString_utilsStrncpySafe (by omega)]
  intro hnil
  rcases List.take_eq_nil_iff.mp hnil with hzero | hempty
  · omega
  · exact h hempty

/-- A value that is not empty is not after the copy. -/
theorem cString_utilsStrncpySafe_value {n : Nat} (hn : 1 < n) {value : List Byte}
    (hvalue : ∀ c ∈ value, c ≠ 0) (h : value.length ≠ 0) :
    cString (utilsStrncpySafe n value).toList ≠ [] := by
  apply cString_utilsStrncpySafe_ne_nil hn
  rw [cString_of_ne_zero hvalue]
  exact fun hnil => h (List.length_eq_zero_iff.mpr hnil)

/-! ## The checks after a set function -/

/-- The network check looks at the first string only. -/
theorem networkConfigValidate_iff {block : List Byte} :
    networkConfigValidate block = true ↔ fieldString block 0 ≠ [] := by
  simp [networkConfigValidate]

theorem commandConfigValidate_iff {block : List Byte} :
    commandConfigValidate block = true ↔ fieldString block authPasswordOffset ≠ [] ∧
      (fieldString block authPasswordOffset).length < authPasswordSize := by
  simp [commandConfigValidate]

theorem validates_networkModule (block : List Byte) :
    networkModule.validates block = networkConfigValidate block := rfl

theorem validates_commandModule (block : List Byte) :
    commandModule.validates block = commandConfigValidate block := rfl

/-- `auto_connect` is one byte, and the APN has a character if it had one before. -/
structure NetworkTemp.Good (valid : Prop) (temp : NetworkTemp) : Prop where
  autoConnect : temp.autoConnect.length = 1
  apn : valid → cString temp.apn.toList ≠ []

theorem NetworkTemp.good_ofConfig {config : List Byte}
    (h : config.length = networkModule.configSize) :
    (NetworkTemp.ofConfig config).Good (networkConfigValidate config = true) := by
  constructor
  · apply length_field
    rw [h]
    decide
  · intro hvalid
    exact cString_utilsStrncpySafe_ne_nil (by decide) (networkConfigValidate_iff.mp hvalid)

theorem networkConfigStage_good {valid : Prop} (index : Nat) (value : List Byte)
    (temp temp' : NetworkTemp) (hvalue : ∀ c ∈ value, c ≠ 0) (hgood : temp.Good valid)
    (h : networkConfigStage index value temp = some temp') : temp'.Good valid := by
  obtain ⟨hauto, hapn⟩ := hgood
  unfold networkConfigStage at h
  split at h
  · split_ifs at h with hlen
    cases h
    rw [not_or] at hlen
    exact ⟨hauto, fun _ => cString_utilsStrncpySafe_value (by decide) hvalue hlen.1⟩
  · split_ifs at h
    cases h
    exact ⟨hauto, hapn⟩
  · split_ifs at h
    cases h
    exact ⟨hauto, hapn⟩
  · split_ifs at h
    cases h
    exact ⟨hauto, hapn⟩
  · obtain ⟨b, -, rfl⟩ := Option.map_eq_some_iff.mp h
    exact ⟨rfl, hapn⟩
  · cases h
    exact ⟨hauto, hapn⟩

/-- Cutting a string behind its first character leaves one. -/
theorem take_ne_nil {n : Nat} (hn : 0 < n) {s : List Byte} (h : s ≠ []) : s.take n ≠ [] := by
  intro hnil
  rcases List.take_eq_nil_iff.mp hnil with hzero | hempty
  · omega
  · exact h hempty

/-- The second pass leaves the temporary APN in the block. -/
theorem NetworkTemp.holdsString_update {temp : NetworkTemp} {config : List Byte}
    (hauto : temp.autoConnect.length = 1) (h : config.length = networkModule.configSize) :
    HoldsString networkModule.configSize 0 32 ((cString temp.apn.toList).take 31)
      (temp.update config) := by
  have hsize : networkModule.configSize = 104 := rfl
  have hapn :=
    holdsString_setField (by decide : 0 < 32) h (by decide : 0 + 32 ≤ 104) temp.apn.toList
  have hfit (src : List Byte) : usernameOffset + (utilsStrncpySafe 32 src).toList.length ≤ 104 ∧
      passwordOffset + (utilsStrncpySafe 32 src).toList.length ≤ 104 := by
    rw [length_toList]
    decide
  unfold update
  rw [hsize] at hapn ⊢
  refine (((hapn.setField ?_ (hfit _).1).setField ?_ (hfit _).2).setField ?_ ?_).setField ?_ ?_
  · decide
  · decide
  · decide
  · rw [length_leBytes]
    decide
  · decide
  · rw [hauto]
    decide

/-- `network_config_set` rejects, or stages all tokens, updates and saves. -/
theorem networkConfigSet_cases (alloc : Bool) (config configString : List Byte) :
    networkConfigSet alloc config configString = ⟨.invalidParam, config, false⟩ ∨
      ∃ copy temp, utilsStrdupForTokenization alloc configString = some copy ∧
        stageKeyed sNetCfgKeys networkConfigStage (strtokTokens (· == comma) copy) false
          (.ofConfig config) = some (true, temp) ∧
        networkConfigSet alloc config configString = ⟨.success, temp.update config, true⟩ := by
  unfold networkConfigSet
  cases hcopy : utilsStrdupForTokenization alloc configString with
  | none => exact Or.inl rfl
  | some copy =>
    dsimp only
    cases hstage : stageKeyed sNetCfgKeys networkConfigStage (strtokTokens (· == comma) copy) false
        (.ofConfig config) with
    | none => exact Or.inl rfl
    | some staged =>
      obtain ⟨parsedAny, temp⟩ := staged
      cases parsedAny with
      | false => exact Or.inl rfl
      | true => exact Or.inr ⟨copy, temp, rfl, hstage, rfl⟩

theorem networkConfigSet_spec (alloc : Bool) (config configString : List Byte) :
    (networkConfigSet alloc config configString).Spec networkModule config ∧
      ((networkConfigSet alloc config configString).result = .success →
        (networkConfigSet alloc config configString).saves = true) := by
  rcases networkConfigSet_cases alloc config configString with h | ⟨copy, temp, hcopy, hstage, h⟩
  · rw [h]
    exact ⟨SetReply.spec_same _ _ _, nofun⟩
  · rw [h]
    have hgood (hlen : config.length = networkModule.configSize) :
        temp.Good (networkConfigValidate config = true) :=
      stageKeyed_invariant networkConfigStage_good (ne_zero_of_token hcopy) hstage
        (NetworkTemp.good_ofConfig hlen)
    have hupdate (hlen : config.length = networkModule.configSize) :=
      NetworkTemp.holdsString_update (hgood hlen).autoConnect hlen
    refine ⟨⟨fun h => absurd rfl h, fun hlen => (hupdate hlen).length, ?_⟩, fun _ => rfl⟩
    intro _ hlen hvalid
    rw [validates_networkModule] at hvalid ⊢
    rw [networkConfigValidate_iff, (hupdate hlen).string]
    exact take_ne_nil (by decide) ((hgood hlen).apn hvalid)

/-- The staged bytes are single, and the password has a character if it had one before. -/
structure CommandTemp.Good (valid : Prop) (temp : CommandTemp) : Prop where
  authEnable : temp.authEnable.length = 1
  minCsq : temp.minCsq.length = 1
  adocNetTaskFlag : temp.adocNetTaskFlag.length = 1
  authPassword : valid → cString temp.authPassword.toList ≠ []

theorem CommandTemp.good_ofConfig {config : List Byte}
    (h : config.length = commandModule.configSize) :
    (CommandTemp.ofConfig config).Good (commandConfigValidate config = true) := by
  have hbyte (offset : Nat) (hfit : offset + 1 ≤ 36) : (field config offset 1).length = 1 := by
    apply length_field
    rw [h]
    exact hfit
  refine ⟨hbyte 0 (by decide), hbyte _ (by decide), hbyte _ (by decide), ?_⟩
  intro hvalid
  exact cString_utilsStrncpySafe_ne_nil (by decide) (commandConfigValidate_iff.mp hvalid).1

theorem commandConfigStage_good {valid : Prop} (index : Nat) (value : List Byte)
    (temp temp' : CommandTemp) (hvalue : ∀ c ∈ value, c ≠ 0) (hgood : temp.Good valid)
    (h : commandConfigStage index value temp = some temp') : temp'.Good valid := by
  obtain ⟨hauth, hcsq, hadoc, hpassword⟩ := hgood
  unfold commandConfigStage at h
  split at h
  · obtain ⟨b, -, rfl⟩ := Option.map_eq_some_iff.mp h
    exact ⟨rfl, hcsq, hadoc, hpassword⟩
  · split_ifs at h with hlen
    cases h
    rw [not_or] at hlen
    exact ⟨hauth, hcsq, hadoc, fun _ => cString_utilsStrncpySafe_value (by decide) hvalue hlen.1⟩
  · split at h
    · split_ifs at h
      cases h
      exact ⟨hauth, rfl, hadoc, hpassword⟩
    · cases h
  · obtain ⟨b, -, rfl⟩ := Option.map_eq_some_iff.mp h
    exact ⟨hauth, hcsq, rfl, hpassword⟩
  · cases h
    exact ⟨hauth, hcsq, hadoc, hpassword⟩

/-- The update leaves the temporary password in the block. -/
theorem CommandTemp.holdsString_update {valid : Prop} {temp : CommandTemp} {config : List Byte}
    (hgood : temp.Good valid) (h : config.length = commandModule.configSize) :
    HoldsString commandModule.configSize authPasswordOffset authPasswordSize
      ((cString temp.authPassword.toList).take (authPasswordSize - 1)) (temp.update config) := by
  have hsize : commandModule.configSize = 36 := rfl
  rw [hsize] at h ⊢
  have hfirst : (setField config 0 temp.authEnable).length = 36 := by
    rw [length_setField, h]
    rw [hgood.authEnable, h]
    decide
  have hpassword := holdsString_setField (by decide : 0 < authPasswordSize) hfirst
    (by decide : authPasswordOffset + authPasswordSize ≤ 36) temp.authPassword.toList
  unfold update
  refine (hpassword.setField ?_ ?_).setField ?_ ?_
  · decide
  · rw [hgood.minCsq]
    decide
  · decide
  · rw [hgood.adocNetTaskFlag]
    decide

/-- `command_config_set` rejects, or stages all tokens, updates and saves. -/
theorem commandConfigSet_cases (alloc : Bool) (config configString : List Byte) :
    (∃ r, r ≠ Result.success ∧ commandConfigSet alloc config configString = ⟨r, config, false⟩) ∨
      ∃ copy temp, utilsStrdupForTokenization alloc configString = some copy ∧
        stageKeyed sCmdCfgKeys commandConfigStage (strtokTokens (· == comma) copy) false
          (.ofConfig config) = some (true, temp) ∧
        commandConfigSet alloc config configString = ⟨.success, temp.update config, true⟩ := by
  unfold commandConfigSet
  split_ifs
  · exact Or.inl ⟨.invalidParam, nofun, rfl⟩
  · cases hcopy : utilsStrdupForTokenization alloc configString with
    | none => exact Or.inl ⟨.error, nofun, rfl⟩
    | some copy =>
      dsimp only
      cases hstage : stageKeyed sCmdCfgKeys commandConfigStage (strtokTokens (· == comma) copy)
          false (.ofConfig config) with
      | none => exact Or.inl ⟨.invalidParam, nofun, rfl⟩
      | some staged =>
        obtain ⟨parsedAny, temp⟩ := staged
        cases parsedAny with
        | false => exact Or.inl ⟨.invalidParam, nofun, rfl⟩
        | true => exact Or.inr ⟨copy, temp, rfl, hstage, rfl⟩

theorem commandConfigSet_spec (alloc : Bool) (config configString : List Byte) :
    (commandConfigSet alloc config configString).Spec commandModule config ∧
      ((commandConfigSet alloc config configString).result = .success →
        (commandConfigSet alloc config configString).saves = true) := by
  rcases commandConfigSet_cases alloc config configString with
    ⟨r, hr, h⟩ | ⟨copy, temp, hcopy, hstage, h⟩
  · rw [h]
    exact ⟨SetReply.spec_same _ _ _, fun hsuccess => absurd hsuccess hr⟩
  · rw [h]
    have hgood (hlen : config.length = commandModule.configSize) :
        temp.Good (commandConfigValidate config = true) :=
      stageKeyed_invariant commandConfigStage_good (ne_zero_of_token hcopy) hstage
        (CommandTemp.good_ofConfig hlen)
    have hupdate (hlen : config.length = commandModule.configSize) :=
      CommandTemp.holdsString_update (hgood hlen) hlen
    refine ⟨⟨fun h => absurd rfl h, fun hlen => (hupdate hlen).length, ?_⟩, fun _ => rfl⟩
    intro _ hlen hvalid
    rw [validates_commandModule] at hvalid ⊢
    rw [commandConfigValidate_iff, (hupdate hlen).string]
    refine ⟨take_ne_nil (by decide) ((hgood hlen).authPassword hvalid), ?_⟩
    rw [List.length_take]
    have hpos : 0 < authPasswordSize := by decide
    omega

/-- The value of an index fits its field. -/
theorem length_systemConfigValue {strtof : Strtof} {index : Nat} {value bytes : List Byte}
    (hindex : index ≤ 16) (h : systemConfigValue strtof index value = some bytes) :
    systemFieldOffset index + bytes.length ≤ systemModule.configSize := by
  have hword {n : Nat} (i : Nat) (hi : systemFieldOffset i + 4 ≤ 56) :
      systemFieldOffset i + (leBytes 4 n).length ≤ 56 := by
    rwa [length_leBytes]
  have hbyte {b : Byte} (i : Nat) (hi : systemFieldOffset i + 1 ≤ 56) :
      systemFieldOffset i + [b].length ≤ 56 := hi
  have hfloat (i : Nat) (hi : systemFieldOffset i + 4 ≤ 56)
      (h : (match strtof value with
        | some (v, []) => some (leBytes 4 v)
        | _ => none) = some bytes) : systemFieldOffset i + bytes.length ≤ 56 := by
    split at h
    · cases h
      exact hword i hi
    · cases h
  have hpositive (i : Nat) (hi : systemFieldOffset i + 4 ≤ 56)
      (h : (match strtof value with
        | some (v, []) => if floatLt v 0 then none else some (leBytes 4 v)
        | _ => none) = some bytes) : systemFieldOffset i + bytes.length ≤ 56 := by
    split at h
    · split_ifs at h
      cases h
      exact hword i hi
    · cases h
  have hunsigned (i : Nat) (hi : systemFieldOffset i + 4 ≤ 56)
      (h : (match strtoul value with
        | some (v, []) => if v = 0 then none else some (leBytes 4 v)
        | _ => none) = some bytes) : systemFieldOffset i + bytes.length ≤ 56 := by
    split at h
    · split_ifs at h
      cases h
      exact hword i hi
    · cases h
  change systemFieldOffset index + bytes.length ≤ 56
  unfold systemConfigValue at h
  split at h
  · obtain ⟨n, -, rfl⟩ := Option.map_eq_some_iff.mp h
    exact hword 0 (by decide)
  · exact hfloat 1 (by decide) h
  · exact hfloat 2 (by decide) h
  · exact hfloat 3 (by decide) h
  · exact hfloat 4 (by decide) h
  · split at h
    · split_ifs at h
      cases h
      exact hbyte 5 (by decide)
    · cases h
  · obtain ⟨n, -, rfl⟩ := Option.map_eq_some_iff.mp h
    exact hword 6 (by decide)
  · obtain ⟨n, -, rfl⟩ := Option.map_eq_some_iff.mp h
    exact hword 7 (by decide)
  · exact hpositive 8 (by decide) h
  · exact hpositive 9 (by decide) h
  · exact hpositive 10 (by decide) h
  · exact hunsigned 11 (by decide) h
  · exact hunsigned 12 (by decide) h
  · obtain ⟨b, -, rfl⟩ := Option.map_eq_some_iff.mp h
    apply hbyte
    unfold systemFieldOffset
    split <;> omega

theorem length_systemConfigTokens {strtof : Strtof} {tokens : List (List Byte)}
    {paramIndex count : Nat} {temp temp' : List Byte}
    (h : systemConfigTokens strtof tokens paramIndex temp = some (count, temp'))
    (hlen : temp.length = systemModule.configSize) : temp'.length = systemModule.configSize := by
  induction tokens generalizing paramIndex temp with
  | nil =>
    cases h
    exact hlen
  | cons t tokens ih =>
    obtain ⟨index, -, h⟩ := Option.bind_eq_some_iff.mp h
    obtain ⟨next, hstage, h⟩ := Option.bind_eq_some_iff.mp h
    refine ih h ?_
    unfold systemConfigStage at hstage
    split_ifs at hstage with hindex
    · cases hstage
      exact hlen
    · obtain ⟨bytes, hvalue, rfl⟩ := Option.map_eq_some_iff.mp hstage
      have hfit := length_systemConfigValue (by omega) hvalue
      rw [length_setField (by omega), hlen]

/-- `system_config_set` keeps the block, or stages all tokens and saves a valid one. -/
theorem systemConfigSet_cases (strtof : Strtof) (alloc : Bool) (config configString : List Byte) :
    (∃ r, systemConfigSet strtof alloc config configString = ⟨r, config, false⟩) ∨
      ∃ tokens count temp, systemConfigTokens strtof tokens 0 config = some (count, temp) ∧
        systemConfigValidate temp = true ∧
        systemConfigSet strtof alloc config configString = ⟨.success, temp, true⟩ := by
  unfold systemConfigSet
  split_ifs
  · exact Or.inl ⟨_, rfl⟩
  · split
    · exact Or.inl ⟨_, rfl⟩
    · split
      · exact Or.inl ⟨_, rfl⟩
      · exact Or.inl ⟨_, rfl⟩
      · rename_i copy _ _ count temp _ htokens
        split_ifs with hvalid
        · exact Or.inr ⟨_, count, temp, htokens, hvalid, rfl⟩
        · exact Or.inl ⟨_, rfl⟩

theorem systemConfigSet_spec (strtof : Strtof) (alloc : Bool) (config configString : List Byte) :
    (systemConfigSet strtof alloc config configString).Spec systemModule config ∧
      ((systemConfigSet strtof alloc config configString).saves = false →
        (systemConfigSet strtof alloc config configString).block = config) := by
  rcases systemConfigSet_cases strtof alloc config configString with
    ⟨r, h⟩ | ⟨tokens, count, temp, htokens, hvalid, h⟩
  · rw [h]
    exact ⟨SetReply.spec_same _ _ _, fun _ => rfl⟩
  · rw [h]
    refine ⟨⟨fun h => absurd rfl h, length_systemConfigTokens htokens, ?_⟩, nofun⟩
    intro _ _ _
    exact hvalid

end WalnutGateway
