import WalnutGateway.Config.GpsSetter
import WalnutGateway.Core.Assignments

/-!
# Configurations are set as a whole

A string that is rejected leaves the configuration as it was, and one that is accepted leaves a
valid one, in which each field that the string addresses holds the parsed value of the last token
for it, and each other field what it held. Here this is shown for the TCP and the command
configuration.
-/

namespace WalnutGateway

/-- A reply to a string with some assignments: nothing is changed, or the configuration stays valid
and has been assigned to. -/
structure SetReply.Atomic {ι V : Type} [DecidableEq ι] (m : ModuleConfig) (fields : List ι)
    (get : List Byte → ι → V) (parse : ι → List Byte → Option V) (as : List (ι × List Byte))
    (config : List Byte) (r : SetReply) : Prop where
  rejected : r.result ≠ .success → r.block = config
  valid : r.result = .success → m.validates r.block = true
  assigned : r.result = .success → Assigned fields get parse as config r.block

/-! ## Tokens -/

/-- The tokens with a key that a table knows. -/
def keyedTokens (table : List (String × Nat)) (tokens : List (List Byte)) :
    List (Nat × List Byte) :=
  tokens.filterMap fun t =>
    let token := utilsTrimWhitespace t
    ((utilsConfigParseKey token 32).bind (utilsConfigKeyToIndex · table)).map fun index =>
      (index, utilsExtractConfigValue token)

/-- The pieces with a colon, as the TCP module takes them. -/
def tcpTokens (pieces : List (List Byte)) : List (List Byte × List Byte) :=
  pieces.filterMap fun piece =>
    let entry := tcpConfigTrim piece
    if colon ∉ entry then none
    else some (tcpConfigTrim (entry.takeWhile (· != colon)),
      tcpConfigTrim ((entry.dropWhile (· != colon)).drop 1))

/-- The loop over keyed tokens stages them in order. -/
theorem stageAll_of_stageKeyed {σ : Type} {table : List (String × Nat)}
    {stage : Nat → List Byte → σ → Option σ} {tokens : List (List Byte)} {parsedAny parsed : Bool}
    {temp temp' : σ}
    (h : stageKeyed table stage tokens parsedAny temp = some (parsed, temp')) :
    stageAll stage (keyedTokens table tokens) temp = some temp' := by
  induction tokens generalizing parsedAny temp with
  | nil =>
    cases h
    rfl
  | cons t tokens ih =>
    unfold stageKeyed at h
    unfold keyedTokens
    dsimp only at h
    cases hkey : utilsConfigParseKey (utilsTrimWhitespace t) 32 with
    | none =>
      rw [hkey] at h
      rw [List.filterMap_cons_none (by simp [hkey])]
      exact ih h
    | some key =>
      rw [hkey] at h
      dsimp only at h
      cases hindex : utilsConfigKeyToIndex key table with
      | none =>
        rw [hindex] at h
        cases h
      | some index =>
        rw [hindex] at h
        obtain ⟨next, hnext, hrest⟩ := Option.bind_eq_some_iff.mp h
        rw [List.filterMap_cons_some (b := (index, _)) (by simp [hkey, hindex]; rfl), stageAll]
        dsimp only
        rw [hnext, Option.bind_some]
        exact ih hrest

theorem stageAll_of_wewareTcpConfigStage {pieces : List (List Byte)} {staged staged' : List Byte}
    (h : wewareTcpConfigStage pieces staged = some staged') :
    stageAll wewareTcpConfigApply (tcpTokens pieces) staged = some staged' := by
  induction pieces generalizing staged with
  | nil =>
    cases h
    rfl
  | cons piece pieces ih =>
    unfold wewareTcpConfigStage at h
    unfold tcpTokens
    dsimp only at h
    split_ifs at h with hnil hcolon
    · rw [List.filterMap_cons_none (by simp [hnil])]
      exact ih h
    · obtain ⟨next, hnext, hrest⟩ := Option.bind_eq_some_iff.mp h
      rw [List.filterMap_cons_some (b := (tcpConfigTrim ((tcpConfigTrim piece).takeWhile
        (· != colon)), tcpConfigTrim (((tcpConfigTrim piece).dropWhile (· != colon)).drop 1)))
        (by dsimp only; rw [if_neg (not_not_intro hcolon)]), stageAll]
      dsimp only
      rw [hnext, Option.bind_some]
      exact ih hrest

/-! ## TCP -/

/-- The keys of `weware_tcp_config_set`. -/
def tcpConfigKeys : List (List Byte) :=
  ["ip", "port", "conn-to", "send-to", "retry", "loginwithgps", "live-first"].map asciiBytes

/-- The offset and the width of the field for a key in `WewareTcpConfig`. -/
def tcpFieldPlace (key : List Byte) : Nat × Nat :=
  if key = asciiBytes "ip" then (0, serverIpSize)
  else if key = asciiBytes "port" then (64, 2)
  else if key = asciiBytes "conn-to" then (68, 4)
  else if key = asciiBytes "send-to" then (72, 4)
  else if key = asciiBytes "retry" then (76, 4)
  else if key = asciiBytes "loginwithgps" then (80, 1)
  else (81, 1)

/-- What a field holds: the string in `server_ip`, and the bytes of the others. -/
def tcpConfigField (block key : List Byte) : List Byte :=
  if key = asciiBytes "ip" then fieldString block 0 else fieldAt tcpFieldPlace block key

/-- What the branch of `weware_tcp_config_set` for a key makes of a value. -/
def wewareTcpConfigValue (key value : List Byte) : Option (List Byte) :=
  if key = asciiBytes "ip" then if tcpConfigHostIsValid value then some value else none
  else if key = asciiBytes "port" then
    if tcpConfigPortIsValid (atol value) then some (leBytes 2 (atol value).toNat) else none
  else if key = asciiBytes "conn-to" then (tcpConfigParseTimeout value).map (leBytes 4)
  else if key = asciiBytes "send-to" then (tcpConfigParseTimeout value).map (leBytes 4)
  else if key = asciiBytes "retry" then (tcpConfigParseTimeout value).map (leBytes 4)
  else if key = asciiBytes "loginwithgps" then (tcpConfigParseBool value).map fun b => [b]
  else if key = asciiBytes "live-first" then (tcpConfigParseBool value).map fun b => [b]
  else none

theorem places_tcpFieldPlace : Places tcpConfigKeys tcpFieldPlace tcpModule.configSize := by
  constructor <;> decide +kernel

/-- A branch writes the accepted value into its field, a string with its NUL. -/
theorem wewareTcpConfigApply_eq (key value staged : List Byte) :
    wewareTcpConfigApply key value staged = (wewareTcpConfigValue key value).map fun bytes =>
      setField staged (tcpFieldPlace key).1
        (if key = asciiBytes "ip" then bytes ++ [0] else bytes) := by
  unfold wewareTcpConfigApply wewareTcpConfigValue tcpFieldPlace
  split_ifs <;> simp [Option.map_map, Function.comp_def]

theorem wewareTcpConfigValue_ip {value bytes : List Byte}
    (h : wewareTcpConfigValue (asciiBytes "ip") value = some bytes) :
    bytes = value ∧ value.length < serverIpSize := by
  rw [wewareTcpConfigValue, if_pos rfl] at h
  split_ifs at h with hhost
  cases h
  simp only [tcpConfigHostIsValid, decide_eq_true_eq, not_or, not_le, ge_iff_le] at hhost
  exact ⟨rfl, hhost.1.2⟩

theorem length_wewareTcpConfigValue {key value bytes : List Byte} (hkey : key ≠ asciiBytes "ip")
    (h : wewareTcpConfigValue key value = some bytes) :
    key ∈ tcpConfigKeys ∧ bytes.length = (tcpFieldPlace key).2 := by
  unfold wewareTcpConfigValue at h
  rw [if_neg hkey] at h
  unfold tcpFieldPlace
  rw [if_neg hkey]
  split_ifs at h with hport hvalid hconn hsend hretry hlogin hlive
  · cases h
    rw [if_pos hport, length_leBytes]
    exact ⟨hport ▸ by decide +kernel, rfl⟩
  · obtain ⟨n, -, rfl⟩ := Option.map_eq_some_iff.mp h
    rw [if_neg hport, if_pos hconn, length_leBytes]
    exact ⟨hconn ▸ by decide +kernel, rfl⟩
  · obtain ⟨n, -, rfl⟩ := Option.map_eq_some_iff.mp h
    rw [if_neg hport, if_neg hconn, if_pos hsend, length_leBytes]
    exact ⟨hsend ▸ by decide +kernel, rfl⟩
  · obtain ⟨n, -, rfl⟩ := Option.map_eq_some_iff.mp h
    rw [if_neg hport, if_neg hconn, if_neg hsend, if_pos hretry, length_leBytes]
    exact ⟨hretry ▸ by decide +kernel, rfl⟩
  · obtain ⟨b, -, rfl⟩ := Option.map_eq_some_iff.mp h
    rw [if_neg hport, if_neg hconn, if_neg hsend, if_neg hretry, if_pos hlogin]
    exact ⟨hlogin ▸ by decide +kernel, rfl⟩
  · obtain ⟨b, -, rfl⟩ := Option.map_eq_some_iff.mp h
    rw [if_neg hport, if_neg hconn, if_neg hsend, if_neg hretry, if_neg hlogin]
    exact ⟨hlive ▸ by decide +kernel, rfl⟩

/-- A staged block has its size, and its `server_ip` ends. -/
structure TcpStaged (block : List Byte) : Prop where
  length : block.length = tcpModule.configSize
  terminated : 0 ∈ field block 0 serverIpSize

/-- A string with its NUL in the field of `server_ip`. -/
theorem TcpStaged.setServerIp {block value : List Byte} (h : TcpStaged block)
    (hvalue : ∀ c ∈ value, c ≠ 0) (hlen : value.length < serverIpSize) :
    TcpStaged (setField block 0 (value ++ [0])) ∧
      fieldString (setField block 0 (value ++ [0])) 0 = value ∧
      ∀ key ∈ tcpConfigKeys, key ≠ asciiBytes "ip" →
        fieldAt tcpFieldPlace (setField block 0 (value ++ [0])) key =
          fieldAt tcpFieldPlace block key := by
  have hsize := h.length
  have hip : tcpModule.configSize = 84 := rfl
  have hfits : (value ++ [0]).length ≤ serverIpSize := by
    rw [List.length_append, List.length_singleton]
    omega
  have hblock : serverIpSize ≤ block.length := by
    rw [hsize]
    decide
  have hsplit : setField block 0 (value ++ [0]) =
      value ++ 0 :: block.drop (value ++ [0]).length := by
    rw [setField, Nat.zero_add, List.take_zero, List.nil_append, List.append_assoc,
      List.singleton_append]
  refine ⟨⟨?_, ?_⟩, ?_, ?_⟩
  · rw [length_setField (by omega), hsize]
  · apply mem_field (j := value.length)
    · rw [hsplit, List.getElem?_append_right le_rfl, Nat.sub_self]
      rfl
    · omega
    · omega
  · rw [fieldString, List.drop_zero, hsplit, cString_append_zero hvalue]
  · intro key hkey hne
    have hbehind : serverIpSize ≤ (tcpFieldPlace key).1 := by
      have hall : ∀ key ∈ tcpConfigKeys, key ≠ asciiBytes "ip" →
          serverIpSize ≤ (tcpFieldPlace key).1 := by
        decide +kernel
      exact hall key hkey hne
    exact field_setField_of_ge (by omega) (by omega)

/-- The bytes of another value in its field. -/
theorem TcpStaged.setField {block bytes key : List Byte} (h : TcpStaged block)
    (hkey : key ∈ tcpConfigKeys) (hip : key ≠ asciiBytes "ip")
    (hlen : bytes.length = (tcpFieldPlace key).2) :
    TcpStaged (setField block (tcpFieldPlace key).1 bytes) ∧
      fieldAt tcpFieldPlace (WalnutGateway.setField block (tcpFieldPlace key).1 bytes) key =
        bytes ∧
      ∀ key' ∈ tcpConfigKeys, key' ≠ key →
        tcpConfigField (WalnutGateway.setField block (tcpFieldPlace key).1 bytes) key' =
          tcpConfigField block key' := by
  obtain ⟨hsize, hself, hothers⟩ := places_tcpFieldPlace.setField hkey h.length hlen
  have hserver : field (WalnutGateway.setField block (tcpFieldPlace key).1 bytes) 0 serverIpSize =
      field block 0 serverIpSize :=
    hothers (asciiBytes "ip") (List.mem_cons_self ..) hip.symm
  have hzero := h.terminated
  rw [← hserver] at hzero
  refine ⟨⟨hsize, hzero⟩, hself, fun key' hkey' hne => ?_⟩
  unfold tcpConfigField
  split_ifs
  · rw [fieldString_eq hzero, fieldString_eq h.terminated, hserver]
  · exact hothers key' hkey' hne

theorem stages_wewareTcpConfigApply : Stages tcpConfigKeys tcpConfigField wewareTcpConfigValue
    wewareTcpConfigApply TcpStaged fun value => ∀ c ∈ value, c ≠ 0 := by
  have hcases {key value block block' : List Byte} (hgood : TcpStaged block)
      (hvalue : ∀ c ∈ value, c ≠ 0) (h : wewareTcpConfigApply key value block = some block') :
      TcpStaged block' ∧ wewareTcpConfigValue key value = some (tcpConfigField block' key) ∧
        ∀ key' ∈ tcpConfigKeys, key' ≠ key →
          tcpConfigField block' key' = tcpConfigField block key' := by
    rw [wewareTcpConfigApply_eq] at h
    obtain ⟨bytes, hbytes, rfl⟩ := Option.map_eq_some_iff.mp h
    by_cases hip : key = asciiBytes "ip"
    · subst hip
      obtain ⟨rfl, hlen⟩ := wewareTcpConfigValue_ip hbytes
      obtain ⟨hstaged, hstring, hothers⟩ := hgood.setServerIp hvalue hlen
      rw [if_pos rfl]
      refine ⟨hstaged, ?_, fun key' hkey' hne => ?_⟩
      · rw [tcpConfigField, if_pos rfl, hbytes]
        exact congrArg some hstring.symm
      · rw [tcpConfigField, if_neg hne, tcpConfigField, if_neg hne]
        exact hothers key' hkey' hne
    · obtain ⟨hkey, hlen⟩ := length_wewareTcpConfigValue hip hbytes
      obtain ⟨hstaged, hself, hothers⟩ := hgood.setField hkey hip hlen
      rw [if_neg hip]
      refine ⟨hstaged, ?_, hothers⟩
      rw [tcpConfigField, if_neg hip, hself, hbytes]
  constructor
  · exact fun hgood hvalue h => (hcases hgood hvalue h).1
  · exact fun _ hgood hvalue h => (hcases hgood hvalue h).2.1
  · exact fun hj hne hgood hvalue h => (hcases hgood hvalue h).2.2 _ hj hne

/-- The pieces between the delimiters have the characters of the text. -/
theorem mem_of_mem_splitOn {delim : Byte} {s piece : List Byte} (hpiece : piece ∈ s.splitOn delim)
    {c : Byte} (hc : c ∈ piece) : c ∈ s := by
  induction s generalizing piece with
  | nil =>
    rw [List.splitOn_nil, List.mem_singleton] at hpiece
    exact hpiece ▸ hc
  | cons x s ih =>
    obtain ⟨first, others, hsplit⟩ := List.exists_cons_of_ne_nil (List.splitOn_ne_nil delim s)
    rw [hsplit] at ih
    rw [List.splitOn_cons_eq_if_modifyHead, hsplit, List.modifyHead_cons] at hpiece
    split_ifs at hpiece
    · rcases List.mem_cons.mp hpiece with rfl | hpiece
      · cases hc
      · exact List.mem_cons_of_mem _ (ih hpiece hc)
    · rcases List.mem_cons.mp hpiece with rfl | hpiece
      · rcases List.mem_cons.mp hc with rfl | hc
        · exact List.mem_cons_self ..
        · exact List.mem_cons_of_mem _ (ih (List.mem_cons_self ..) hc)
      · exact List.mem_cons_of_mem _ (ih (List.mem_cons_of_mem _ hpiece) hc)

/-- The values of the TCP tokens are parts of the string. -/
theorem mem_tcpTokens {pieces : List (List Byte)} {a : List Byte × List Byte}
    (h : a ∈ tcpTokens pieces) {c : Byte} (hc : c ∈ a.2) : ∃ piece ∈ pieces, c ∈ piece := by
  obtain ⟨piece, hpiece, h⟩ := List.mem_filterMap.mp h
  dsimp only at h
  split_ifs at h
  cases h
  have hentry : c ∈ tcpConfigTrim piece :=
    (List.dropWhile_sublist _).subset (List.mem_of_mem_drop (mem_trim hc))
  exact ⟨piece, hpiece, mem_trim hentry⟩

/-- `weware_tcp_config_set` sets the configuration as a whole. -/
theorem wewareTcpConfigSet_atomic {config : List Byte}
    (hlen : config.length = tcpModule.configSize) (hvalid : tcpModule.validates config = true)
    (configString : List Byte) :
    (wewareTcpConfigSet config configString).Atomic tcpModule tcpConfigKeys tcpConfigField
      wewareTcpConfigValue (tcpTokens ((cString configString).splitOn comma)) config := by
  have hrejected {result : Result} (h : result ≠ .success) :
      (SetReply.mk result config false).Atomic tcpModule tcpConfigKeys tcpConfigField
        wewareTcpConfigValue (tcpTokens ((cString configString).splitOn comma)) config :=
    ⟨fun _ => rfl, fun hsuccess => absurd hsuccess h, fun hsuccess => absurd hsuccess h⟩
  unfold wewareTcpConfigSet
  dsimp only
  split_ifs
  · exact hrejected nofun
  · cases hstage : wewareTcpConfigStage ((cString configString).splitOn comma) config with
    | none => exact hrejected nofun
    | some staged =>
      dsimp only
      split_ifs with hstaged
      · refine ⟨fun h => absurd rfl h, fun _ => hstaged, fun _ => ?_⟩
        have hgood : TcpStaged config :=
          ⟨hlen, terminated_of_wewareTcpConfigValidate hvalid hlen⟩
        have hvalues : ∀ a ∈ tcpTokens ((cString configString).splitOn comma),
            ∀ c ∈ a.2, c ≠ 0 := by
          intro a ha c hc
          obtain ⟨piece, hpiece, hmem⟩ := mem_tcpTokens ha hc
          exact ne_zero_of_mem_cString (mem_of_mem_splitOn hpiece hmem)
        exact (stages_wewareTcpConfigApply.run hvalues hgood
          (stageAll_of_wewareTcpConfigStage hstage)).2
      · exact hrejected nofun

/-! ## Command -/

/-- The indices of `command_config_set`. -/
def commandIndices : List Nat := [0, 1, 2, 3]

theorem of_mem_commandIndices {i : Nat} (h : i ∈ commandIndices) :
    i = 0 ∨ i = 1 ∨ i = 2 ∨ i = 3 := by
  simpa [commandIndices] using h

/-- The offset and the width of the field for an index in `CommandConfig`. -/
def commandFieldPlace : Nat → Nat × Nat
  | 0 => (0, 1)
  | 1 => (authPasswordOffset, authPasswordSize)
  | 2 => (minCsqThresholdOffset, 1)
  | _ => (adocNetTaskFlagOffset, 1)

/-- What a field holds: the string in `auth_password`, and the bytes of the others. -/
def commandConfigField (block : List Byte) (index : Nat) : List Byte :=
  if index = 1 then fieldString block authPasswordOffset
  else fieldAt commandFieldPlace block index

/-- What the branch of `command_config_set` for an index makes of a value. -/
def commandConfigValue (index : Nat) (value : List Byte) : Option (List Byte) :=
  match index with
  | 1 => if value.length = 0 ∨ value.length ≥ authPasswordSize then none else some value
  | 2 =>
    match strtol value with
    | some (v, []) => if v < 0 ∨ v > 31 then none else some [intByte v]
    | _ => none
  | _ => (parseBool value).map fun b => [b]

namespace CommandTemp

/-- What a temporary stands for. -/
def get (temp : CommandTemp) : Nat → List Byte
  | 0 => temp.authEnable
  | 1 => cString temp.authPassword.toList
  | 2 => temp.minCsq
  | _ => temp.adocNetTaskFlag

/-- The bytes that a temporary puts into the configuration. -/
def bytes (temp : CommandTemp) : Nat → List Byte
  | 0 => temp.authEnable
  | 1 => (utilsStrncpySafe authPasswordSize temp.authPassword.toList).toList
  | 2 => temp.minCsq
  | _ => temp.adocNetTaskFlag

/-- The temporaries are as wide as the fields. -/
structure Fits (temp : CommandTemp) : Prop where
  authEnable : temp.authEnable.length = 1
  authPassword : (cString temp.authPassword.toList).length < authPasswordSize
  minCsq : temp.minCsq.length = 1
  adocNetTaskFlag : temp.adocNetTaskFlag.length = 1

variable {temp : CommandTemp} {config : List Byte}

theorem update_eq (temp : CommandTemp) (config : List Byte) :
    temp.update config = writeFields commandFieldPlace temp.bytes config commandIndices := rfl

theorem Fits.length_bytes (h : temp.Fits) (index : Nat) :
    (temp.bytes index).length = (commandFieldPlace index).2 := by
  unfold bytes commandFieldPlace
  split
  · exact h.authEnable
  · exact length_toList _
  · exact h.minCsq
  · exact h.adocNetTaskFlag

end CommandTemp

theorem places_commandFieldPlace :
    Places commandIndices commandFieldPlace commandModule.configSize := by
  constructor <;> decide

/-- The temporaries before the first token stand for the fields. -/
theorem CommandTemp.ofConfig_get {config : List Byte}
    (hlen : config.length = commandModule.configSize)
    (hvalid : commandConfigValidate config = true) :
    (ofConfig config).Fits ∧ (ofConfig config).get = commandConfigField config := by
  have hbyte (offset : Nat) (hfit : offset + 1 ≤ 36) : (field config offset 1).length = 1 := by
    apply length_field
    rw [hlen]
    exact hfit
  have hshort := (commandConfigValidate_iff.mp hvalid).2
  have hpassword : cString (ofConfig config).authPassword.toList =
      fieldString config authPasswordOffset := by
    rw [ofConfig, cString_utilsStrncpySafe (by decide)]
    exact List.take_of_length_le (Nat.le_sub_one_of_lt hshort)
  refine ⟨⟨hbyte 0 (by decide), by rwa [hpassword], hbyte _ (by decide), hbyte _ (by decide)⟩, ?_⟩
  funext index
  unfold get commandConfigField
  split
  · rfl
  · rw [if_pos rfl, hpassword]
  · rfl
  · rename_i hzero hone htwo
    rw [if_neg hone, fieldAt, commandFieldPlace]
    · rfl
    · exact hzero
    · exact hone
    · exact htwo

/-- The fields after the update are what the temporaries stand for. -/
theorem CommandTemp.Fits.field_update {temp : CommandTemp} {config : List Byte} (h : temp.Fits)
    (hlen : config.length = commandModule.configSize) :
    ∀ index ∈ commandIndices, commandConfigField (temp.update config) index = temp.get index := by
  have hfields := (places_commandFieldPlace.writeFields_all (fun i _ => h.length_bytes i) hlen).2
  rw [← update_eq] at hfields
  have hplain : ∀ index ∈ commandIndices, index ≠ 1 →
      commandConfigField (temp.update config) index = temp.bytes index := by
    intro index hindex hne
    rw [commandConfigField, if_neg hne, hfields index hindex]
  intro index hindex
  by_cases hpassword : index = 1
  · subst hpassword
    have hbytes : field (temp.update config) authPasswordOffset authPasswordSize =
        temp.bytes 1 := hfields 1 hindex
    have hzero : 0 ∈ field (temp.update config) authPasswordOffset authPasswordSize := by
      rw [hbytes]
      exact zero_mem_utilsStrncpySafe (by decide) _
    rw [commandConfigField, if_pos rfl, fieldString_eq hzero, hbytes, bytes,
      cString_utilsStrncpySafe (by decide)]
    exact List.take_of_length_le (Nat.le_sub_one_of_lt h.authPassword)
  · rw [hplain index hindex hpassword]
    unfold bytes get
    split
    · rfl
    · exact absurd rfl hpassword
    · rfl
    · rfl

theorem commandConfigStage_cases {index : Nat} {value : List Byte} {temp temp' : CommandTemp}
    (hvalue : ∀ c ∈ value, c ≠ 0) (hfits : temp.Fits)
    (h : commandConfigStage index value temp = some temp') :
    temp'.Fits ∧
      (index ∈ commandIndices → commandConfigValue index value = some (temp'.get index)) ∧
      ∀ j ∈ commandIndices, j ≠ index → temp'.get j = temp.get j := by
  obtain ⟨hauth, hpassword, hcsq, hadoc⟩ := hfits
  unfold commandConfigStage at h
  split at h
  · obtain ⟨b, hb, rfl⟩ := Option.map_eq_some_iff.mp h
    refine ⟨⟨rfl, hpassword, hcsq, hadoc⟩, fun _ => ?_, fun j hj hne => ?_⟩
    · rw [commandConfigValue, hb]
      · rfl
      · decide
      · decide
    · rcases of_mem_commandIndices hj with rfl | rfl | rfl | rfl <;>
      first | rfl | exact absurd rfl hne
  · split_ifs at h with hlen
    cases h
    obtain ⟨-, hshort⟩ := not_or.mp hlen
    have hstring : cString (utilsStrncpySafe authPasswordSize value).toList = value := by
      rw [cString_utilsStrncpySafe (by decide), cString_of_ne_zero hvalue]
      exact List.take_of_length_le (Nat.le_sub_one_of_lt (not_le.mp hshort))
    refine ⟨⟨hauth, ?_, hcsq, hadoc⟩, fun _ => ?_, fun j hj hne => ?_⟩
    · rw [hstring]
      exact not_le.mp hshort
    · rw [commandConfigValue, if_neg hlen]
      exact congrArg some hstring.symm
    · rcases of_mem_commandIndices hj with rfl | rfl | rfl | rfl <;>
      first | rfl | exact absurd rfl hne
  · split at h
    · rename_i v hv
      split_ifs at h with hrange
      cases h
      refine ⟨⟨hauth, hpassword, rfl, hadoc⟩, fun _ => ?_, fun j hj hne => ?_⟩
      · rw [commandConfigValue, hv]
        dsimp only
        rw [if_neg hrange]
        rfl
      · rcases of_mem_commandIndices hj with rfl | rfl | rfl | rfl <;>
        first | rfl | exact absurd rfl hne
    · cases h
  · obtain ⟨b, hb, rfl⟩ := Option.map_eq_some_iff.mp h
    refine ⟨⟨hauth, hpassword, hcsq, rfl⟩, fun _ => ?_, fun j hj hne => ?_⟩
    · rw [commandConfigValue, hb]
      · rfl
      · decide
      · decide
    · rcases of_mem_commandIndices hj with rfl | rfl | rfl | rfl <;>
      first | rfl | exact absurd rfl hne
  · cases h
    refine ⟨⟨hauth, hpassword, hcsq, hadoc⟩, fun hmem => ?_, fun _ _ _ => rfl⟩
    rcases of_mem_commandIndices hmem with rfl | rfl | rfl | rfl <;> contradiction

theorem stages_commandConfigStage : Stages commandIndices CommandTemp.get commandConfigValue
    commandConfigStage CommandTemp.Fits fun value => ∀ c ∈ value, c ≠ 0 := by
  constructor
  · exact fun hgood hvalue h => (commandConfigStage_cases hvalue hgood h).1
  · exact fun hi hgood hvalue h => (commandConfigStage_cases hvalue hgood h).2.1 hi
  · exact fun hj hne hgood hvalue h => (commandConfigStage_cases hvalue hgood h).2.2 _ hj hne

/-- The values of the keyed tokens are parts of the string. -/
theorem mem_keyedTokens {table : List (String × Nat)} {tokens : List (List Byte)}
    {a : Nat × List Byte} (h : a ∈ keyedTokens table tokens) {c : Byte} (hc : c ∈ a.2) :
    ∃ t ∈ tokens, c ∈ t := by
  obtain ⟨t, ht, h⟩ := List.mem_filterMap.mp h
  obtain ⟨index, -, rfl⟩ := Option.map_eq_some_iff.mp h
  exact ⟨t, ht, mem_trim (mem_utilsExtractConfigValue hc)⟩

/-- `command_config_set` sets the configuration as a whole. -/
theorem commandConfigSet_atomic {config : List Byte}
    (hlen : config.length = commandModule.configSize)
    (hvalid : commandModule.validates config = true) (alloc : Bool) (configString : List Byte) :
    (commandConfigSet alloc config configString).Atomic commandModule commandIndices
      commandConfigField commandConfigValue
      (keyedTokens sCmdCfgKeys (strtokTokens (· == comma) (cString configString))) config := by
  rcases commandConfigSet_cases alloc config configString with
    ⟨r, hr, hreply⟩ | ⟨copy, temp, hcopy, hstage, hreply⟩
  · rw [hreply]
    exact ⟨fun _ => rfl, fun h => absurd h hr, fun h => absurd h hr⟩
  · have hchecked := (commandConfigSet_spec alloc config configString).1.validates
    rw [hreply] at hchecked ⊢
    refine ⟨fun h => absurd rfl h, fun h => hchecked h hlen hvalid, fun _ => ?_⟩
    obtain ⟨hfits, hget⟩ := CommandTemp.ofConfig_get hlen hvalid
    have hvalues : ∀ a ∈ keyedTokens sCmdCfgKeys (strtokTokens (· == comma) copy),
        ∀ c ∈ a.2, c ≠ 0 := by
      intro a ha c hc
      obtain ⟨t, ht, hmem⟩ := mem_keyedTokens ha hc
      exact ne_zero_of_token hcopy t ht c hmem
    obtain ⟨hfits', hassigned⟩ := stages_commandConfigStage.run hvalues hfits
      (stageAll_of_stageKeyed hstage)
    rw [← utilsStrdupForTokenization_some hcopy]
    exact hassigned.congr (fun i _ => (congrFun hget i).symm) (hfits'.field_update hlen)

end WalnutGateway
