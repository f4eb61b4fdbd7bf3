import WalnutGateway.Command.Authorize
import WalnutGateway.Config.Atomic
import WalnutGateway.Core.Decimal

/-!
# The get functions of the modules

Each `GET-*-CONFIG` command writes the configuration as `key:value` texts with commas between them.
Here is how a set function takes such a text apart again: each token has its key and its value.
-/

namespace WalnutGateway

/-! ## Texts -/

/-- `CMD_HANDLER_MAX_RESPONSE_LENGTH`. -/
def cmdHandlerMaxResponseLength : Nat := 160

/-- `snprintf` into a buffer, and its check for the size. -/
def formatInto (bufferSize : Nat) (text : List Byte) : Except Result (List Byte) :=
  if bufferSize = 0 then .error .invalidParam
  else if text.length ≥ bufferSize then .error .error
  else .ok text

/-- The text for one field. -/
def configEntry (key : String) (value : List Byte) : List Byte := asciiBytes key ++ colon :: value

/-- The text for the fields of a format. -/
def configText {ι : Type} (format : List (String × ι)) (values : ι → List Byte) : List Byte :=
  commaJoin (format.map fun row => configEntry row.1 (values row.2))

/-- `%d`. -/
def intBytes (n : ℤ) : List Byte := fixedBytes (n < 0) 0 n.natAbs

/-- The two words for a `BOOL`. -/
def boolText (yes no : String) (bytes : List Byte) : List Byte :=
  asciiBytes (if leNat bytes ≠ 0 then yes else no)

/-- The format of `network_config_get_string`. -/
def networkFormat : List (String × Nat) :=
  [("apn", 0), ("user", 1), ("pass", 2), ("cid", 3), ("auto", 4)]

/-- What it writes for a field. -/
def networkFieldText (block : List Byte) : Nat → List Byte
  | 0 => fieldString block 0
  | 1 => fieldString block usernameOffset
  | 2 => fieldString block passwordOffset
  | 3 => intBytes (uint32ToInt32 (leNat (field block 96 4)))
  | _ => boolText "TRUE" "FALSE" (field block 100 1)

/-- `network_config_get_string`. -/
def networkConfigGetString (block : List Byte) (bufferSize : Nat) : Except Result (List Byte) :=
  formatInto bufferSize (configText networkFormat (networkFieldText block))

/-- The format of `command_config_get_string`. -/
def commandFormat : List (String × Nat) :=
  [("auth-en", 0), ("pass", 1), ("min-csq", 2), ("adoc-net-task", 3)]

/-- What it writes for a field. -/
def commandFieldText (block : List Byte) : Nat → List Byte
  | 0 => boolText "TRUE" "FALSE" (field block 0 1)
  | 1 => fieldString block authPasswordOffset
  | 2 => decimalBytes (leNat (field block minCsqThresholdOffset 1))
  | _ => boolText "TRUE" "FALSE" (field block adocNetTaskFlagOffset 1)

/-- `command_config_get_string`. -/
def commandConfigGetString (block : List Byte) (bufferSize : Nat) : Except Result (List Byte) :=
  formatInto bufferSize (configText commandFormat (commandFieldText block))

/-- The format of `weware_tcp_config_get_string`. -/
def tcpFormat : List (String × List Byte) :=
  ["ip", "port", "conn-to", "send-to", "retry", "loginwithgps", "live-first"].map fun key =>
    (key, asciiBytes key)

/-- What it writes for a field. -/
def tcpFieldText (block key : List Byte) : List Byte :=
  if key = asciiBytes "ip" then fieldString block 0
  else if key = asciiBytes "loginwithgps" ∨ key = asciiBytes "live-first" then
    boolText "true" "false" (fieldAt tcpFieldPlace block key)
  else decimalBytes (leNat (fieldAt tcpFieldPlace block key))

/-- `weware_tcp_config_get_string`. -/
def wewareTcpConfigGetString (block : List Byte) (bufferSize : Nat) :
    Except Result (List Byte) :=
  formatInto bufferSize (configText tcpFormat (tcpFieldText block))

example : networkConfigGetString networkModule.defaultBlock cmdHandlerMaxResponseLength =
    .ok (asciiBytes "apn:wheelseye.com,user:,pass:,cid:1,auto:TRUE") := by decide +kernel

/-! ## Digits are read back -/

theorem digitByte_class : ∀ d < 10, isdigit (digitByte d) = true ∧ isspace (digitByte d) = false ∧
    digitByte d ≠ 0x2B ∧ digitByte d ≠ 0x2D ∧ digitByte d ≠ comma ∧ digitByte d ≠ 0 := by
  decide

theorem isdigit_of_mem_decimalBytes {n : Nat} {c : Byte} (h : c ∈ decimalBytes n) :
    isdigit c = true := by
  obtain ⟨d, hd, rfl⟩ := mem_decimalDigits h
  exact (digitByte_class d hd).1

/-- `strtol` reads a printed number to its end. -/
theorem strtolScan_decimalBytes (n : Nat) :
    strtolScan (decimalBytes n) = some (false, n, []) := by
  have hscan : strtolScan (decimalBytes n ++ []) =
      some (false, digitsFrom 0 (decimalBytes n), []) :=
    strtolScan_of_digits (decimalBytes_ne_nil n) (fun _ => isdigit_of_mem_decimalBytes) nofun
  rwa [List.append_nil, digitsFrom_decimalBytes] at hscan

theorem strtol_decimalBytes {n : Nat} (h : n < 2 ^ 31) :
    strtol (decimalBytes n) = some ((n : ℤ), []) := by
  rw [strtol, strtolScan_decimalBytes, Option.map_some]
  dsimp only
  rw [if_neg Bool.false_ne_true, min_eq_left (by omega)]

theorem strtoul_decimalBytes {n : Nat} (h : n ≤ uint32Max) :
    strtoul (decimalBytes n) = some (n, []) := by
  rw [strtoul, strtolScan_decimalBytes, Option.map_some]
  dsimp only
  rw [if_neg (not_lt.mpr h), if_neg Bool.false_ne_true]

theorem atol_decimalBytes {n : Nat} (h : n < 2 ^ 31) : atol (decimalBytes n) = n := by
  rw [atol, strtol_decimalBytes h, Option.elim_some]

theorem intBytes_natCast (n : Nat) : intBytes n = decimalBytes n := by
  simp [intBytes, fixedBytes]

/-! ## Texts are taken apart -/

/-- A key that stands for itself in a token. -/
structure KeyText (key : String) : Prop where
  length : (asciiBytes key).length ≠ 0 ∧ (asciiBytes key).length < 32
  plain : ∀ c ∈ asciiBytes key, c ≠ colon ∧ c ≠ comma ∧ c ≠ 0 ∧ isspace c = false

instance (key : String) : Decidable (KeyText key) :=
  decidable_of_iff (((asciiBytes key).length ≠ 0 ∧ (asciiBytes key).length < 32) ∧
    ∀ c ∈ asciiBytes key, c ≠ colon ∧ c ≠ comma ∧ c ≠ 0 ∧ isspace c = false)
    ⟨fun h => ⟨h.1, h.2⟩, fun h => ⟨h.1, h.2⟩⟩

/-- A value that stands for itself in a token: no comma, and nothing at its end that is trimmed. -/
structure ValueText (p : Byte → Bool) (value : List Byte) : Prop where
  plain : ∀ c ∈ value, c ≠ comma ∧ c ≠ 0
  last : ∀ c ∈ value.getLast?, p c = false

theorem isspace_of_isBlank {c : Byte} (h : isBlank c = true) : isspace c = true := by
  simp only [isBlank, Bool.or_eq_true, beq_iff_eq] at h
  rcases h with rfl | rfl <;> decide

theorem ValueText.isBlank {value : List Byte} (h : ValueText isspace value) :
    ValueText isBlank value := by
  refine ⟨h.plain, fun c hc => ?_⟩
  by_contra hnot
  have hspace := isspace_of_isBlank (Bool.not_eq_false _ ▸ hnot)
  rw [h.last c hc] at hspace
  cases hspace

theorem valueText_decimalBytes (n : Nat) : ValueText isspace (decimalBytes n) := by
  have hdigit {c : Byte} (hc : c ∈ decimalBytes n) : ∃ d < 10, c = digitByte d :=
    mem_decimalDigits hc
  constructor
  · intro c hc
    obtain ⟨d, hd, rfl⟩ := hdigit hc
    exact (digitByte_class d hd).2.2.2.2
  · intro c hc
    obtain ⟨d, hd, rfl⟩ := hdigit (List.mem_of_getLast? hc)
    exact (digitByte_class d hd).2.1

section Entry

variable {key : String} {value : List Byte}

/-- What stands before the first colon of an entry, and behind it. -/
theorem KeyText.split (h : KeyText key) (value : List Byte) :
    (configEntry key value).takeWhile (· != colon) = asciiBytes key ∧
      ((configEntry key value).dropWhile (· != colon)).drop 1 = value := by
  have hkey : ∀ c ∈ asciiBytes key, (c != colon) = true := by
    intro c hc
    simpa using (h.plain c hc).1
  constructor
  · rw [configEntry, List.takeWhile_append_of_pos hkey, List.takeWhile_cons_of_neg (by simp),
      List.append_nil]
  · rw [configEntry, List.dropWhile_append_of_pos hkey, List.dropWhile_cons_of_neg (by simp)]
    rfl

/-- Nothing is trimmed from an entry. -/
theorem KeyText.trim_configEntry (h : KeyText key) {p : Byte → Bool} (hvalue : ValueText p value)
    (hp : ∀ c, p c = true → isspace c = true) :
    trim p (configEntry key value) = configEntry key value := by
  have hcolon : p colon = false := by
    by_contra hnot
    have hspace := hp colon (by simpa using hnot)
    revert hspace
    decide
  obtain ⟨c, cs, hcons⟩ := List.exists_cons_of_length_pos (Nat.pos_of_ne_zero h.length.1)
  have hfirst : p c = false := by
    by_contra hnot
    have hspace := hp c (by simpa using hnot)
    rw [(h.plain c (by rw [hcons]; exact List.mem_cons_self ..)).2.2.2] at hspace
    cases hspace
  have hlast : ∀ c ∈ (configEntry key value).getLast?, p c = false := by
    intro c hc
    rw [configEntry, List.getLast?_append_cons] at hc
    cases value with
    | nil =>
      cases hc
      exact hcolon
    | cons v vs =>
      rw [List.getLast?_cons_cons] at hc
      exact hvalue.last c hc
  have hne : configEntry key value ≠ [] := by
    rw [configEntry, hcons]
    exact List.cons_ne_nil _ _
  rw [trim, configEntry, hcons, List.cons_append,
    List.dropWhile_cons_of_neg (by rw [hfirst]; exact Bool.false_ne_true), ← List.cons_append,
    ← hcons, ← configEntry, List.rdropWhile_eq_self_iff]
  intro hnil
  rw [hlast _ (List.getLast?_eq_some_getLast hnil)]
  exact Bool.false_ne_true

theorem colon_mem_configEntry (key : String) (value : List Byte) :
    colon ∈ configEntry key value :=
  List.mem_append_right _ (List.mem_cons_self ..)

/-- The value is taken from an entry. -/
theorem KeyText.extract (h : KeyText key) (value : List Byte) :
    utilsExtractConfigValue (configEntry key value) = value := by
  rw [utilsExtractConfigValue, if_pos (colon_mem_configEntry key value), (h.split value).2]

/-- The key is found before it. -/
theorem KeyText.parseKey (h : KeyText key) (value : List Byte) :
    utilsConfigParseKey (configEntry key value) 32 = some (asciiBytes key) := by
  unfold utilsConfigParseKey
  dsimp only
  rw [(h.split value).1, if_neg (not_not_intro (colon_mem_configEntry key value)), if_neg]
  rw [not_or, not_le]
  exact h.length

/-- No comma and no NUL in an entry. -/
theorem KeyText.plain_configEntry (h : KeyText key) {p : Byte → Bool}
    (hvalue : ValueText p value) : ∀ c ∈ configEntry key value, c ≠ comma ∧ c ≠ 0 := by
  intro c hc
  rcases List.mem_append.mp hc with hc | hc
  · exact ⟨(h.plain c hc).2.1, (h.plain c hc).2.2.1⟩
  · rcases List.mem_cons.mp hc with rfl | hc
    · decide
    · exact hvalue.plain c hc

end Entry

theorem commaJoin_cons_cons (t t' : List Byte) (ts : List (List Byte)) :
    commaJoin (t :: t' :: ts) = t ++ comma :: commaJoin (t' :: ts) := by
  rw [commaJoin, List.flatMap_cons, List.cons_append]
  rfl

/-- Tokens with commas between them are found again. -/
theorem strtokTokens_commaJoin {tokens : List (List Byte)}
    (h : ∀ t ∈ tokens, t ≠ [] ∧ comma ∉ t) :
    strtokTokens (· == comma) (commaJoin tokens) = tokens := by
  induction tokens with
  | nil => rfl
  | cons t tokens ih =>
    obtain ⟨⟨hne, hcomma⟩, htokens⟩ := List.forall_mem_cons.mp h
    obtain ⟨c, cs, rfl⟩ := List.exists_cons_of_ne_nil hne
    have hplain : ∀ x ∈ c :: cs, (! (x == comma)) = true := by
      intro x hx
      rw [Bool.not_eq_true', beq_eq_false_iff_ne]
      exact fun heq => hcomma (heq ▸ hx)
    have hstart (rest : List Byte) : (c :: rest).dropWhile (· == comma) = c :: rest :=
      List.dropWhile_cons_of_neg (by simpa using hplain c (List.mem_cons_self ..))
    -- The first call takes the first token, whatever is behind its comma.
    have hfirst (rest : List Byte) : utilsStrtokR (· == comma) ((c :: cs) ++ comma :: rest) =
        some (c :: cs, rest) := by
      unfold utilsStrtokR
      dsimp only
      rw [List.cons_append, hstart, if_neg (List.cons_ne_nil _ _), ← List.cons_append,
        List.takeWhile_append_of_pos hplain, List.dropWhile_append_of_pos hplain]
      simp
    rw [strtokTokens_eq]
    cases tokens with
    | nil =>
      have hlast : utilsStrtokR (· == comma) (c :: cs) = some (c :: cs, []) := by
        unfold utilsStrtokR
        dsimp only
        rw [hstart, if_neg (List.cons_ne_nil _ _), List.takeWhile_eq_self_iff.mpr hplain,
          List.dropWhile_eq_nil_iff.mpr hplain]
        rfl
      rw [commaJoin, List.flatMap_nil, List.append_nil, hlast]
      rfl
    | cons t' tokens =>
      rw [commaJoin_cons_cons, hfirst, Option.elim_some, ih htokens]

/-- The same for the pieces of the TCP module. -/
theorem splitOn_commaJoin {tokens : List (List Byte)} (hne : tokens ≠ [])
    (h : ∀ t ∈ tokens, comma ∉ t) : (commaJoin tokens).splitOn comma = tokens := by
  induction tokens with
  | nil => exact absurd rfl hne
  | cons t tokens ih =>
    obtain ⟨hcomma, htokens⟩ := List.forall_mem_cons.mp h
    have hplain : ∀ x ∈ t, (x == comma) = false := by
      intro x hx
      rw [beq_eq_false_iff_ne]
      exact fun heq => hcomma (heq ▸ hx)
    rw [List.splitOn_eq_splitOnP] at ih ⊢
    cases tokens with
    | nil =>
      rw [commaJoin, List.flatMap_nil, List.append_nil, List.splitOnP_eq_singleton hplain]
    | cons t' tokens =>
      rw [commaJoin_cons_cons, List.splitOnP_append_cons_of_forall_mem hplain comma rfl,
        ih (List.cons_ne_nil _ _) htokens]

section Format

variable {ι : Type} {format : List (String × ι)} {values : ι → List Byte}

/-- A format whose keys and values stand for themselves. -/
structure PlainText (p : Byte → Bool) (format : List (String × ι)) (values : ι → List Byte) :
    Prop where
  keys : ∀ row ∈ format, KeyText row.1
  values : ∀ row ∈ format, ValueText p (values row.2)

theorem PlainText.cString {p : Byte → Bool} (h : PlainText p format values) :
    cString (configText format values) = configText format values := by
  have hentry : ∀ row ∈ format, ∀ c ∈ configEntry row.1 (values row.2), c ≠ comma ∧ c ≠ 0 :=
    fun row hrow => (h.keys row hrow).plain_configEntry (h.values row hrow)
  refine cString_of_ne_zero fun c hc => ?_
  unfold configText at hc
  cases format with
  | nil => cases hc
  | cons row format =>
    rw [List.map_cons, commaJoin] at hc
    rcases List.mem_append.mp hc with hc | hc
    · exact (hentry row (List.mem_cons_self ..) c hc).2
    · obtain ⟨t, ht, hc⟩ := List.mem_flatMap.mp hc
      obtain ⟨row', hrow', rfl⟩ := List.mem_map.mp ht
      rcases List.mem_cons.mp hc with rfl | hc
      · decide
      · exact (hentry row' (List.mem_cons_of_mem _ hrow') c hc).2

/-- A text is as long as its keys and values, and a character for each colon and comma. -/
theorem length_configText (format : List (String × ι)) (values : ι → List Byte) :
    (configText format values).length ≤
      (format.map fun row => (asciiBytes row.1).length + (values row.2).length + 2).sum := by
  have hentries (format : List (String × ι)) :
      ((format.map fun row => configEntry row.1 (values row.2)).flatMap (comma :: ·)).length =
        (format.map fun row => (asciiBytes row.1).length + (values row.2).length + 2).sum := by
    induction format with
    | nil => rfl
    | cons row format ih =>
      rw [List.map_cons, List.flatMap_cons, List.length_append, ih, List.map_cons, List.sum_cons,
        List.length_cons, configEntry, List.length_append, List.length_cons]
      omega
  unfold configText
  cases format with
  | nil => exact Nat.zero_le _
  | cons row format =>
    rw [List.map_cons, commaJoin, List.length_append, hentries, List.map_cons, List.sum_cons,
      configEntry, List.length_append, List.length_cons]
    omega

/-- The tokens of a text are its entries. -/
theorem PlainText.tokens {p : Byte → Bool} (h : PlainText p format values) :
    strtokTokens (· == comma) (configText format values) =
      format.map fun row => configEntry row.1 (values row.2) := by
  refine strtokTokens_commaJoin fun t ht => ?_
  obtain ⟨row, hrow, rfl⟩ := List.mem_map.mp ht
  refine ⟨?_, fun hmem => ?_⟩
  · rw [configEntry]
    exact List.append_ne_nil_of_right_ne_nil _ (List.cons_ne_nil _ _)
  · exact ((h.keys row hrow).plain_configEntry (h.values row hrow) comma hmem).1 rfl

end Format

/-- Entries with keys that the table knows are staged one after the other. -/
theorem stageKeyed_entries {σ : Type} {table : List (String × Nat)}
    (stage : Nat → List Byte → σ → Option σ) {format : List (String × Nat)}
    {values : Nat → List Byte} (h : PlainText isBlank format values)
    (htable : ∀ row ∈ format, utilsConfigKeyToIndex (asciiBytes row.1) table = some row.2)
    (parsedAny : Bool) (temp : σ) :
    stageKeyed table stage (format.map fun row => configEntry row.1 (values row.2)) parsedAny temp =
      (stageAll stage (format.map fun row => (row.2, values row.2)) temp).map
        (format.foldl (fun _ _ => true) parsedAny, ·) := by
  induction format generalizing parsedAny temp with
  | nil => rfl
  | cons row format ih =>
    obtain ⟨hkey, hkeys⟩ := List.forall_mem_cons.mp h.keys
    obtain ⟨hvalue, hvalues⟩ := List.forall_mem_cons.mp h.values
    obtain ⟨hindex, hindices⟩ := List.forall_mem_cons.mp htable
    have htrim : utilsTrimWhitespace (configEntry row.1 (values row.2)) =
        configEntry row.1 (values row.2) :=
      hkey.trim_configEntry hvalue fun _ => isspace_of_isBlank
    rw [List.map_cons, List.map_cons, stageKeyed, htrim, hkey.parseKey]
    dsimp only
    rw [hindex]
    dsimp only
    rw [hkey.extract, stageAll]
    cases hstage : stage row.2 (values row.2) temp with
    | none => rfl
    | some next =>
      rw [Option.bind_some, Option.bind_some, ih ⟨hkeys, hvalues⟩ hindices]
      rfl

end WalnutGateway
