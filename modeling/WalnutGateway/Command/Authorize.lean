import WalnutGateway.Command.Handler
import WalnutGateway.Config.File

/-!
# Who may run a command

The name of a command is upper-cased by the parser, looked up without regard to case,
and compared exactly where the authentication is decided; on the names of the table the
three agree. A protected command runs only for arguments whose first token is the
password, and a refused request shows nothing but the name of its command.
-/

namespace WalnutGateway

/-! ## Names -/

/-- Upper case after lower case changes nothing in the characters of a parsed name. -/
def IsUpper (s : List Byte) : Prop := ∀ c ∈ s, toupper (tolower c) = c

theorem toupper_tolower_toupper (c : Byte) : toupper (tolower (toupper c)) = toupper c := by
  revert c
  apply forall_byte
  decide +kernel

theorem isUpper_map_toupper (s : List Byte) : IsUpper (s.map toupper) := by
  intro c hc
  obtain ⟨b, -, rfl⟩ := List.mem_map.mp hc
  exact toupper_tolower_toupper b

/-- Two such names that differ in case only are the same. -/
theorem eq_of_strcaseEq {a b : List Byte} (ha : IsUpper a) (hb : IsUpper b)
    (h : strcaseEq a b = true) : a = b := by
  have hupper {s : List Byte} (hs : IsUpper s) : (s.map tolower).map toupper = s := by
    rw [List.map_map]
    exact (List.map_congr_left hs).trans (List.map_id s)
  unfold strcaseEq at h
  rw [← hupper ha, ← hupper hb, eq_of_beq h]

theorem strcaseEq_refl (a : List Byte) : strcaseEq a a = true := beq_self_eq_true _

/-! ## The table -/

theorem isUpper_of_mem_gCmdTable {e : CmdHandlerEntry} (h : e ∈ gCmdTable) :
    IsUpper (asciiBytes e.name) := by
  have hall : ∀ e ∈ gCmdTable, ∀ c ∈ asciiBytes e.name, toupper (tolower c) = c := by
    decide +kernel
  exact hall e h

theorem cmdGetCommandEntry_of_mem {e : CmdHandlerEntry} (h : e ∈ gCmdTable) :
    cmdGetCommandEntry e.cmdEnum = some e := by
  have hall : ∀ e ∈ gCmdTable, cmdGetCommandEntry e.cmdEnum = some e := by
    decide +kernel
  exact hall e h

theorem cmdFindCommandEnum_of_mem {e : CmdHandlerEntry} (h : e ∈ gCmdTable) :
    cmdFindCommandEnum (asciiBytes e.name) = e.cmdEnum ∧ e.cmdEnum ≠ .unknown := by
  have hall : ∀ e ∈ gCmdTable, cmdFindCommandEnum (asciiBytes e.name) = e.cmdEnum ∧
      e.cmdEnum ≠ .unknown := by
    decide +kernel
  exact hall e h

/-- The names that always need authentication are those of two commands. -/
theorem alwaysRequireAuth_of_mem {e : CmdHandlerEntry} (h : e ∈ gCmdTable) :
    alwaysRequireAuth (asciiBytes e.name) = true ↔
      e.cmdEnum = .setCommandConfig ∨ e.cmdEnum = .getCommandConfig := by
  have hall : ∀ e ∈ gCmdTable, alwaysRequireAuth (asciiBytes e.name) = true ↔
      e.cmdEnum = .setCommandConfig ∨ e.cmdEnum = .getCommandConfig := by
    decide +kernel
  exact hall e h

/-- What is found for a parsed name is the entry of exactly this name. -/
theorem cmdGetCommandEntry_cmdFindCommandEnum {cmd : List Byte} (hcmd : IsUpper cmd)
    {e : CmdHandlerEntry} (h : cmdGetCommandEntry (cmdFindCommandEnum cmd) = some e) :
    e ∈ gCmdTable ∧ cmd = asciiBytes e.name := by
  unfold cmdFindCommandEnum at h
  cases hfind : gCmdTable.find? fun e => strcaseEq (asciiBytes e.name) cmd with
  | none =>
    rw [hfind] at h
    cases h
  | some found =>
    have hmem := List.mem_of_find?_eq_some hfind
    have hname : strcaseEq (asciiBytes found.name) cmd = true := by
      simpa using List.find?_some hfind
    rw [hfind, Option.elim_some, cmdGetCommandEntry_of_mem hmem] at h
    obtain rfl := Option.some.inj h
    exact ⟨hmem, (eq_of_strcaseEq (isUpper_of_mem_gCmdTable hmem) hcmd hname).symm⟩

/-! ## What the parser leaves -/

/-- A parsed name is in upper case, and the arguments fit their buffer. -/
theorem cmdParseCommand_some {text cmd args : List Byte}
    (h : cmdParseCommand text = some (cmd, args)) : IsUpper cmd ∧ args.length ≤ 255 := by
  unfold cmdParseCommand at h
  dsimp only at h
  split_ifs at h
  rw [Option.some.injEq, Prod.mk.injEq] at h
  obtain ⟨rfl, rfl⟩ := h
  exact ⟨isUpper_map_toupper _, List.length_take_le _ _⟩

/-! ## The first token -/

/-- The first token of the arguments, between spaces and tabs. -/
def firstToken (args : List Byte) : Option (List Byte) := (utilsStrtokR isBlank args).map Prod.fst

/-- The arguments without their first token and the blanks on both sides of it. -/
def withoutFirstToken (args : List Byte) : List Byte :=
  ((args.dropWhile isBlank).dropWhile (! isBlank ·)).dropWhile isBlank

/-- The command needs the password under a configuration. -/
def CmdHandlerEntry.Protected (cfg : List Byte) (e : CmdHandlerEntry) : Prop :=
  (authEnable cfg = true ∧ e.requiresAuth = true) ∨
    e.cmdEnum = .setCommandConfig ∨ e.cmdEnum = .getCommandConfig

theorem firstToken_eq_some {args token : List Byte} (h : firstToken args = some token) :
    args.dropWhile isBlank ≠ [] ∧ token = (args.dropWhile isBlank).takeWhile (! isBlank ·) := by
  obtain ⟨⟨first, rest⟩, hcall, rfl⟩ := Option.map_eq_some_iff.mp h
  unfold utilsStrtokR at hcall
  dsimp only at hcall
  split_ifs at hcall with hstart
  rw [Option.some.injEq, Prod.mk.injEq] at hcall
  exact ⟨hstart, hcall.1.symm⟩

theorem cmdAuthenticate_iff {cfg args : List Byte} (hlen : args.length ≤ 255) :
    cmdAuthenticate cfg args = true ↔ firstToken args = some (authPassword cfg) := by
  unfold cmdAuthenticate firstToken
  rw [List.take_of_length_le hlen]
  by_cases hempty : args.length = 0
  · obtain rfl := List.length_eq_zero_iff.mp hempty
    simp [utilsStrtokR]
  · rw [if_neg hempty]
    cases utilsStrtokR isBlank args with
    | none => simp
    | some p => simp

/-- When the first token is the password, cutting the length of the password off
removes that token. -/
theorem cmdRemovePassword_eq {cfg args : List Byte} (hlen : args.length ≤ 255)
    (h : firstToken args = some (authPassword cfg)) :
    cmdRemovePassword cfg args = withoutFirstToken args := by
  obtain ⟨-, htoken⟩ := firstToken_eq_some h
  have hsplit := List.takeWhile_append_dropWhile (p := (! isBlank ·)) (l := args.dropWhile isBlank)
  rw [← htoken] at hsplit
  unfold cmdRemovePassword
  dsimp only
  rw [List.take_of_length_le hlen, ← hsplit, List.take_left, if_pos rfl, List.drop_left]
  apply List.take_of_length_le
  have hfirst := (List.dropWhile_sublist isBlank (l := args)).length_le
  have hsecond := (List.dropWhile_sublist (! isBlank ·) (l := args.dropWhile isBlank)).length_le
  have hthird := (List.dropWhile_sublist isBlank
    (l := (args.dropWhile isBlank).dropWhile (! isBlank ·))).length_le
  omega

/-- The authentication on the entry of a name: arguments come through unchanged for a
command that is not protected, and without the password for one that is. -/
theorem cmdStateHandleAuthenticate_iff {cfg args args' : List Byte} {e : CmdHandlerEntry}
    (he : e ∈ gCmdTable) (hlen : args.length ≤ 255) :
    cmdStateHandleAuthenticate cfg (asciiBytes e.name) args e = some args' ↔
      (¬ e.Protected cfg ∧ args' = args) ∨
        (e.Protected cfg ∧ firstToken args = some (authPassword cfg) ∧
          args' = withoutFirstToken args) := by
  have hprotected : e.Protected cfg ↔ (authEnable cfg = true ∧ e.requiresAuth = true) ∨
      alwaysRequireAuth (asciiBytes e.name) = true := by
    rw [CmdHandlerEntry.Protected, alwaysRequireAuth_of_mem he]
  have hcheck : (if ¬ cmdAuthenticate cfg args then none
      else if args.length > 0 then some (cmdRemovePassword cfg args) else some args) = some args' ↔
        firstToken args = some (authPassword cfg) ∧ args' = withoutFirstToken args := by
    by_cases hauth : cmdAuthenticate cfg args = true
    · have htoken := (cmdAuthenticate_iff hlen).mp hauth
      have hpos : args.length > 0 := by
        by_contra hzero
        rw [cmdAuthenticate, if_pos (by omega)] at hauth
        cases hauth
      rw [if_neg (not_not_intro hauth), if_pos hpos, cmdRemovePassword_eq hlen htoken,
        Option.some.injEq]
      exact ⟨fun heq => ⟨htoken, heq.symm⟩, fun hand => hand.2.symm⟩
    · rw [if_pos hauth]
      refine ⟨nofun, ?_⟩
      rintro ⟨htoken, -⟩
      exact absurd ((cmdAuthenticate_iff hlen).mpr htoken) hauth
  unfold cmdStateHandleAuthenticate
  rw [hprotected]
  by_cases hp : (authEnable cfg = true ∧ e.requiresAuth = true) ∨
      alwaysRequireAuth (asciiBytes e.name) = true
  · rw [if_neg (by tauto), if_pos (by tauto), hcheck]
    constructor
    · intro h
      exact Or.inr ⟨hp, h⟩
    · rintro (⟨hnot, -⟩ | ⟨-, h⟩)
      · exact absurd hp hnot
      · exact h
  · have hargs : (if ¬ authEnable cfg = true ∧ ¬ alwaysRequireAuth (asciiBytes e.name) = true then
        some args
      else if e.requiresAuth = true ∨ alwaysRequireAuth (asciiBytes e.name) = true then
        if ¬ cmdAuthenticate cfg args = true then none
        else if args.length > 0 then some (cmdRemovePassword cfg args) else some args
      else some args) = some args := by
      by_cases hskip : ¬ authEnable cfg = true ∧ ¬ alwaysRequireAuth (asciiBytes e.name) = true
      · rw [if_pos hskip]
      · rw [if_neg hskip, if_neg (by tauto)]
    rw [hargs, Option.some.injEq]
    constructor
    · intro h
      exact Or.inl ⟨hp, h.symm⟩
    · rintro (⟨-, h⟩ | ⟨hyes, -⟩)
      · exact h.symm
      · exact absurd hyes hp

theorem length_withoutFirstToken_le (args : List Byte) :
    (withoutFirstToken args).length ≤ args.length :=
  ((List.dropWhile_sublist _).trans
    ((List.dropWhile_sublist _).trans (List.dropWhile_sublist _))).length_le

/-! ## What a set function is called with -/

/-- Texts with commas between them. -/
def commaJoin : List (List Byte) → List Byte
  | [] => []
  | t :: ts => t ++ ts.flatMap (comma :: ·)

/-- Tokens that fit are written one behind the other. -/
theorem processArgs_eq {tokens : List (List Byte)} {processed : List Byte} (hp : processed ≠ [])
    (hlen : processed.length + (tokens.map fun t => t.length + 1).sum < 512) :
    processArgs tokens processed = processed ++ tokens.flatMap (comma :: ·) := by
  induction tokens generalizing processed with
  | nil => simp [processArgs]
  | cons token tokens ih =>
    have hpos := List.length_pos_iff.mpr hp
    rw [List.map_cons, List.sum_cons] at hlen
    unfold processArgs
    dsimp only
    rw [if_pos hpos, if_neg, ih, List.flatMap_cons, List.append_assoc]
    · rfl
    · simp
    · simp only [List.length_append, List.length_singleton]
      omega
    · simp only [List.length_append, List.length_singleton]
      omega

/-- The tokens together are no longer than the text. -/
theorem sum_length_strtokTokens_le (delim : Byte → Bool) (s : List Byte) :
    ((strtokTokens delim s).map List.length).sum ≤ s.length := by
  suffices hall : ∀ n s, ((strtokCalls delim n s).map List.length).sum ≤ s.length from hall _ s
  intro n
  induction n with
  | zero => exact fun s => Nat.zero_le _
  | succ n ih =>
    intro s
    unfold strtokCalls
    cases hcall : utilsStrtokR delim s with
    | none => exact Nat.zero_le _
    | some p =>
      obtain ⟨token, rest⟩ := p
      obtain ⟨-, -, hlen, -⟩ := utilsStrtokR_some hcall
      have hrest := ih rest
      rw [List.map_cons, List.sum_cons]
      omega

/-- With a comma behind each they are at most twice as long. -/
theorem sum_length_succ_le {tokens : List (List Byte)} (h : ∀ t ∈ tokens, t ≠ []) :
    (tokens.map fun t => t.length + 1).sum ≤ 2 * (tokens.map List.length).sum := by
  induction tokens with
  | nil => exact Nat.le_refl 0
  | cons t tokens ih =>
    rw [List.forall_mem_cons] at h
    have hpos := List.length_pos_iff.mpr h.1
    have hrest := ih h.2
    simp only [List.map_cons, List.sum_cons]
    omega

/-- A set function gets the tokens with commas between them, or what there is if there
is no token. -/
theorem setArgs_eq {args : List Byte} (hlen : args.length ≤ 255) :
    setArgs args =
      if strtokTokens isBlank args = [] then args else commaJoin (strtokTokens isBlank args) := by
  have hne : ∀ t ∈ strtokTokens isBlank args, t ≠ [] := fun t ht => (mem_strtokTokens ht).1
  have hsum := sum_length_strtokTokens_le isBlank args
  unfold setArgs
  dsimp only
  rw [List.take_of_length_le hlen]
  by_cases hempty : args.length > 0
  · rw [if_pos hempty]
    cases htokens : strtokTokens isBlank args with
    | nil => rfl
    | cons t ts =>
      rw [htokens] at hne hsum
      rw [List.forall_mem_cons] at hne
      rw [List.map_cons, List.sum_cons] at hsum
      have htail := sum_length_succ_le hne.2
      have hprocess : processArgs (t :: ts) [] = commaJoin (t :: ts) := by
        have hpiece : (if ([] : List Byte).length > 0 then [comma] else []) = ([] : List Byte) :=
          rfl
        unfold processArgs
        dsimp only
        simp only [hpiece, List.nil_append]
        rw [if_neg, processArgs_eq hne.1 (by omega), commaJoin]
        rw [List.length_nil]
        omega
      rw [hprocess, if_neg, if_neg (List.cons_ne_nil _ _)]
      intro hnil
      exact hne.1 (List.append_eq_nil_iff.mp hnil).1
  · obtain rfl : args = [] := List.length_eq_zero_iff.mp (by omega)
    rfl

/-! ## Which functions are called -/

section Calls

variable {σ : Type} {w : CommandWorld σ} {bufferSize : Nat} {request : ModuleMessage}
  {text : List Byte} {stats : CmdHandlerStats} {s : σ}

/-- A text calls nothing and changes nothing but the counters, or it calls the function of
an entry whose name was parsed, with the arguments that the authentication left. -/
theorem cmdProcessText_cases (w : CommandWorld σ) (bufferSize : Nat) (request : ModuleMessage)
    (text : List Byte) (stats : CmdHandlerStats) (s : σ) :
    ((cmdProcessText w bufferSize request text stats s).calls = [] ∧
        (cmdProcessText w bufferSize request text stats s).state = s) ∨
      ∃ e args args', e ∈ gCmdTable ∧ cmdParseCommand text = some (asciiBytes e.name, args) ∧
        cmdStateHandleAuthenticate (w.config s) (asciiBytes e.name) args e = some args' ∧
        (cmdProcessText w bufferSize request text stats s).calls = [handlerCall e request args'] ∧
        (cmdProcessText w bufferSize request text stats s).state =
          (w.moduleFunc (handlerCall e request args') s).2.2 := by
  unfold cmdProcessText
  dsimp only
  cases hparse : cmdParseCommand text with
  | none => exact Or.inl ⟨rfl, rfl⟩
  | some p =>
    obtain ⟨cmd, args⟩ := p
    dsimp only
    split_ifs
    · exact Or.inl ⟨rfl, rfl⟩
    · cases hentry : cmdGetCommandEntry (cmdFindCommandEnum cmd) with
      | none => exact Or.inl ⟨rfl, rfl⟩
      | some e =>
        obtain ⟨he, rfl⟩ :=
          cmdGetCommandEntry_cmdFindCommandEnum (cmdParseCommand_some hparse).1 hentry
        dsimp only
        cases hauth : cmdStateHandleAuthenticate (w.config s) (asciiBytes e.name) args e with
        | none => exact Or.inl ⟨rfl, rfl⟩
        | some args' => exact Or.inr ⟨e, args, args', he, rfl, hauth, rfl, rfl⟩

/-- A text whose command is refused, if there is such a command. -/
def Refused (cfg text : List Byte) : Prop :=
  ∀ cmd args e, cmdParseCommand text = some (cmd, args) →
    cmdGetCommandEntry (cmdFindCommandEnum cmd) = some e →
    cmdStateHandleAuthenticate cfg cmd args e = none

/-- A refused text calls nothing and changes nothing but the counters. -/
theorem Refused.cmdProcessText (h : Refused (w.config s) text) :
    (cmdProcessText w bufferSize request text stats s).calls = [] ∧
      (cmdProcessText w bufferSize request text stats s).state = s := by
  rcases cmdProcessText_cases w bufferSize request text stats s with
    hsame | ⟨e, args, args', he, hparse, hauth, -, -⟩
  · exact hsame
  · have hentry : cmdGetCommandEntry (cmdFindCommandEnum (asciiBytes e.name)) = some e := by
      rw [(cmdFindCommandEnum_of_mem he).1, cmdGetCommandEntry_of_mem he]
    rw [h _ _ e hparse hentry] at hauth
    cases hauth

/-- The reply to a refused text depends on the name of its command. -/
theorem Refused.cmdProcessText_congr {request' : ModuleMessage} {text' : List Byte}
    (h : Refused (w.config s) text) (h' : Refused (w.config s) text')
    (hname : (cmdParseCommand text).map Prod.fst = (cmdParseCommand text').map Prod.fst) :
    WalnutGateway.cmdProcessText w bufferSize request text stats s =
      WalnutGateway.cmdProcessText w bufferSize request' text' stats s := by
  unfold WalnutGateway.cmdProcessText
  dsimp only
  cases hparse : cmdParseCommand text with
  | none =>
    cases hparse' : cmdParseCommand text' with
    | none => rfl
    | some p' =>
      rw [hparse, hparse'] at hname
      cases hname
  | some p =>
    cases hparse' : cmdParseCommand text' with
    | none =>
      rw [hparse, hparse'] at hname
      cases hname
    | some p' =>
      obtain ⟨cmd, args⟩ := p
      obtain ⟨cmd', args'⟩ := p'
      obtain rfl : cmd = cmd' := by
        rw [hparse, hparse'] at hname
        exact Option.some.inj hname
      dsimp only
      split_ifs
      · rfl
      · cases hentry : cmdGetCommandEntry (cmdFindCommandEnum cmd) with
        | none => rfl
        | some e =>
          dsimp only
          rw [h cmd args e hparse hentry, h' cmd args' e hparse' hentry]

end Calls

/-! ## Texts that differ in a token -/

/-- The part of a text before a token has a command name and the space behind it. -/
def CommandPart (pre : List Byte) : Prop :=
  strncaseEq (asciiBytes "MOD:") (pre.dropWhile isBlank) = true ∧
    space ∈ ((pre.dropWhile isBlank).drop 4).dropWhile isspace

instance (pre : List Byte) : Decidable (CommandPart pre) := inferInstanceAs (Decidable (_ ∧ _))

/-- The text is as good as the string in the memory. -/
theorem cmdParseCommand_congr {text text' : List Byte}
    (h : (cString text).take 511 = (cString text').take 511) :
    cmdParseCommand text = cmdParseCommand text' := by
  have htemp : cString (utilsStrncpySafe 512 text).toList =
      cString (utilsStrncpySafe 512 text').toList := by
    rw [cString_utilsStrncpySafe (by decide), cString_utilsStrncpySafe (by decide)]
    exact h
  unfold cmdParseCommand
  rw [htemp]

theorem cmdParseCommand_cString (text : List Byte) :
    cmdParseCommand (cString text) = cmdParseCommand text := by
  apply cmdParseCommand_congr
  rw [cString_of_ne_zero fun _ => ne_zero_of_mem_cString]

theorem Refused.of_cString {cfg text : List Byte} (h : Refused cfg (cString text)) :
    Refused cfg text := by
  unfold Refused at h ⊢
  rwa [cmdParseCommand_cString] at h

theorem rdropWhile_append_cons {α : Type} {p : α → Bool} (l : List α) {c : α} (hc : p c = false)
    (u : List α) : (l ++ c :: u).rdropWhile p = l ++ c :: u.rdropWhile p := by
  unfold List.rdropWhile
  have hreverse : (l ++ c :: u).reverse = u.reverse ++ c :: l.reverse := by simp
  rw [hreverse, List.dropWhile_append]
  by_cases hempty : (u.reverse.dropWhile p).isEmpty = true
  · have hnil : u.reverse.dropWhile p = [] := List.isEmpty_iff.mp hempty
    rw [if_pos hempty, List.dropWhile_cons_of_neg (by simp [hc]), hnil]
    simp
  · rw [if_neg hempty]
    simp

/-- The command is in the part before the token. -/
theorem cmdParseCommand_fst {pre u text : List Byte} {c : Byte} (hpre : CommandPart pre)
    (hc : isBlank c = false) (htext : (cString text).take 511 = pre ++ c :: u) :
    (cmdParseCommand text).map Prod.fst =
      (let cmdStart := ((pre.dropWhile isBlank).drop 4).dropWhile isspace
      let name := ((cmdStart.takeWhile (· != space)).take 63).map toupper
      if name.length > 0 then some name else none) := by
  obtain ⟨htag, hspace⟩ := hpre
  have htemp : cString (utilsStrncpySafe 512 text).toList = pre ++ c :: u := by
    rw [cString_utilsStrncpySafe (by decide)]
    exact htext
  have hne {l : List Byte} (h : space ∈ l) : l.isEmpty = false := by
    cases l with
    | nil => cases h
    | cons b bs => rfl
  have hstart : utilsTrimWhitespace (pre ++ c :: u) =
      pre.dropWhile isBlank ++ c :: u.rdropWhile isBlank := by
    have hfirst : (pre.dropWhile isBlank).isEmpty = false :=
      hne (List.mem_of_mem_drop ((List.dropWhile_sublist isspace).subset hspace))
    rw [utilsTrimWhitespace, trim, List.dropWhile_append, hfirst]
    exact rdropWhile_append_cons _ hc u
  have hlen : 4 ≤ (pre.dropWhile isBlank).length := by
    have hcase := congrArg List.length (eq_of_beq htag)
    have htag : (asciiBytes "MOD:").length = 4 := by decide
    rw [List.length_map, List.length_map, List.length_take, htag] at hcase
    omega
  unfold cmdParseCommand
  rw [htemp]
  dsimp only
  rw [hstart]
  generalize pre.dropWhile isBlank = start at htag hspace hlen ⊢
  have htake : strncaseEq (asciiBytes "MOD:") (start ++ c :: u.rdropWhile isBlank) = true := by
    have hfour : (start ++ c :: u.rdropWhile isBlank).take (asciiBytes "MOD:").length =
        start.take (asciiBytes "MOD:").length := List.take_append_of_le_length hlen
    rw [strncaseEq, hfour]
    exact htag
  rw [if_neg (not_not_intro htake), List.drop_append_of_le_length hlen, List.dropWhile_append,
    hne hspace]
  generalize (start.drop 4).dropWhile isspace = command at hspace ⊢
  have hname : (command ++ c :: u.rdropWhile isBlank).takeWhile (· != space) =
      command.takeWhile (· != space) := by
    rw [List.takeWhile_append, if_neg]
    intro hall
    have hself : command.takeWhile (· != space) = command :=
      (List.takeWhile_prefix _).eq_of_length hall
    rw [← hself] at hspace
    simpa using List.mem_takeWhile_imp hspace
  rw [if_neg Bool.false_ne_true, hname]
  split_ifs <;> rfl

/-- The text of a request. -/
def requestText (request : ModuleMessage) : Option (List Byte) := request.payloadPtr.map cString

/-- Two requests of one source that differ in a token behind the command name. -/
structure SameButToken (request request' : ModuleMessage) (pre token token' post : List Byte) :
    Prop where
  source : request.sourceModule = request'.sourceModule
  text : requestText request = some (pre ++ token ++ post)
  text' : requestText request' = some (pre ++ token' ++ post)
  dataLen : request.dataLen ≠ 0
  dataLen' : request'.dataLen ≠ 0
  command : CommandPart pre
  token : token ≠ [] ∧ ∀ c ∈ token, isBlank c = false
  token' : token' ≠ [] ∧ ∀ c ∈ token', isBlank c = false

theorem SameButToken.symm {request request' : ModuleMessage} {pre token token' post : List Byte}
    (h : SameButToken request request' pre token token' post) :
    SameButToken request' request pre token' token post :=
  ⟨h.source.symm, h.text', h.text, h.dataLen', h.dataLen, h.command, h.token', h.token⟩

/-- A text for a protected command, if for any, whose first token is not the password. -/
def WrongToken (cfg text : List Byte) : Prop :=
  ∀ e ∈ gCmdTable, ∀ args, cmdParseCommand text = some (asciiBytes e.name, args) →
    e.Protected cfg ∧ firstToken args ≠ some (authPassword cfg)

theorem WrongToken.refused {cfg text : List Byte} (h : WrongToken cfg text) : Refused cfg text := by
  intro cmd args e hparse hentry
  obtain ⟨hupper, hlen⟩ := cmdParseCommand_some hparse
  obtain ⟨he, rfl⟩ := cmdGetCommandEntry_cmdFindCommandEnum hupper hentry
  obtain ⟨hprotected, hwrong⟩ := h e he args hparse
  rw [Option.eq_none_iff_forall_ne_some]
  intro args' hauth
  rcases (cmdStateHandleAuthenticate_iff he hlen).mp hauth with ⟨hnot, -⟩ | ⟨-, htoken, -⟩
  · exact hnot hprotected
  · exact hwrong htoken

/-- Texts that differ in a token behind the command name have the same command name. -/
theorem cmdParseCommand_fst_token {pre token token' : List Byte} (hpre : CommandPart pre)
    (htoken : token ≠ [] ∧ ∀ c ∈ token, isBlank c = false)
    (htoken' : token' ≠ [] ∧ ∀ c ∈ token', isBlank c = false) {post text text' : List Byte}
    (htext : cString text = pre ++ token ++ post) (htext' : cString text' = pre ++ token' ++ post) :
    (cmdParseCommand text).map Prod.fst = (cmdParseCommand text').map Prod.fst := by
  by_cases hlong : 511 ≤ pre.length
  · rw [cmdParseCommand_congr]
    rw [htext, htext', List.append_assoc, List.append_assoc, List.take_append_of_le_length hlong,
      List.take_append_of_le_length hlong]
  · have hcut {token text : List Byte} (htoken : token ≠ [] ∧ ∀ c ∈ token, isBlank c = false)
        (htext : cString text = pre ++ token ++ post) : ∃ c u, isBlank c = false ∧
          (cString text).take 511 = pre ++ c :: u := by
      obtain ⟨c, cs, rfl⟩ := List.exists_cons_of_ne_nil htoken.1
      obtain ⟨k, hk⟩ : ∃ k, 511 - pre.length = k + 1 := ⟨511 - pre.length - 1, by omega⟩
      refine ⟨c, (cs ++ post).take k, htoken.2 c (List.mem_cons_self ..), ?_⟩
      rw [htext, List.append_assoc, List.take_append, List.take_of_length_le (by omega), hk]
      rfl
    obtain ⟨c, u, hc, hu⟩ := hcut htoken htext
    obtain ⟨c', u', hc', hu'⟩ := hcut htoken' htext'
    rw [cmdParseCommand_fst hpre hc hu, cmdParseCommand_fst hpre hc' hu']

/-- A text with a command name is not for the UART. -/
theorem not_stm_of_commandPart {pre : List Byte} (h : CommandPart pre) (tail : List Byte) :
    strncaseEq (asciiBytes "STM:") (pre ++ tail) = false := by
  cases pre with
  | nil => exact absurd h.1 (by decide)
  | cons c pre =>
    have hhead {word : List Byte} {s : List Byte} (hword : word ≠ [])
        (heq : strncaseEq word (c :: s) = true) : tolower c = tolower (word.head hword) := by
      obtain ⟨d, ds, rfl⟩ := List.exists_cons_of_ne_nil hword
      exact (List.cons.inj (eq_of_beq heq)).1
    by_contra hstm
    rw [Bool.not_eq_false] at hstm
    have hs : tolower c = 0x73 := hhead (by decide) hstm
    by_cases hblank : isBlank c = true
    · unfold isBlank at hblank
      rw [Bool.or_eq_true, beq_iff_eq, beq_iff_eq] at hblank
      rcases hblank with rfl | rfl
      · exact absurd hs (by decide)
      · exact absurd hs (by decide)
    · have hmod := h.1
      rw [List.dropWhile_cons_of_neg hblank] at hmod
      have hm : tolower c = 0x6D := hhead (by decide) hmod
      rw [hm] at hs
      exact absurd hs (by decide)

/-! ## Requests to a device that only answers -/

/-- The command manager on its own, with a configuration that nothing changes. -/
def idleWorld (cfg : List Byte) : CommandWorld Unit where
  config _ := cfg
  moduleFunc _ s := (.success, [], s)
  routeStm _ s := (true, [], s)

/-- A text as a request over TCP. -/
def textRequest (text : List Byte) : ModuleMessage := .ofBuffer .tcp .cmd (text ++ [0])

/-- What the command manager with the default configuration does with a text. -/
def idleReply (text : List Byte) : CommandReply Unit :=
  cmdProcessCommand (idleWorld commandModule.defaultBlock) 256 (textRequest text) ⟨0, 0, 0, 0, 0⟩ ()

instance (cfg : List Byte) (e : CmdHandlerEntry) : Decidable (e.Protected cfg) :=
  inferInstanceAs (Decidable (_ ∨ _))

theorem WrongToken.of_parse {cfg text cmd args : List Byte}
    (hparse : cmdParseCommand text = some (cmd, args))
    (hprotected : ∀ e ∈ gCmdTable, asciiBytes e.name = cmd → e.Protected cfg)
    (htoken : firstToken args ≠ some (authPassword cfg)) : WrongToken cfg text := by
  intro e he args' hparse'
  rw [hparse, Option.some.injEq, Prod.mk.injEq] at hparse'
  obtain ⟨hname, rfl⟩ := hparse'
  exact ⟨hprotected e he hname.symm, htoken⟩

/-! ## Authorization -/

variable {σ : Type}

/-- A request with a command name is handled by the steps behind the `STM:` check. -/
theorem cmdProcessCommand_eq (w : CommandWorld σ) (bufferSize : Nat) {request : ModuleMessage}
    {pre tail : List Byte} (htext : requestText request = some (pre ++ tail))
    (hpre : CommandPart pre) (hlen : request.dataLen ≠ 0) (stats : CmdHandlerStats) (s : σ) :
    ∃ text, cString text = pre ++ tail ∧ cmdProcessCommand w bufferSize request stats s =
      if bufferSize = 0 then ⟨.error, [], [], stats, s⟩
      else if request.sourceModule = .log ∨ request.sourceModule = .count then
        ⟨.error, [], [], stats, s⟩
      else cmdProcessText w bufferSize request text
        { stats with totalReceived := stats.totalReceived + 1 } s := by
  obtain ⟨text, hptr, hstring⟩ := Option.map_eq_some_iff.mp htext
  refine ⟨text, hstring, ?_⟩
  unfold cmdProcessCommand
  rw [hptr]
  dsimp only
  rw [if_neg hlen, hstring, not_stm_of_commandPart hpre, if_neg Bool.false_ne_true]

/-- A request calls nothing and changes at most what an `STM:` text does, or it is handled
by the steps behind the `STM:` check. -/
theorem cmdProcessCommand_cases (w : CommandWorld σ) (bufferSize : Nat) (request : ModuleMessage)
    (stats : CmdHandlerStats) (s : σ) :
    ((cmdProcessCommand w bufferSize request stats s).calls = [] ∧
        ((cmdProcessCommand w bufferSize request stats s).state = s ∨
          (cmdProcessCommand w bufferSize request stats s).state = (w.routeStm request s).2.2)) ∨
      ∃ text stats', request.payloadPtr = some text ∧
        cmdProcessCommand w bufferSize request stats s =
          cmdProcessText w bufferSize request text stats' s := by
  unfold cmdProcessCommand
  dsimp only
  by_cases hbuffer : bufferSize = 0
  · rw [if_pos hbuffer]
    exact Or.inl ⟨rfl, Or.inl rfl⟩
  · rw [if_neg hbuffer]
    by_cases hsource : request.sourceModule = .log ∨ request.sourceModule = .count
    · rw [if_pos hsource]
      exact Or.inl ⟨rfl, Or.inl rfl⟩
    · rw [if_neg hsource]
      cases hptr : request.payloadPtr with
      | none => exact Or.inl ⟨rfl, Or.inl rfl⟩
      | some text =>
        dsimp only
        by_cases hlen : request.dataLen = 0
        · rw [if_pos hlen]
          exact Or.inl ⟨rfl, Or.inl rfl⟩
        · rw [if_neg hlen]
          by_cases hstm : strncaseEq (asciiBytes "STM:") (cString text) = true
          · rw [if_pos hstm]
            exact Or.inl ⟨rfl, Or.inr rfl⟩
          · rw [if_neg hstm]
            exact Or.inr ⟨text, _, rfl, rfl⟩

/-- A function that is called is that of a parsed name. -/
theorem cmdProcessCommand_calls {w : CommandWorld σ} {bufferSize : Nat} {request : ModuleMessage}
    {stats : CmdHandlerStats} {s : σ} {call : HandlerCall}
    (h : call ∈ (cmdProcessCommand w bufferSize request stats s).calls) :
    ∃ text e args args', request.payloadPtr = some text ∧ e ∈ gCmdTable ∧
      cmdParseCommand text = some (asciiBytes e.name, args) ∧
      cmdStateHandleAuthenticate (w.config s) (asciiBytes e.name) args e = some args' ∧
      call = handlerCall e request args' := by
  rcases cmdProcessCommand_cases w bufferSize request stats s with
    ⟨hcalls, -⟩ | ⟨text, stats', htext, hreply⟩
  · rw [hcalls] at h
    cases h
  · rw [hreply] at h
    rcases cmdProcessText_cases w bufferSize request text stats' s with
      ⟨hcalls, -⟩ | ⟨e, args, args', he, hparse, hauth, hcalls, -⟩
    · rw [hcalls] at h
      cases h
    · rw [hcalls] at h
      exact ⟨text, e, args, args', htext, he, hparse, hauth, List.mem_singleton.mp h⟩

theorem SameButToken.cmdProcessCommand_eq {request request' : ModuleMessage}
    {pre token token' post : List Byte} (h : SameButToken request request' pre token token' post)
    (w : CommandWorld σ) (bufferSize : Nat) (stats : CmdHandlerStats) (s : σ) :
    ∃ text, cString text = pre ++ token ++ post ∧ cmdProcessCommand w bufferSize request stats s =
      if bufferSize = 0 then ⟨.error, [], [], stats, s⟩
      else if request.sourceModule = .log ∨ request.sourceModule = .count then
        ⟨.error, [], [], stats, s⟩
      else cmdProcessText w bufferSize request text
        { stats with totalReceived := stats.totalReceived + 1 } s := by
  have htext := h.text
  rw [List.append_assoc] at htext ⊢
  exact WalnutGateway.cmdProcessCommand_eq w bufferSize htext h.command h.dataLen stats s

/-- For every request, state of the device and configuration: a function of a command
is called only for a parsed name of the table; if the command is protected the first
token of the parsed arguments is the password, and the arguments go on without it and
the blanks around it, and else as they are. A set function gets their tokens with
commas between them. Two requests that differ in a token of the text and have a wrong
first token both get the same reply, call nothing and change no configuration. -/
theorem cmd_process_command_authorized (w : CommandWorld σ) (bufferSize : Nat)
    (stats : CmdHandlerStats) (s : σ) :
    (∀ request, ∀ call ∈ (cmdProcessCommand w bufferSize request stats s).calls,
      ∃ text e args args', requestText request = some text ∧ e ∈ gCmdTable ∧
        cmdParseCommand text = some (asciiBytes e.name, args) ∧ call = handlerCall e request args' ∧
        (e.Protected (w.config s) → firstToken args = some (authPassword (w.config s)) ∧
          args' = withoutFirstToken args) ∧
        (¬ e.Protected (w.config s) → args' = args) ∧
        setArgs args' = if strtokTokens isBlank args' = [] then args'
          else commaJoin (strtokTokens isBlank args')) ∧
      ∀ request request' pre token token' post,
        SameButToken request request' pre token token' post →
        WrongToken (w.config s) (pre ++ token ++ post) →
        WrongToken (w.config s) (pre ++ token' ++ post) →
        cmdProcessCommand w bufferSize request stats s =
            cmdProcessCommand w bufferSize request' stats s ∧
          (cmdProcessCommand w bufferSize request stats s).calls = [] ∧
          (cmdProcessCommand w bufferSize request stats s).state = s := by
  constructor
  · intro request call hcall
    obtain ⟨text, e, args, args', htext, he, hparse, hauth, rfl⟩ := cmdProcessCommand_calls hcall
    rw [← cmdParseCommand_cString] at hparse
    have hlen := (cmdParseCommand_some hparse).2
    have hargs := (cmdStateHandleAuthenticate_iff he hlen).mp hauth
    refine ⟨cString text, e, args, args', ?_, he, hparse, rfl, ?_, ?_, ?_⟩
    · rw [requestText, htext, Option.map_some]
    · intro hprotected
      rcases hargs with ⟨hnot, -⟩ | ⟨-, hand⟩
      · exact absurd hprotected hnot
      · exact hand
    · intro hnot
      rcases hargs with ⟨-, hsame⟩ | ⟨hprotected, -⟩
      · exact hsame
      · exact absurd hprotected hnot
    · apply setArgs_eq
      rcases hargs with ⟨-, rfl⟩ | ⟨-, -, rfl⟩
      · exact hlen
      · exact (length_withoutFirstToken_le args).trans hlen
  · intro request request' pre token token' post hsame hwrong hwrong'
    obtain ⟨text, hstring, hreply⟩ := hsame.cmdProcessCommand_eq w bufferSize stats s
    obtain ⟨text', hstring', hreply'⟩ := hsame.symm.cmdProcessCommand_eq w bufferSize stats s
    have hrefused : Refused (w.config s) text := by
      rw [← hstring] at hwrong
      exact hwrong.refused.of_cString
    have hrefused' : Refused (w.config s) text' := by
      rw [← hstring'] at hwrong'
      exact hwrong'.refused.of_cString
    have hname := cmdParseCommand_fst_token hsame.command hsame.token hsame.token' hstring hstring'
    rw [hreply, hreply', hsame.source]
    by_cases hbuffer : bufferSize = 0
    · rw [if_pos hbuffer, if_pos hbuffer]
      exact ⟨rfl, rfl, rfl⟩
    · rw [if_neg hbuffer, if_neg hbuffer]
      by_cases hsource : request'.sourceModule = .log ∨ request'.sourceModule = .count
      · rw [if_pos hsource, if_pos hsource]
        exact ⟨rfl, rfl, rfl⟩
      · rw [if_neg hsource, if_neg hsource]
        exact ⟨hrefused.cmdProcessText_congr hrefused' hname, hrefused.cmdProcessText⟩

theorem cmd_process_command_authorized_reboot :
    idleReply (asciiBytes "mod: reboot WEWARE1 now") =
        idleReply (asciiBytes "mod: reboot WEWARE20241 now") ∧
      (idleReply (asciiBytes "mod: reboot WEWARE1 now")).calls = [] ∧
      HandlerCall.special .reboot (asciiBytes "now") ∈
        (idleReply (asciiBytes "mod: reboot  WEWARE2024  now")).calls := by
  have hsame : SameButToken (textRequest (asciiBytes "mod: reboot WEWARE1 now"))
      (textRequest (asciiBytes "mod: reboot WEWARE20241 now")) (asciiBytes "mod: reboot ")
      (asciiBytes "WEWARE1") (asciiBytes "WEWARE20241") (asciiBytes " now") := by
    constructor <;> decide +kernel
  have hprotected : ∀ e ∈ gCmdTable, asciiBytes e.name = asciiBytes "REBOOT" →
      e.Protected commandModule.defaultBlock := by
    decide +kernel
  have hparse : cmdParseCommand (asciiBytes "mod: reboot WEWARE1 now") =
      some (asciiBytes "REBOOT", asciiBytes "WEWARE1 now") := by
    decide +kernel
  have hparse' : cmdParseCommand (asciiBytes "mod: reboot WEWARE20241 now") =
      some (asciiBytes "REBOOT", asciiBytes "WEWARE20241 now") := by
    decide +kernel
  have hwrong := WrongToken.of_parse hparse hprotected (by decide +kernel)
  have hwrong' := WrongToken.of_parse hparse' hprotected (by decide +kernel)
  obtain ⟨hreply, hcalls, -⟩ :=
    (cmd_process_command_authorized (idleWorld commandModule.defaultBlock) 256 ⟨0, 0, 0, 0, 0⟩ ()).2
      _ _ _ _ _ _ hsame hwrong hwrong'
  refine ⟨hreply, hcalls, ?_⟩
  decide +kernel

/-- A first token that is too long for the argument buffer is accepted when what is left of
it is the password, and a set function gets one comma for two blanks. -/
theorem cmd_process_command_cut_token :
    let blanks := List.replicate 245 space
    firstToken (blanks ++ asciiBytes "WEWARE2024X") ≠
        some (authPassword commandModule.defaultBlock) ∧
      (∀ e ∈ gCmdTable, asciiBytes e.name = asciiBytes "REBOOT" →
        e.Protected commandModule.defaultBlock) ∧
      (idleReply (asciiBytes "MOD:REBOOT " ++ (blanks ++ asciiBytes "WEWARE2024X"))).calls =
        [.special .reboot []] ∧
      withoutFirstToken (asciiBytes "WEWARE2024 apn:a  cid:2") = asciiBytes "apn:a  cid:2" ∧
      (idleReply (asciiBytes "MOD:SET-NETWORK-CONFIG WEWARE2024 apn:a  cid:2")).calls =
        [.set .setNetworkConfig (asciiBytes "apn:a,cid:2")] := by
  decide +kernel

end WalnutGateway
