import WalnutGateway.Command.Authorize
import WalnutGateway.Config.Setters

/-!
# Passwords that can be presented

A password that a request sets reaches the setter through the tokenizers of the command
manager, so that it has no blank. Such a password is found again as the first token of
the arguments, whatever stands behind it.
-/

namespace WalnutGateway

/-! ## Texts with the password -/

/-- `MOD:<command> <auth_password> <args>`. -/
def presentText (cfg : List Byte) (e : CmdHandlerEntry) (args : List Byte) : List Byte :=
  asciiBytes "MOD:" ++ (asciiBytes e.name ++ space :: (authPassword cfg ++ space :: args))

/-- Arguments that a text keeps behind the password: a string without blanks at its
ends, for which the argument buffer has room. -/
structure FitsBehind (password args : List Byte) : Prop where
  ne_zero : ∀ c ∈ args, c ≠ 0
  head : ∀ c ∈ args.head?, isBlank c = false
  last : ∀ c ∈ args.getLast?, isBlank c = false
  length : password.length + 1 + args.length ≤ 255

/-- For every protected command the text with the password passes the parser and the
authentication, which leave the arguments. -/
def Presentable (cfg : List Byte) : Prop :=
  ∀ e ∈ gCmdTable, e.Protected cfg → ∀ args, FitsBehind (authPassword cfg) args →
    ∃ left, cmdParseCommand (presentText cfg e args) = some (asciiBytes e.name, left) ∧
      cmdStateHandleAuthenticate cfg (asciiBytes e.name) left e = some args

/-- A token of the blank-separated arguments. -/
structure IsToken (s : List Byte) : Prop where
  ne_nil : s ≠ []
  not_blank : ∀ c ∈ s, isBlank c = false

/-- What the parser needs of the name of a command. -/
structure IsCommandName (name : List Byte) : Prop where
  ne_nil : name ≠ []
  length_le : name.length ≤ 63
  not_isspace : ∀ c ∈ name, isspace c = false
  ne_zero : ∀ c ∈ name, c ≠ 0
  toupper : ∀ c ∈ name, toupper c = c

theorem isCommandName_of_mem {e : CmdHandlerEntry} (h : e ∈ gCmdTable) :
    IsCommandName (asciiBytes e.name) := by
  have hall : ∀ e ∈ gCmdTable, asciiBytes e.name ≠ [] ∧ (asciiBytes e.name).length ≤ 63 ∧
      ∀ c ∈ asciiBytes e.name, isspace c = false ∧ c ≠ 0 ∧ toupper c = c := by
    decide +kernel
  obtain ⟨hne, hlen, hchars⟩ := hall e h
  constructor
  · exact hne
  · exact hlen
  · exact fun c hc => (hchars c hc).1
  · exact fun c hc => (hchars c hc).2.1
  · exact fun c hc => (hchars c hc).2.2

/-- A text of a name and a string behind one space comes apart again, without the
blanks at the end. -/
theorem cmdParseCommand_name {name u : List Byte} {c : Byte} (hname : IsCommandName name)
    (hc : isBlank c = false) (hzero : ∀ b ∈ c :: u, b ≠ 0) (hlen : (c :: u).length ≤ 256) :
    cmdParseCommand (asciiBytes "MOD:" ++ (name ++ space :: c :: u)) =
      some (name, (c :: u.rdropWhile isBlank).take 255) := by
  obtain ⟨hne, hname63, hspace, hname0, hupper⟩ := hname
  have htag : asciiBytes "MOD:" = [0x4D, 0x4F, 0x44, 0x3A] := by decide
  have htemp :
      cString (utilsStrncpySafe 512 (asciiBytes "MOD:" ++ (name ++ space :: c :: u))).toList =
      asciiBytes "MOD:" ++ (name ++ space :: c :: u) := by
    rw [cString_utilsStrncpySafe (by decide), cString_of_ne_zero, List.take_of_length_le]
    · simp only [htag, List.length_append, List.length_cons, List.length_nil] at hlen ⊢
      omega
    · intro b hb
      rcases List.mem_append.mp hb with hb | hb
      · have hword : (asciiBytes "MOD:").all (· != 0) = true := by decide
        exact bne_iff_ne.mp (List.all_eq_true.mp hword b hb)
      · rcases List.mem_append.mp hb with hb | hb
        · exact hname0 b hb
        · rcases List.mem_cons.mp hb with rfl | hb
          · decide
          · exact hzero b hb
  have hstart : utilsTrimWhitespace (asciiBytes "MOD:" ++ (name ++ space :: c :: u)) =
      asciiBytes "MOD:" ++ (name ++ space :: c :: u.rdropWhile isBlank) := by
    have hblank : ¬ isBlank 0x4D = true := by decide
    have hsplit : asciiBytes "MOD:" ++ (name ++ space :: c :: u) =
        (asciiBytes "MOD:" ++ (name ++ [space])) ++ c :: u := by simp
    have hfirst : (asciiBytes "MOD:" ++ (name ++ space :: c :: u)).dropWhile isBlank =
        asciiBytes "MOD:" ++ (name ++ space :: c :: u) := by
      rw [htag]
      exact List.dropWhile_cons_of_neg hblank
    rw [utilsTrimWhitespace, trim, hfirst, hsplit, rdropWhile_append_cons _ hc]
    simp
  have hcommand : (name ++ space :: c :: u.rdropWhile isBlank).dropWhile isspace =
      name ++ space :: c :: u.rdropWhile isBlank := by
    obtain ⟨d, ds, rfl⟩ := List.exists_cons_of_ne_nil hne
    apply List.dropWhile_cons_of_neg
    rw [hspace d (List.mem_cons_self ..)]
    exact Bool.false_ne_true
  have hall : ∀ b ∈ name, (b != space) = true := by
    intro b hb
    rw [bne_iff_ne]
    rintro rfl
    exact absurd (hspace _ hb) (by decide)
  have hdrop : (asciiBytes "MOD:" ++ (name ++ space :: c :: u.rdropWhile isBlank)).drop 4 =
      name ++ space :: c :: u.rdropWhile isBlank := by
    rw [htag]
    rfl
  have hparsed : (((name ++ space :: c :: u.rdropWhile isBlank).takeWhile (· != space)).take 63).map
      toupper = name := by
    rw [List.takeWhile_append_of_pos hall, List.takeWhile_cons_of_neg (by simp), List.append_nil,
      List.take_of_length_le hname63]
    exact (List.map_congr_left hupper).trans (List.map_id name)
  have hargs : ((name ++ space :: c :: u.rdropWhile isBlank).dropWhile (· != space)).drop 1 =
      c :: u.rdropWhile isBlank := by
    rw [List.dropWhile_append_of_pos hall, List.dropWhile_cons_of_neg (by simp)]
    rfl
  have hmod : strncaseEq (asciiBytes "MOD:")
      (asciiBytes "MOD:" ++ (name ++ space :: c :: u.rdropWhile isBlank)) = true := by
    unfold strncaseEq
    rw [List.take_left]
    exact strcaseEq_refl _
  unfold cmdParseCommand
  dsimp only
  rw [htemp, hstart, if_neg (not_not_intro hmod), hdrop, hcommand, hparsed, hargs,
    if_pos (List.length_pos_iff.mpr hne)]

/-! ## The first token -/

theorem takeWhile_not_isBlank {s tail : List Byte} (hs : ∀ c ∈ s, isBlank c = false)
    (htail : ∀ c ∈ tail.head?, isBlank c = true) :
    (s ++ tail).takeWhile (! isBlank ·) = s ∧ (s ++ tail).dropWhile (! isBlank ·) = tail := by
  have hall : ∀ c ∈ s, (! isBlank c) = true := by
    intro c hc
    rw [hs c hc]
    rfl
  rw [List.takeWhile_append_of_pos hall, List.dropWhile_append_of_pos hall]
  cases tail with
  | nil => exact ⟨List.append_nil s, rfl⟩
  | cons d tail =>
    have hd : isBlank d = true := htail d rfl
    rw [List.takeWhile_cons_of_neg (by simp [hd]), List.dropWhile_cons_of_neg (by simp [hd])]
    exact ⟨List.append_nil s, rfl⟩

/-- A token with a blank or nothing behind it is the first token. -/
theorem firstToken_append {s tail : List Byte} (hs : IsToken s)
    (htail : ∀ c ∈ tail.head?, isBlank c = true) :
    firstToken (s ++ tail) = some s ∧ withoutFirstToken (s ++ tail) = tail.dropWhile isBlank := by
  have hstart : (s ++ tail).dropWhile isBlank = s ++ tail := by
    obtain ⟨c, cs, rfl⟩ := List.exists_cons_of_ne_nil hs.ne_nil
    apply List.dropWhile_cons_of_neg
    rw [hs.not_blank c (List.mem_cons_self ..)]
    exact Bool.false_ne_true
  obtain ⟨htake, hdrop⟩ := takeWhile_not_isBlank hs.not_blank htail
  constructor
  · unfold firstToken utilsStrtokR
    dsimp only
    rw [hstart, htake, if_neg]
    · rfl
    · exact fun hnil => hs.ne_nil (List.append_eq_nil_iff.mp hnil).1
  · rw [withoutFirstToken, hstart, hdrop]

/-- The first token is a token. -/
theorem isToken_of_firstToken {args token : List Byte} (h : firstToken args = some token) :
    IsToken token := by
  obtain ⟨⟨first, rest⟩, hcall, rfl⟩ := Option.map_eq_some_iff.mp h
  obtain ⟨hne, hchars, -, -⟩ := utilsStrtokR_some hcall
  exact ⟨hne, fun c hc => (hchars c hc).1⟩

/-- Behind a token, a space and the arguments there is no blank to trim, but for the
space where there are no arguments. -/
theorem rdropWhile_present {s args : List Byte} (hs : IsToken s)
    (hlast : ∀ c ∈ args.getLast?, isBlank c = false) :
    (s ++ space :: args).rdropWhile isBlank = s ++ if args = [] then [] else space :: args := by
  rcases List.eq_nil_or_concat args with rfl | ⟨init, c, rfl⟩
  · rw [List.rdropWhile_concat_pos _ _ _ (by decide), if_pos rfl, List.append_nil,
      List.rdropWhile_eq_self_iff]
    intro hne
    rw [hs.not_blank _ (List.getLast_mem hne)]
    exact Bool.false_ne_true
  · have hc : isBlank c = false := hlast c (by simp)
    have hsplit : s ++ space :: init.concat c = (s ++ space :: init) ++ [c] := by simp
    rw [hsplit, List.rdropWhile_concat_neg _ _ _ (by simp [hc]), if_neg (by simp)]
    simp

/-! ## Which passwords can be presented -/

/-- A password that is a token is found in front of all arguments that fit. -/
theorem cmdParseCommand_presentText {cfg args : List Byte} {e : CmdHandlerEntry}
    (he : e ∈ gCmdTable) (hpassword : IsToken (authPassword cfg))
    (hargs : FitsBehind (authPassword cfg) args) :
    ∃ left, cmdParseCommand (presentText cfg e args) = some (asciiBytes e.name, left) ∧
      firstToken left = some (authPassword cfg) ∧ withoutFirstToken left = args := by
  have hlen := hargs.length
  have htrim := rdropWhile_present hpassword hargs.last
  have hzero : ∀ b ∈ authPassword cfg ++ space :: args, b ≠ 0 := by
    intro b hb
    rcases List.mem_append.mp hb with hb | hb
    · exact ne_zero_of_mem_cString hb
    · rcases List.mem_cons.mp hb with rfl | hb
      · decide
      · exact hargs.ne_zero b hb
  refine ⟨authPassword cfg ++ if args = [] then [] else space :: args, ?_, ?_⟩
  · unfold presentText
    generalize authPassword cfg = password at hpassword htrim hzero hlen ⊢
    obtain ⟨c, cs, rfl⟩ := List.exists_cons_of_ne_nil hpassword.ne_nil
    have hc := hpassword.not_blank c (List.mem_cons_self ..)
    have hcons := rdropWhile_append_cons [] hc (cs ++ space :: args)
    rw [List.nil_append, List.nil_append, ← List.cons_append, htrim] at hcons
    rw [List.cons_append] at hzero
    rw [List.cons_append, cmdParseCommand_name (isCommandName_of_mem he) hc hzero, ← hcons,
      List.take_of_length_le]
    · rw [List.length_append]
      split_ifs
      · simp only [List.length_nil]
        omega
      · simp only [List.length_cons] at hlen ⊢
        omega
    · simp only [List.length_cons, List.length_append] at hlen ⊢
      omega
  · have htail : ∀ c ∈ (if args = [] then [] else space :: args).head?, isBlank c = true := by
      intro c hc
      split_ifs at hc
      · cases hc
      · obtain rfl := Option.some.inj hc
        decide
    obtain ⟨hfirst, hrest⟩ := firstToken_append hpassword htail
    refine ⟨hfirst, ?_⟩
    rw [hrest]
    split_ifs with hnil
    · rw [hnil]
      rfl
    · obtain ⟨c, cs, rfl⟩ := List.exists_cons_of_ne_nil hnil
      have hc := hargs.head c rfl
      rw [List.dropWhile_cons_of_pos (by decide), List.dropWhile_cons_of_neg]
      rw [hc]
      exact Bool.false_ne_true

/-- The password of a block can be presented if and only if it is a token. -/
theorem presentable_iff {cfg : List Byte} (hlen : cfg.length = commandModule.configSize) :
    Presentable cfg ↔ IsToken (authPassword cfg) := by
  constructor
  · intro h
    have hentry : ⟨.setCommandConfig, "SET-COMMAND-CONFIG", true⟩ ∈ gCmdTable := by
      decide
    have hshort : (authPassword cfg).length ≤ 36 := by
      have hsize : commandModule.configSize = 36 := rfl
      have htake : (authPassword cfg).length ≤ (cfg.drop authPasswordOffset).length :=
        (List.takeWhile_sublist _).length_le
      rw [List.length_drop] at htake
      omega
    have hfits : FitsBehind (authPassword cfg) [] := by
      constructor
      · exact nofun
      · exact nofun
      · exact nofun
      · rw [List.length_nil]
        omega
    obtain ⟨left, hparse, hauth⟩ := h _ hentry (Or.inr (Or.inl rfl)) [] hfits
    have hleft := (cmdParseCommand_some hparse).2
    rcases (cmdStateHandleAuthenticate_iff hentry hleft).mp hauth with ⟨hnot, -⟩ | ⟨-, hfirst, -⟩
    · exact absurd (Or.inr (Or.inl rfl)) hnot
    · exact isToken_of_firstToken hfirst
  · intro h e he hprotected args hargs
    obtain ⟨left, hparse, hfirst, hrest⟩ := cmdParseCommand_presentText he h hargs
    refine ⟨left, hparse, ?_⟩
    rw [cmdStateHandleAuthenticate_iff he (cmdParseCommand_some hparse).2]
    exact Or.inr ⟨hprotected, hfirst, hrest.symm⟩

/-! ## Passwords that a request sets -/

/-- No blank in the staged password. -/
def CommandTemp.NoBlank (temp : CommandTemp) : Prop :=
  ∀ c ∈ cString temp.authPassword.toList, isBlank c = false

theorem noBlank_ofConfig {cfg : List Byte} (h : IsToken (authPassword cfg)) :
    (CommandTemp.ofConfig cfg).NoBlank := by
  intro c hc
  rw [CommandTemp.ofConfig, cString_utilsStrncpySafe (by decide)] at hc
  exact h.not_blank c (List.mem_of_mem_take hc)

theorem commandConfigStage_noBlank (index : Nat) (value : List Byte) (temp temp' : CommandTemp)
    (hvalue : ∀ c ∈ value, c ≠ 0 ∧ isBlank c = false) (hgood : temp.Good True ∧ temp.NoBlank)
    (h : commandConfigStage index value temp = some temp') : temp'.Good True ∧ temp'.NoBlank := by
  obtain ⟨hgood, hblank⟩ := hgood
  refine ⟨commandConfigStage_good index value temp temp' (fun c hc => (hvalue c hc).1) hgood h, ?_⟩
  unfold commandConfigStage at h
  split at h
  · obtain ⟨b, -, rfl⟩ := Option.map_eq_some_iff.mp h
    exact hblank
  · split_ifs at h
    cases h
    intro c hc
    rw [cString_utilsStrncpySafe (by decide)] at hc
    exact (hvalue c ((List.takeWhile_sublist _).subset (List.mem_of_mem_take hc))).2
  · split at h
    · split_ifs at h
      cases h
      exact hblank
    · cases h
  · obtain ⟨b, -, rfl⟩ := Option.map_eq_some_iff.mp h
    exact hblank
  · cases h
    exact hblank

/-- A string without blanks leaves a password that is a token. -/
theorem commandConfigSet_isToken {cfg args : List Byte} (alloc : Bool)
    (hlen : cfg.length = commandModule.configSize) (h : IsToken (authPassword cfg))
    (hargs : ∀ c ∈ args, isBlank c = false) :
    (commandConfigSet alloc cfg args).block.length = commandModule.configSize ∧
      IsToken (authPassword (commandConfigSet alloc cfg args).block) := by
  rcases commandConfigSet_cases alloc cfg args with
    ⟨r, -, hreply⟩ | ⟨copy, temp, hcopy, hstage, hreply⟩
  · rw [hreply]
    exact ⟨hlen, h⟩
  · have hstart : (CommandTemp.ofConfig cfg).Good True := by
      obtain ⟨hauth, hcsq, hadoc, -⟩ := CommandTemp.good_ofConfig hlen
      exact ⟨hauth, hcsq, hadoc, fun _ => cString_utilsStrncpySafe_ne_nil (by decide) h.ne_nil⟩
    have htokens : ∀ t ∈ strtokTokens (· == comma) copy, ∀ c ∈ t, c ≠ 0 ∧ isBlank c = false := by
      intro t ht c hc
      have hmem := ((mem_strtokTokens ht).2 c hc).2
      rw [utilsStrdupForTokenization_some hcopy] at hmem
      exact ⟨ne_zero_of_mem_cString hmem, hargs c ((List.takeWhile_sublist _).subset hmem)⟩
    obtain ⟨hgood, hblank⟩ := stageKeyed_invariant commandConfigStage_noBlank htokens hstage
      ⟨hstart, noBlank_ofConfig h⟩
    have hupdate := CommandTemp.holdsString_update hgood hlen
    rw [hreply]
    refine ⟨hupdate.length, ?_⟩
    rw [authPassword, hupdate.string]
    constructor
    · exact take_ne_nil (by decide) (hgood.authPassword trivial)
    · exact fun c hc => hblank c (List.mem_of_mem_take hc)

/-- The string that a set function gets has no blank when its arguments do not start
with one. -/
theorem not_isBlank_of_mem_setArgs {args : List Byte} (hlen : args.length ≤ 255)
    (hhead : ∀ c ∈ args.head?, isBlank c = false) : ∀ c ∈ setArgs args, isBlank c = false := by
  have htokens : ∀ t ∈ strtokTokens isBlank args, ∀ c ∈ t, isBlank c = false :=
    fun t ht c hc => ((mem_strtokTokens ht).2 c hc).1
  rw [setArgs_eq hlen]
  cases args with
  | nil => exact nofun
  | cons a args =>
    have hfirst : utilsStrtokR isBlank (a :: args) ≠ none := by
      have ha := hhead a rfl
      unfold utilsStrtokR
      dsimp only
      rw [List.dropWhile_cons_of_neg (by simp [ha]), if_neg (List.cons_ne_nil a args)]
      exact nofun
    cases hlist : strtokTokens isBlank (a :: args) with
    | nil =>
      rw [strtokTokens_eq] at hlist
      obtain ⟨p, hp⟩ := Option.ne_none_iff_exists'.mp hfirst
      rw [hp] at hlist
      cases hlist
    | cons t tokens =>
      rw [hlist, List.forall_mem_cons] at htokens
      rw [if_neg (List.cons_ne_nil t tokens), commaJoin]
      intro c hc
      rcases List.mem_append.mp hc with hc | hc
      · exact htokens.1 c hc
      · obtain ⟨t', ht', hc⟩ := List.mem_flatMap.mp hc
        rcases List.mem_cons.mp hc with rfl | hc
        · decide
        · exact htokens.2 t' ht' c hc

/-! ## Requests one after the other -/

/-- The command manager with `command_config_set` behind it; what the other functions
do, and the answer of the allocator, are parameters. -/
def commandConfigWorld (other : HandlerCall → List Byte → Result × List Byte × List Byte)
    (alloc : Bool) : CommandWorld (List Byte) where
  config cfg := cfg
  moduleFunc call cfg :=
    match call with
    | .set .setCommandConfig args =>
      let r := commandConfigSet alloc cfg args
      (r.result, [], r.block)
    | call => other call cfg
  routeStm _ cfg := (true, [], cfg)

/-- A request with the buffer for its response and the answer of the allocator. -/
structure CommandRequest where
  request : ModuleMessage
  bufferSize : Nat
  alloc : Bool

section Run

variable (other : HandlerCall → List Byte → Result × List Byte × List Byte)

/-- What `cmd_process_command` makes of one request. -/
def commandReply (r : CommandRequest) (stats : CmdHandlerStats) (cfg : List Byte) :
    CommandReply (List Byte) :=
  cmdProcessCommand (commandConfigWorld other r.alloc) r.bufferSize r.request stats cfg

/-- The counters and the configuration after requests one after the other. -/
def commandRun (requests : List CommandRequest) (d : CmdHandlerStats × List Byte) :
    CmdHandlerStats × List Byte :=
  requests.foldl (fun d r =>
    ((commandReply other r d.1 d.2).stats, (commandReply other r d.1 d.2).state)) d

/-- A request for `SET-COMMAND-CONFIG`. -/
def SetsCommandConfig (request : ModuleMessage) : Prop :=
  ∃ text args, requestText request = some text ∧
    cmdParseCommand text = some (asciiBytes "SET-COMMAND-CONFIG", args)

variable {other}

/-- One request keeps the size of the block and a password that is a token. -/
theorem commandReply_isToken {r : CommandRequest} (hset : SetsCommandConfig r.request)
    (stats : CmdHandlerStats) {cfg : List Byte} (hlen : cfg.length = commandModule.configSize)
    (h : IsToken (authPassword cfg)) :
    (commandReply other r stats cfg).state.length = commandModule.configSize ∧
      IsToken (authPassword (commandReply other r stats cfg).state) := by
  unfold commandReply
  rcases cmdProcessCommand_cases (commandConfigWorld other r.alloc) r.bufferSize r.request stats cfg
    with ⟨-, hstate | hstate⟩ | ⟨text, stats', htext, hreply⟩
  · rw [hstate]
    exact ⟨hlen, h⟩
  · rw [hstate]
    exact ⟨hlen, h⟩
  · rw [hreply]
    rcases cmdProcessText_cases (commandConfigWorld other r.alloc) r.bufferSize r.request text
      stats' cfg with ⟨-, hstate⟩ | ⟨e, args, args', he, hparse, hauth, -, hstate⟩
    · rw [hstate]
      exact ⟨hlen, h⟩
    · obtain ⟨text', argsSet, htext', hparse'⟩ := hset
      rw [requestText, htext, Option.map_some, Option.some.injEq] at htext'
      rw [← htext', cmdParseCommand_cString, hparse, Option.some.injEq, Prod.mk.injEq] at hparse'
      have hentry : ∀ e ∈ gCmdTable, asciiBytes e.name = asciiBytes "SET-COMMAND-CONFIG" →
          e.cmdEnum = .setCommandConfig ∧ e.isSetCommand = true := by
        decide +kernel
      obtain ⟨henum, hiscmd⟩ := hentry e he hparse'.1
      have hargs := (cmdParseCommand_some hparse).2
      have hleft : args' = withoutFirstToken args := by
        rcases (cmdStateHandleAuthenticate_iff he hargs).mp hauth with ⟨hnot, -⟩ | ⟨-, -, hleft⟩
        · exact absurd (Or.inr (Or.inl henum)) hnot
        · exact hleft
      have hcall : handlerCall e r.request args' = .set .setCommandConfig (setArgs args') := by
        unfold handlerCall
        rw [henum, hiscmd]
        rfl
      rw [hstate, hcall, hleft]
      apply commandConfigSet_isToken r.alloc hlen h
      apply not_isBlank_of_mem_setArgs ((length_withoutFirstToken_le args).trans hargs)
      intro c hc
      have hnot := List.head?_dropWhile_not isBlank
        ((args.dropWhile isBlank).dropWhile (! isBlank ·))
      rw [← withoutFirstToken, hc] at hnot
      simpa using hnot

theorem commandRun_isToken {requests : List CommandRequest}
    (hset : ∀ r ∈ requests, SetsCommandConfig r.request) {d : CmdHandlerStats × List Byte}
    (hlen : d.2.length = commandModule.configSize) (h : IsToken (authPassword d.2)) :
    (commandRun other requests d).2.length = commandModule.configSize ∧
      IsToken (authPassword (commandRun other requests d).2) := by
  induction requests generalizing d with
  | nil => exact ⟨hlen, h⟩
  | cons r requests ih =>
    rw [List.forall_mem_cons] at hset
    obtain ⟨hlen', h'⟩ := commandReply_isToken hset.1 d.1 hlen h
    exact ih hset.2 hlen' h'

end Run

/-- The text of a command is not for the UART. -/
theorem commandPart_of_mem {e : CmdHandlerEntry} (h : e ∈ gCmdTable) :
    CommandPart (asciiBytes "MOD:" ++ (asciiBytes e.name ++ [space])) := by
  have hall : ∀ e ∈ gCmdTable,
      CommandPart (asciiBytes "MOD:" ++ (asciiBytes e.name ++ [space])) := by
    decide +kernel
  exact hall e h

/-- An authenticated command is called. -/
theorem cmdProcessText_calls {σ : Type} {w : CommandWorld σ} {s : σ} {text args args' : List Byte}
    {e : CmdHandlerEntry} (he : e ∈ gCmdTable)
    (hparse : cmdParseCommand text = some (asciiBytes e.name, args))
    (hauth : cmdStateHandleAuthenticate (w.config s) (asciiBytes e.name) args e = some args')
    (bufferSize : Nat) (request : ModuleMessage) (stats : CmdHandlerStats) :
    (cmdProcessText w bufferSize request text stats s).calls = [handlerCall e request args'] := by
  obtain ⟨hfind, hknown⟩ := cmdFindCommandEnum_of_mem he
  unfold cmdProcessText
  dsimp only
  rw [hparse]
  dsimp only
  rw [hfind, if_neg hknown, cmdGetCommandEntry_of_mem he]
  dsimp only
  rw [hauth]

/-- A request that the command manager takes: there is a response buffer, a payload and a
source from which commands come. -/
structure CommandRequest.Taken (r : CommandRequest) : Prop where
  bufferSize : r.bufferSize ≠ 0
  source : ¬ (r.request.sourceModule = .log ∨ r.request.sourceModule = .count)
  dataLen : r.request.dataLen ≠ 0

/-- A request with the text is called with the arguments. -/
theorem Presentable.calls {cfg : List Byte} (h : Presentable cfg) {e : CmdHandlerEntry}
    (he : e ∈ gCmdTable) (hprotected : e.Protected cfg) {args : List Byte}
    (hargs : FitsBehind (authPassword cfg) args)
    (other : HandlerCall → List Byte → Result × List Byte × List Byte) {r : CommandRequest}
    (htaken : r.Taken) (htext : requestText r.request = some (presentText cfg e args))
    (stats : CmdHandlerStats) :
    (commandReply other r stats cfg).calls = [handlerCall e r.request args] := by
  obtain ⟨left, hparse, hauth⟩ := h e he hprotected args hargs
  have hsplit : presentText cfg e args =
      (asciiBytes "MOD:" ++ (asciiBytes e.name ++ [space])) ++
        (authPassword cfg ++ space :: args) := by
    simp [presentText]
  rw [hsplit] at htext
  obtain ⟨text, hstring, hreply⟩ := cmdProcessCommand_eq (commandConfigWorld other r.alloc)
    r.bufferSize htext (commandPart_of_mem he) htaken.dataLen stats cfg
  rw [commandReply, hreply, if_neg htaken.bufferSize, if_neg htaken.source]
  apply cmdProcessText_calls he _ hauth
  rw [← cmdParseCommand_cString, hstring, ← hsplit, hparse]

/-- After any requests for `SET-COMMAND-CONFIG` the password can be presented if it could
be before: for every protected command the text with it leaves the arguments, and a
request with this text calls the function of the command with them. -/
theorem set_command_config_presentable
    (other : HandlerCall → List Byte → Result × List Byte × List Byte)
    {requests : List CommandRequest} (hset : ∀ r ∈ requests, SetsCommandConfig r.request)
    (stats : CmdHandlerStats) {cfg : List Byte} (hlen : cfg.length = commandModule.configSize)
    (h : Presentable cfg) :
    let cfg' := (commandRun other requests (stats, cfg)).2
    Presentable cfg' ∧ ∀ e ∈ gCmdTable, e.Protected cfg' →
      ∀ args, FitsBehind (authPassword cfg') args → ∀ r : CommandRequest, r.Taken →
        requestText r.request = some (presentText cfg' e args) → ∀ stats',
        (commandReply other r stats' cfg').calls = [handlerCall e r.request args] := by
  intro cfg'
  obtain ⟨hlen', htoken⟩ := commandRun_isToken hset (d := (stats, cfg)) hlen
    ((presentable_iff hlen).mp h)
  have hpresent : Presentable cfg' := (presentable_iff hlen').mpr htoken
  refine ⟨hpresent, ?_⟩
  intro e he hprotected args hargs r htaken htext stats'
  exact hpresent.calls he hprotected hargs other htaken htext stats'

/-- A request over TCP, with memory. -/
def textCommandRequest (text : String) : CommandRequest where
  request := textRequest (asciiBytes text)
  bufferSize := 256
  alloc := true

theorem set_command_config_presentable_pass :
    let requests := [textCommandRequest "MOD:SET-COMMAND-CONFIG WEWARE2024 auth-en:1 pass:abc"]
    let cfg := (commandRun (fun _ cfg => (.success, [], cfg)) requests
      (⟨0, 0, 0, 0, 0⟩, commandModule.defaultBlock)).2
    authPassword cfg = asciiBytes "abc" ∧ Presentable cfg := by
  intro requests cfg
  have hset : ∀ r ∈ requests, SetsCommandConfig r.request := by
    intro r hr
    obtain rfl := List.mem_singleton.mp hr
    refine ⟨asciiBytes "MOD:SET-COMMAND-CONFIG WEWARE2024 auth-en:1 pass:abc",
      asciiBytes "WEWARE2024 auth-en:1 pass:abc", ?_, ?_⟩ <;> decide +kernel
  have hlen : commandModule.defaultBlock.length = commandModule.configSize := by decide +kernel
  have htoken : IsToken (authPassword commandModule.defaultBlock) := by
    constructor <;> decide +kernel
  constructor
  · decide +kernel
  · exact (set_command_config_presentable _ hset ⟨0, 0, 0, 0, 0⟩ hlen
      ((presentable_iff hlen).mpr htoken)).1

/-- A blank behind the arguments is trimmed with those behind the text. -/
theorem set_command_config_trailing_blank :
    let r := textCommandRequest "MOD:SET-COMMAND-CONFIG WEWARE2024 pass:abc"
    let reply := commandReply (fun _ cfg => (.success, [], cfg)) r ⟨0, 0, 0, 0, 0⟩
      commandModule.defaultBlock
    let reboot : CmdHandlerEntry := ⟨.reboot, "REBOOT", true⟩
    reply.result = .success ∧ reboot.Protected reply.state ∧
      ((cmdParseCommand (presentText reply.state reboot (asciiBytes "x "))).bind fun p =>
        cmdStateHandleAuthenticate reply.state p.1 p.2 reboot) = some (asciiBytes "x") ∧
      asciiBytes "x" ≠ asciiBytes "x " := by
  decide +kernel

end WalnutGateway
