import WalnutGateway.Common.Text
import WalnutGateway.Config.Modules

/-!
# The command manager

`cmd_process_command` takes a request through one step after the other: parse, find
the command, authenticate, execute. The functions of the other modules that a command
calls, and the routing of `STM:` texts, are parameters; what they are called with is
recorded.
-/

namespace WalnutGateway

/-! ## The command table -/

/-- `cmd_enum_t`. -/
inductive CmdEnum
  | unknown
  | setGpsConfig
  | getGpsConfig
  | setNetworkConfig
  | getNetworkConfig
  | setTcpConfig
  | getTcpConfig
  | setCommandConfig
  | getCommandConfig
  | setSystemConfig
  | getSystemConfig
  | reboot
  | hardReset
  | getDevInfo
  | getDevStatus
  | deleteFolder
  | factoryReset
  | digout
  | setMinCsq
  | forcedOta
  | getOtaStatus
  | pingStm
  | setGpsOn
  | setGpsOff
  deriving DecidableEq, Repr

/-- `cmd_handler_entry_t`; only `PING-STM`, which has a step of its own, has no function. -/
structure CmdHandlerEntry where
  cmdEnum : CmdEnum
  name : String
  requiresAuth : Bool
  deriving DecidableEq, Repr

/-- `g_cmd_table`. -/
def gCmdTable : List CmdHandlerEntry :=
  [⟨.setGpsConfig, "SET-GPS-CONFIG", true⟩,
    ⟨.getGpsConfig, "GET-GPS-CONFIG", false⟩,
    ⟨.setNetworkConfig, "SET-NETWORK-CONFIG", true⟩,
    ⟨.getNetworkConfig, "GET-NETWORK-CONFIG", false⟩,
    ⟨.setTcpConfig, "SET-TCP-CONFIG", true⟩,
    ⟨.getTcpConfig, "GET-TCP-CONFIG", false⟩,
    ⟨.setCommandConfig, "SET-COMMAND-CONFIG", true⟩,
    ⟨.getCommandConfig, "GET-COMMAND-CONFIG", true⟩,
    ⟨.setSystemConfig, "SET-SYSTEM-CONFIG", true⟩,
    ⟨.getSystemConfig, "GET-SYSTEM-CONFIG", false⟩,
    ⟨.reboot, "REBOOT", true⟩,
    ⟨.hardReset, "HARD-RESET", true⟩,
    ⟨.getDevInfo, "GET-DEV-INFO", false⟩,
    ⟨.getDevStatus, "GET-DEV-STATUS", false⟩,
    ⟨.deleteFolder, "DELETE-FOLDER", true⟩,
    ⟨.factoryReset, "FACTORY-RESET", true⟩,
    ⟨.digout, "DIGOUT", true⟩,
    ⟨.setMinCsq, "SET-MIN-CSQ", true⟩,
    ⟨.forcedOta, "FORCED-OTA", true⟩,
    ⟨.getOtaStatus, "GET-OTA-STATUS", true⟩,
    ⟨.pingStm, "PING-STM", true⟩,
    ⟨.setGpsOn, "SET-GPS-ON", true⟩,
    ⟨.setGpsOff, "SET-GPS-OFF", true⟩]

/-- The commands whose functions get the argument string and the response buffer. -/
def CmdEnum.isSpecial : CmdEnum → Bool
  | .reboot | .hardReset | .getDevInfo | .getDevStatus | .deleteFolder | .factoryReset
  | .digout | .setMinCsq | .forcedOta | .getOtaStatus | .setGpsOn | .setGpsOff => true
  | _ => false

/-- `strncmp(entry->name, "SET-", 4) == 0`. -/
def CmdHandlerEntry.isSetCommand (e : CmdHandlerEntry) : Bool :=
  (asciiBytes e.name).take 4 == asciiBytes "SET-"

/-! ## Parsing -/

/-- The space character. -/
def space : Byte := 0x20

/-- `cmd_parse_command`: the command in upper case and the arguments; `none` for `FALSE`. -/
def cmdParseCommand (text : List Byte) : Option (List Byte × List Byte) :=
  let temp := cString (utilsStrncpySafe 512 text).toList
  let start := utilsTrimWhitespace temp
  if ¬ strncaseEq (asciiBytes "MOD:") start then none else
  let cmdStart := (start.drop 4).dropWhile isspace
  let cmd := ((cmdStart.takeWhile (· != space)).take 63).map toupper
  let args := ((cmdStart.dropWhile (· != space)).drop 1).take 255
  if cmd.length > 0 then some (cmd, args) else none

/-- `cmd_find_command_enum`. -/
def cmdFindCommandEnum (name : List Byte) : CmdEnum :=
  (gCmdTable.find? fun e => strcaseEq (asciiBytes e.name) name).elim .unknown
    CmdHandlerEntry.cmdEnum

/-- `cmd_get_command_entry`. -/
def cmdGetCommandEntry (cmdEnum : CmdEnum) : Option CmdHandlerEntry :=
  if cmdEnum = .unknown then none else gCmdTable.find? fun e => e.cmdEnum == cmdEnum

/-! ## Authentication -/

/-- `auth_password` as the string functions see it. -/
def authPassword (cfg : List Byte) : List Byte := fieldString cfg authPasswordOffset

/-- `auth_enable` is set. -/
def authEnable (cfg : List Byte) : Bool := field cfg 0 1 != [0]

/-- `cmd_authenticate`. -/
def cmdAuthenticate (cfg args : List Byte) : Bool :=
  if args.length = 0 then false
  else
    match utilsStrtokR isBlank (args.take 255) with
    | some (token, _) => token == authPassword cfg
    | none => false

/-- `always_require_auth`. -/
def alwaysRequireAuth (cmd : List Byte) : Bool :=
  cmd == asciiBytes "SET-COMMAND-CONFIG" || cmd == asciiBytes "GET-COMMAND-CONFIG"

/-- The arguments without the password, by its length. -/
def cmdRemovePassword (cfg args : List Byte) : List Byte :=
  let passwordStart := (args.take 255).dropWhile isBlank
  let passwordLen := (authPassword cfg).length
  if passwordStart.take passwordLen = authPassword cfg then
    ((passwordStart.drop passwordLen).dropWhile isBlank).take 255
  else args

/-- `cmd_state_handle_authenticate`: the arguments it leaves, `none` for an error. -/
def cmdStateHandleAuthenticate (cfg cmd args : List Byte) (e : CmdHandlerEntry) :
    Option (List Byte) :=
  if ¬ authEnable cfg ∧ ¬ alwaysRequireAuth cmd then some args
  else if e.requiresAuth ∨ alwaysRequireAuth cmd then
    if ¬ cmdAuthenticate cfg args then none
    else if args.length > 0 then some (cmdRemovePassword cfg args) else some args
  else some args

/-! ## Execution -/

/-- A function of another module and what it is called with. -/
inductive HandlerCall
  /-- `special_func(args_string, ..)`. -/
  | special (cmdEnum : CmdEnum) (args : List Byte)
  /-- `set_func(args_string)`. -/
  | set (cmdEnum : CmdEnum) (args : List Byte)
  /-- `get_func(..)`. -/
  | get (cmdEnum : CmdEnum)
  /-- `uart_manager_start_ping_test`. -/
  | pingTest (source : ModuleId) (address : CArray 64)
  deriving DecidableEq

/-- The loop that writes the tokens of the arguments to `processed_args`, with commas. -/
def processArgs : List (List Byte) → List Byte → List Byte
  | [], processed => processed
  | token :: tokens, processed =>
    let piece := (if processed.length > 0 then [comma] else []) ++ token
    if piece.length ≥ 512 - processed.length then processed ++ piece.take (511 - processed.length)
    else processArgs tokens (processed ++ piece)

/-- The string a set function is called with. -/
def setArgs (args : List Byte) : List Byte :=
  let processed :=
    if args.length > 0 then processArgs (strtokTokens isBlank (args.take 255)) [] else []
  if processed = [] then args else processed

/-- The call that `cmd_state_handle_execute` or the step before it makes. -/
def handlerCall (e : CmdHandlerEntry) (request : ModuleMessage) (args : List Byte) : HandlerCall :=
  if e.cmdEnum = .pingStm then .pingTest request.sourceModule request.address
  else if e.cmdEnum.isSpecial then .special e.cmdEnum args
  else if e.isSetCommand then .set e.cmdEnum (setArgs args)
  else .get e.cmdEnum

/-- `cmd_handler_stats_t`. -/
structure CmdHandlerStats where
  totalReceived : Nat
  totalProcessed : Nat
  errorCount : Nat
  invalidCmdCount : Nat
  authFailures : Nat
  deriving DecidableEq, Repr

/-- `cmd_state_handle_update_stats`. -/
def CmdHandlerStats.update (stats : CmdHandlerStats) (result : Result) : CmdHandlerStats :=
  { stats with
    totalProcessed := stats.totalProcessed + 1
    errorCount := if result.isError then stats.errorCount + 1 else stats.errorCount }

/-- The rest of the device, as the command manager uses it. -/
structure CommandWorld (σ : Type) where
  /-- The block of `command_config_get_storage`. -/
  config : σ → List Byte
  /-- A function of a module: its result, what it puts into the response, the state. -/
  moduleFunc : HandlerCall → σ → Result × List Byte × σ
  /-- An `STM:` text on its way to the UART: success, and what is in the response. -/
  routeStm : ModuleMessage → σ → Bool × List Byte × σ

/-- What `cmd_process_command` returns and leaves behind, with the functions it called. -/
structure CommandReply (σ : Type) where
  result : Result
  response : List Byte
  calls : List HandlerCall
  stats : CmdHandlerStats
  state : σ

variable {σ : Type}

/-- `snprintf` of a text into the response. -/
def responseText (bufferSize : Nat) (text : List Byte) : List Byte := text.take (bufferSize - 1)

/-- The result and the response of a call, as `cmd_handler_generic` and the ping step
make them of what the function gave. -/
def handlerReply (bufferSize : Nat) (call : HandlerCall) (result : Result) (response : List Byte) :
    Result × List Byte :=
  match call with
  | .special _ _ => (result, response)
  | .set _ _ =>
    (result, responseText bufferSize (asciiBytes
      (if result = .success then "OK" else "ERROR: Module function returned error")))
  | .get _ =>
    (result, if result = .success then response
      else responseText bufferSize (asciiBytes "ERROR: Module function returned error"))
  | .pingTest _ _ =>
    (.success, responseText bufferSize (asciiBytes
      (if result = .success then "PING-STM started (result to follow, up to 15s)"
      else if result = .busy then "PING-STM busy, try again shortly"
      else "ERROR: PING-STM could not start")))

/-- The steps of `cmd_process_command` behind the `STM:` check. -/
def cmdProcessText (w : CommandWorld σ) (bufferSize : Nat) (request : ModuleMessage)
    (text : List Byte) (stats : CmdHandlerStats) (s : σ) : CommandReply σ :=
  let fail (result counted : Result) (stats : CmdHandlerStats) (response : List Byte) :
      CommandReply σ :=
    ⟨result, responseText bufferSize response, [], stats.update counted, s⟩
  match cmdParseCommand text with
  | none =>
    fail .invalidParam .invalidParam { stats with invalidCmdCount := stats.invalidCmdCount + 1 }
      (asciiBytes
        "ERROR: Invalid format. Use 'MOD:<COMMAND>' for commands or 'STM:...' for UART commands.")
  | some (cmd, args) =>
    if cmdFindCommandEnum cmd = .unknown then
      fail .invalidParam .invalidParam { stats with invalidCmdCount := stats.invalidCmdCount + 1 }
        (asciiBytes "ERROR: Unknown command '" ++ cmd ++ asciiBytes "'")
    else
      match cmdGetCommandEntry (cmdFindCommandEnum cmd) with
      | none =>
        fail .error .error { stats with errorCount := stats.errorCount + 1 }
          (asciiBytes "ERROR: Command handler error")
      | some e =>
        match cmdStateHandleAuthenticate (w.config s) cmd args e with
        | none =>
          fail .error .error { stats with authFailures := stats.authFailures + 1 }
            (asciiBytes "ERROR: Authentication required for '" ++ cmd ++ asciiBytes "'")
        | some args =>
          let call := handlerCall e request args
          let r := w.moduleFunc call s
          let reply := handlerReply bufferSize call r.1 r.2.1
          ⟨reply.1, reply.2, [call], stats.update reply.1, r.2.2⟩

/-- `cmd_process_command`. -/
def cmdProcessCommand (w : CommandWorld σ) (bufferSize : Nat) (request : ModuleMessage)
    (stats : CmdHandlerStats) (s : σ) : CommandReply σ :=
  if bufferSize = 0 then ⟨.error, [], [], stats, s⟩
  else if request.sourceModule = .log ∨ request.sourceModule = .count then
    ⟨.error, [], [], stats, s⟩
  else
    let stats := { stats with totalReceived := stats.totalReceived + 1 }
    match request.payloadPtr with
    | none =>
      ⟨.error, responseText bufferSize (asciiBytes "ERROR: Empty command payload"), [],
        stats.update .error, s⟩
    | some payload =>
      if request.dataLen = 0 then
        ⟨.error, responseText bufferSize (asciiBytes "ERROR: Empty command payload"), [],
          stats.update .error, s⟩
      else if strncaseEq (asciiBytes "STM:") (cString payload) then
        let r := w.routeStm request s
        let result := if r.1 then Result.success else .error
        ⟨result, r.2.1, [], stats.update result, r.2.2⟩
      else cmdProcessText w bufferSize request payload stats s

end WalnutGateway
