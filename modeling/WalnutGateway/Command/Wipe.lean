import WalnutGateway.Command.Handler
import WalnutGateway.Common.EventManager
import WalnutGateway.Common.Search
import WalnutGateway.Config.GetStrings
import WalnutGateway.Core.Decimal
import WalnutGateway.Storage.PurgeTouches

/-!
# Commands that delete files

`DELETE-FOLDER` purges the one folder it names, a folder at the root of the flash.
`FACTORY-RESET` purges four folders and then restarts the device, unless a purge fails. The
folders of the flash are told apart by their paths.
-/

namespace WalnutGateway

/-! ## The folder a command names -/

section Scan

variable {p : Byte → Bool} {c : Byte}

end Scan

/-! ## Which folder a name is -/

end WalnutGateway
