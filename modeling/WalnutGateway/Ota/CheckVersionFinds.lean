import WalnutGateway.Ota.MetaItems

/-!
# What the version check finds

For a response whose searches come upon the members that they are for, the version check
returns what the first item of the artifact says. Of a response that is cut anywhere, by the
server or by the buffer, it returns the same or no artifact, and the buffer is left as it was
received.
-/

namespace WalnutGateway

/-! ## Responses -/

/-- A member of a text: what stands before its name, and the text from its value on. -/
structure MemberAt (text name : List Byte) where
  before : List Byte
  afterName : Spaces
  beforeValue : Spaces
  rest : List Byte
  split : text = before ++ (quoted name ++ (afterName.1 ++ 0x3A :: (beforeValue.1 ++ rest)))

/-- The text from the member's name on. -/
def MemberAt.fromName {text name : List Byte} (m : MemberAt text name) : List Byte :=
  quoted name ++ (m.afterName.1 ++ 0x3A :: (m.beforeValue.1 ++ m.rest))

/-- The name stands nowhere before the member. -/
def MemberAt.First {text name : List Byte} (m : MemberAt text name) : Prop :=
  strstr (quoted name) text = some m.fromName

/-- A response that says success and has a data object with a list of flat items. -/
structure OtaResponse where
  text : List Byte
  nonzero : ∀ c ∈ text, c ≠ 0
  success : MemberAt text (asciiBytes "success")
  afterTrue : List Byte
  isTrue : success.rest = asciiBytes "true" ++ afterTrue
  stops : Stops afterTrue
  data : MemberAt text (asciiBytes "data")
  inData : List Byte
  isObject : data.rest = 0x7B :: inData
  list : MemberAt data.rest (asciiBytes "fileMetaDataList")
  items : List FlatItem
  pad : Spaces
  afterList : List Byte
  isArray : list.rest =
    0x5B :: (commaSeparated (items.map FlatItem.render) ++ pad.1 ++ 0x5D :: afterList)
  few : items.length ≤ otaHttpMaxMetaItems

/-- The searches come upon the members that they are for. -/
structure OtaResponse.Clear (artifactKey : List Byte) (urlSize : Nat) (crcOut : Bool)
    (r : OtaResponse) : Prop where
  success : r.success.First
  data : r.data.First
  list : r.list.First
  names : ∀ item ∈ r.items, item.PlainNames
  items : ItemsClear artifactKey urlSize crcOut r.items

/-- What the check returns, `url_out` and `*crc_out`. -/
def VersionReply.result (reply : VersionReply) : Int × List Byte × UInt32 :=
  (reply.ret, reply.url, reply.crc)

/-- What the check is to return for the response. -/
def OtaResponse.result (artifactKey : List Byte) (urlSize : Nat) (crcOut : Bool)
    (r : OtaResponse) : Int × List Byte × UInt32 :=
  match firstArtifact? artifactKey urlSize r.items with
  | some found => (1, found.1, if crcOut then found.2 else 0)
  | none => (0, [], 0)

/-- Where a text begins that another one ends with. -/
def place (text s : List Byte) : Nat := text.length - s.length

section Cut

variable {text b : List Byte} {k : Nat}

end Cut

namespace MemberAt

variable {text name : List Byte}

end MemberAt

/-! ## The parts of a response -/

namespace OtaResponse

variable (r : OtaResponse)

variable {artifactKey : List Byte} {urlSize : Nat} {crcOut : Bool} {b : List Byte} {k : Nat}

end OtaResponse

/-! ## The check -/

section Check

variable {artifactKey fw hw : List Byte} {imei mac : Option (List Byte)} {urlSize : Nat}
  {crcOut : Bool}

/-- The check where the server sends the first `n` bytes of a response. -/
def OtaResponse.check (r : OtaResponse) (fw hw : List Byte) (imei mac : Option (List Byte))
    (artifactKey respBuf : List Byte) (urlSize : Nat) (crcOut : Bool) (n : Nat) : VersionReply :=
  otaHttpCheckVersion (fun _ => some (r.text.take n)) (some fw) (some hw) imei mac
    (some artifactKey) respBuf urlSize crcOut

end Check

/-! ## Two responses -/

end WalnutGateway
