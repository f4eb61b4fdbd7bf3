import WalnutGateway.Common.Search

/-!
# The version check

`ota_http_check_version` posts the versions and looks for an artifact in the response. The
response is JSON, but it is not parsed: members are found by searching for their names, an
item of the list is cut out by counting braces, and a NUL is put behind it for as long as it is
searched.
-/

namespace WalnutGateway

/-- `OTA_HTTP_MAX_META_ITEMS`. -/
def otaHttpMaxMetaItems : Nat := 10

/-- `OTA_ARTIFACT_TYPE_BIN`. -/
def otaArtifactTypeBin : List Byte := asciiBytes "BIN"

/-- The whitespace of JSON. -/
def isJsonSpace (c : Byte) : Bool := c = 0x20 ∨ c = 0x09 ∨ c = 0x0D ∨ c = 0x0A

/-! ## Members -/

/-- An unquoted value goes on. -/
def isUnquoted (c : Byte) : Bool :=
  ¬ (c = 0x2C ∨ c = 0x7D ∨ c = 0x5D) ∧ ¬ isJsonSpace c

/-- `utils_extract_json_string` behind the key it found. -/
def extractValue (s : List Byte) (outLen : Nat) : Except Int (List Byte) :=
  match strchr s 0x3A with
  | none => .error (-1)
  | some pos =>
    match (pos.drop 1).dropWhile isJsonSpace with
    | 0x22 :: pos =>
      match strchr pos 0x22 with
      | none => .error (-1)
      | some close =>
        let len := pos.length - close.length
        if outLen ≤ len then .error (-2) else .ok (pos.take len)
    | pos =>
      let len := (pos.takeWhile isUnquoted).length
      if len = 0 ∨ outLen ≤ len then .error (-1) else .ok (pos.take len)

/-- A name in quotes. -/
def quoted (name : List Byte) : List Byte := 0x22 :: (name ++ [0x22])

/-- `utils_extract_json_string`, whose pattern has 64 characters. -/
def utilsExtractJsonString (json key : List Byte) (outLen : Nat) : Except Int (List Byte) :=
  if outLen = 0 then .error (-1)
  else if 64 ≤ (quoted key).length then .error (-1)
  else
    match strstr (quoted key) json with
    | some pos => extractValue (pos.drop (quoted key).length) outLen
    | none =>
      match strstr key json with
      | none => .error (-1)
      | some pos => extractValue (pos.drop key.length) outLen

/-! ## Pointers into the response -/

/-- `strstr` from a place in memory. -/
def memStrstr (needle mem : List Byte) (i : Nat) : Option Nat :=
  (strstr needle (cString (mem.drop i))).map fun s => i + ((cString (mem.drop i)).length - s.length)

/-- `strchr` from a place in memory. -/
def memStrchr (c : Byte) (mem : List Byte) (i : Nat) : Option Nat :=
  (strchr (cString (mem.drop i)) c).map fun s => i + ((cString (mem.drop i)).length - s.length)

/-- The first place of a character from one place in memory to another. -/
def memFind (c : Byte) (mem : List Byte) (i j : Nat) : Option Nat :=
  match strchr ((mem.take j).drop i) c with
  | none => none
  | some s => some (i + (((mem.take j).drop i).length - s.length))

/-! ## The response -/

/-- `ota_http_is_success`. -/
def otaHttpIsSuccess (response : List Byte) : Bool :=
  match utilsExtractJsonString response (asciiBytes "success") 16 with
  | .ok v => v = asciiBytes "true" ∨ v = asciiBytes "1"
  | .error _ => false

/-- `ota_http_find_data`. -/
def otaHttpFindData (mem : List Byte) : Option Nat :=
  match memStrstr (quoted (asciiBytes "data")) mem 0 with
  | none => none
  | some i => memStrchr 0x7B mem i

/-- `strtoul` to base 16 with an `unsigned long` of 32 bits; `none` where `*end` is the start. -/
def strtoulHex (s : List Byte) : Option Nat :=
  let t := s.dropWhile isspace
  let u := if t.head? = some 0x2B ∨ t.head? = some 0x2D then t.drop 1 else t
  let digits :=
    match u with
    | 0x30 :: x :: c :: rest =>
      if (x = 0x78 ∨ x = 0x58) ∧ hexNibble c < 16 then c :: rest else u
    | _ => u
  let hex := digits.takeWhile (hexNibble · < 16)
  if hex = [] then none
  else
    let n := hex.foldl (fun n c => 16 * n + hexNibble c) 0
    some (if n > uint32Max then uint32Max
      else if t.head? = some 0x2D then (2 ^ 32 - n) % 2 ^ 32 else n)

/-- The CRC that a checksum stands for, if it has digits. -/
def checkSumValue (crcStr : List Byte) : Option UInt32 :=
  match strtoulHex crcStr with
  | some v => some (UInt32.ofNat v)
  | none => (strtoul crcStr).map fun v => UInt32.ofNat v.1

/-- `ota_http_extract_checksum`. -/
def otaHttpExtractChecksum (item : List Byte) : Option UInt32 :=
  match utilsExtractJsonString item (asciiBytes "checkSum") 32 with
  | .error _ => none
  | .ok crcStr => checkSumValue crcStr

/-- The response's memory, `url_out`, and `*crc_out` where it is not `NULL`. -/
structure ArtifactState where
  mem : List Byte
  url : List Byte
  crc : UInt32

/-- An item that was cut out: whether it is the artifact, and what is written of it. -/
def readItem (artifactKey : List Byte) (urlSize : Nat) (crcOut : Bool) (item : List Byte)
    (st : ArtifactState) : Bool × ArtifactState :=
  match utilsExtractJsonString item (asciiBytes "key") 16 with
  | .error _ => (false, st)
  | .ok key =>
    if key ≠ artifactKey then (false, st)
    else
      match utilsExtractJsonString item (asciiBytes "url") urlSize with
      | .error _ => (false, st)
      | .ok url =>
        if url = [] then (false, { st with url := url })
        else
          (true, { st with
            url := url
            crc := if crcOut then (otaHttpExtractChecksum item).getD 0 else st.crc })

/-- The bytes of an item, up to the brace that closes its first one. -/
def itemLength : Int → List Byte → Option Nat
  | _, [] => none
  | brace, c :: cs =>
    if c = 0x7B then (itemLength (brace + 1) cs).map (· + 1)
    else if c = 0x7D then
      if brace - 1 = 0 then some 1 else (itemLength (brace - 1) cs).map (· + 1)
    else (itemLength brace cs).map (· + 1)

/-- What is skipped between two items. -/
def isItemGap (c : Byte) : Bool := isJsonSpace c ∨ c = 0x2C

/-- The items from a place in the list on. -/
def metaItems (artifactKey : List Byte) (urlSize : Nat) (crcOut : Bool) (arrayEnd : Nat) :
    Nat → Nat → ArtifactState → Bool × ArtifactState
  | 0, _, st => (false, st)
  | n + 1, cur, st =>
    let cur := cur + (((st.mem.take arrayEnd).drop cur).takeWhile isItemGap).length
    if arrayEnd ≤ cur ∨ st.mem[cur]? ≠ some 0x7B then (false, st)
    else
      match itemLength 0 ((st.mem.take arrayEnd).drop cur) with
      | none => (false, st)
      | some len =>
        let itemEnd := cur + len
        let saved := st.mem.getD itemEnd 0
        -- the item is a string of its own while it is searched
        let cut := st.mem.set itemEnd 0
        let read := readItem artifactKey urlSize crcOut (cString (cut.drop cur))
          { st with mem := cut }
        let st := { read.2 with mem := read.2.mem.set itemEnd saved }
        if read.1 then (true, st) else metaItems artifactKey urlSize crcOut arrayEnd n itemEnd st

/-- The list of items: the place behind its bracket, and the place of the bracket that ends it. -/
def findMetaList (mem : List Byte) (dataStart dataEnd : Nat) : Option (Nat × Nat) :=
  match memStrstr (quoted (asciiBytes "fileMetaDataList")) mem dataStart with
  | none => none
  | some name =>
    match memStrchr 0x5B mem name with
    | none => none
    | some bracket => (memFind 0x5D mem (bracket + 1) dataEnd).map fun e => (bracket + 1, e)

/-- `ota_http_find_artifact`. -/
def otaHttpFindArtifact (artifactKey : List Byte) (urlSize : Nat) (crcOut : Bool)
    (dataStart dataEnd : Nat) (st : ArtifactState) : Bool × ArtifactState :=
  match findMetaList st.mem dataStart dataEnd with
  | none => (false, st)
  | some (arrayPos, arrayEnd) =>
    metaItems artifactKey urlSize crcOut arrayEnd otaHttpMaxMetaItems arrayPos st

/-! ## The check -/

/-- A member's value in the request, in a field of some characters. -/
def requestField (size : Nat) (value : Option (List Byte)) : List Byte :=
  match value with
  | none => asciiBytes "null"
  | some [] => asciiBytes "null"
  | some (c :: cs) => (quoted (c :: cs)).take (size - 1)

/-- The request. -/
def versionPayload (fw hw : List Byte) (imei mac : Option (List Byte)) : List Byte :=
  asciiBytes "\x7b\"currentFirmwareVersion\":\"" ++ fw ++ asciiBytes "\",\"hardwareVersion\":\"" ++
    hw ++ asciiBytes "\",\"artifactType\":\"" ++ otaArtifactTypeBin ++ asciiBytes "\",\"imei\":" ++
    requestField 24 imei ++ asciiBytes ",\"macId\":" ++ requestField 20 mac ++ asciiBytes "\x7d"

/-- What `sdk_https_request` does with the buffer: the response as far as it fits, with a NUL
behind it, and its length. -/
def copyResponse (body respBuf : List Byte) : List Byte × Nat :=
  if 0 < respBuf.length ∧ 0 < body.length then
    let copyLen := if body.length < respBuf.length then body.length else respBuf.length - 1
    (body.take copyLen ++ 0 :: respBuf.drop (copyLen + 1), copyLen)
  else (respBuf, body.length)

/-- What the check returns and writes. -/
structure VersionReply where
  ret : Int
  url : List Byte
  crc : UInt32
  mem : List Byte

/-- `ota_http_check_version` with the buffer of the caller; `request` answers the payload, and
`none` is a `NULL` pointer. -/
def otaHttpCheckVersion (request : List Byte → Option (List Byte)) (fw hw : Option (List Byte))
    (imei mac artifactKey : Option (List Byte)) (respBuf : List Byte) (urlSize : Nat)
    (crcOut : Bool) : VersionReply :=
  match fw, hw, artifactKey with
  | some fw, some hw, some artifactKey =>
    if respBuf.length = 0 ∨ urlSize = 0 then ⟨-1, [], 0, respBuf⟩
    else if 256 ≤ (versionPayload fw hw imei mac).length then ⟨-1, [], 0, respBuf⟩
    else
      match request (versionPayload fw hw imei mac) with
      | none => ⟨-1, [], 0, respBuf⟩
      | some body =>
        let copied := copyResponse body respBuf
        if copied.2 = 0 then ⟨-1, [], 0, copied.1⟩
        else
          let stop := if copied.2 < respBuf.length then copied.2 else respBuf.length - 1
          let mem := copied.1.set stop 0
          let respLen := if respBuf.length ≤ copied.2 then stop else copied.2
          if ¬ otaHttpIsSuccess (cString mem) then ⟨-1, [], 0, mem⟩
          else
            match otaHttpFindData mem with
            | none => ⟨0, [], 0, mem⟩
            | some dataStart =>
              let dataEnd := if respLen < respBuf.length then respLen else respBuf.length
              let found := otaHttpFindArtifact artifactKey urlSize crcOut dataStart dataEnd
                ⟨mem, [], 0⟩
              ⟨if found.1 then 1 else 0, found.2.url, found.2.crc, found.2.mem⟩
  | _, _, _ => ⟨-1, [], 0, respBuf⟩

end WalnutGateway
