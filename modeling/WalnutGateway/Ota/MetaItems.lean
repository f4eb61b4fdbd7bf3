import WalnutGateway.Ota.FlatItems

/-!
# The list of artifacts

What is read of one item and of a list of them, wherever the list stands in the memory of the
response: the first item that is the artifact and has an address that fits, as long as a search
for a name does not come upon another text first.
-/

namespace WalnutGateway

namespace FlatItem

/-! ## What an item says -/

/-- The item's member `key` is the artifact's. -/
def isArtifact (item : FlatItem) (artifactKey : List Byte) : Bool :=
  (item.member? (asciiBytes "key")).bind (·.value.string?) = some artifactKey

/-- The member `url`, if it is a string that is not empty and fits. -/
def url? (item : FlatItem) (urlSize : Nat) : Option (List Byte) :=
  ((item.member? (asciiBytes "url")).bind (·.value.string?)).filter fun url =>
    url ≠ [] ∧ url.length < urlSize

/-- The CRC that the member `checkSum` stands for, and 0 without one. -/
def crc (item : FlatItem) : UInt32 :=
  ((item.member? (asciiBytes "checkSum")).bind fun m => checkSumValue m.value.text).getD 0

/-- What an item has to say about an artifact. -/
def artifact? (item : FlatItem) (artifactKey : List Byte) (urlSize : Nat) :
    Option (List Byte × UInt32) :=
  if item.isArtifact artifactKey then (item.url? urlSize).map (·, item.crc) else none

/-- The searches in an item come upon the members that they are for, and these are strings that
fit where the artifact's values are expected. -/
structure Clear (artifactKey : List Byte) (urlSize : Nat) (crcOut : Bool) (item : FlatItem) :
    Prop where
  key : item.Named (asciiBytes "key")
  keyValue : ∀ m ∈ item.member? (asciiBytes "key"), m.value.text = artifactKey →
    m.value.string? = some artifactKey ∧ artifactKey.length < 16
  url : item.isArtifact artifactKey = true → item.Named (asciiBytes "url")
  urlValue : item.isArtifact artifactKey = true → ∀ m ∈ item.member? (asciiBytes "url"),
    m.value.string? = some m.value.text ∨ urlSize ≤ m.value.text.length
  checkSum : crcOut = true → (item.artifact? artifactKey urlSize).isSome = true →
    item.Named (asciiBytes "checkSum")
  checkSumValue : crcOut = true → (item.artifact? artifactKey urlSize).isSome = true →
    ∀ m ∈ item.member? (asciiBytes "checkSum"), m.value.text.length < 32

end FlatItem

section Read

variable {artifactKey : List Byte} {urlSize : Nat} {crcOut : Bool} {item : FlatItem}

/-- What the artifact's item writes. -/
def ArtifactState.write (st : ArtifactState) (crcOut : Bool) (found : List Byte × UInt32) :
    ArtifactState :=
  { st with url := found.1, crc := if crcOut then found.2 else st.crc }

end Read

/-! ## Cutting an item out -/

/-- A NUL behind a part of memory makes the part a string. -/
theorem cString_set_zero {a s r : List Byte} (hs : ∀ c ∈ s, c ≠ 0) (hr : r ≠ []) :
    cString (((a ++ (s ++ r)).set (a.length + s.length) 0).drop a.length) = s := by
  obtain ⟨c, r, rfl⟩ := List.exists_cons_of_ne_nil hr
  rw [List.set_append_right _ _ (by omega), Nat.add_sub_cancel_left, List.drop_left,
    List.set_append_right _ _ le_rfl, Nat.sub_self, List.set_cons_zero, cString_append_zero hs]

/-- Items one after the other, with whitespace and commas before each and at the end. -/
inductive Laid : List FlatItem → List Byte → Prop
  | nil {gap : List Byte} (hgap : ∀ c ∈ gap, isItemGap c = true) : Laid [] gap
  | cons {gap t : List Byte} {item : FlatItem} {items : List FlatItem}
      (hgap : ∀ c ∈ gap, isItemGap c = true) (ht : Laid items t) :
      Laid (item :: items) (gap ++ (item.body ++ t))

theorem Laid.gap {items : List FlatItem} {t gap : List Byte} (h : Laid items t)
    (hgap : ∀ c ∈ gap, isItemGap c = true) : Laid items (gap ++ t) := by
  have hboth : ∀ {g : List Byte}, (∀ c ∈ g, isItemGap c = true) → ∀ c ∈ gap ++ g,
      isItemGap c = true := fun hg c hc => (List.mem_append.mp hc).elim (hgap c) (hg c)
  cases h with
  | nil hg => exact .nil (hboth hg)
  | cons hg ht =>
    rw [← List.append_assoc]
    exact .cons (hboth hg) ht

/-- An item of the list as it is written. -/
def FlatItem.render (item : FlatItem) : List Byte := item.before.1 ++ (item.body ++ item.after.1)

/-- The items up to the one that is the artifact's are read as they are meant. -/
def ItemsClear (artifactKey : List Byte) (urlSize : Nat) (crcOut : Bool) : List FlatItem → Prop
  | [] => True
  | item :: items => item.Clear artifactKey urlSize crcOut ∧
      (item.artifact? artifactKey urlSize = none → ItemsClear artifactKey urlSize crcOut items)

/-- What the first item that is the artifact's has to say. -/
def firstArtifact? (artifactKey : List Byte) (urlSize : Nat) (items : List FlatItem) :
    Option (List Byte × UInt32) :=
  items.findSome? (·.artifact? artifactKey urlSize)

section List

variable {artifactKey : List Byte} {urlSize : Nat} {crcOut : Bool}

end List

end WalnutGateway
