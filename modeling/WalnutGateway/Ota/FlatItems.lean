import WalnutGateway.Ota.CheckVersion

/-!
# Flat items

The items that a list of artifacts has: objects of members whose values are strings, numbers
or literals, in any order and with any whitespace. A search for a name in quotes finds the
first string that is the name, be it a member's name or a value.
-/

namespace WalnutGateway

/-! ## The items -/

/-- The bytes that a string of an item may have. -/
def isPlain (c : Byte) : Bool :=
  c ≠ 0 ∧ c ≠ 0x22 ∧ c ≠ 0x5C ∧ c ≠ 0x7B ∧ c ≠ 0x7D ∧ c ≠ 0x5B ∧ c ≠ 0x5D

/-- Whitespace between the parts of a response. -/
abbrev Spaces := { s : List Byte // ∀ c ∈ s, isJsonSpace c = true }

/-- A value: a string, or a number or literal. -/
inductive FlatValue where
  | string (s : List Byte) (plain : ∀ c ∈ s, isPlain c = true)
  | word (w : List Byte) (nonempty : w ≠ [])
      (plain : ∀ c ∈ w, isPlain c = true ∧ isUnquoted c = true)

namespace FlatValue

/-- The text of the value, without its quotes. -/
def text : FlatValue → List Byte
  | string s _ => s
  | word w _ _ => w

/-- The value as it is written. -/
def render : FlatValue → List Byte
  | string s _ => quoted s
  | word w _ _ => w

/-- The text of a value that is a string. -/
def string? : FlatValue → Option (List Byte)
  | string s _ => some s
  | word _ _ _ => none

end FlatValue

/-- A member, with the whitespace around its parts. -/
structure FlatMember where
  name : List Byte
  value : FlatValue
  before : Spaces
  afterName : Spaces
  beforeValue : Spaces
  after : Spaces

/-- The member as it is written, from its name on. -/
def FlatMember.render (m : FlatMember) : List Byte :=
  m.before.1 ++ (quoted m.name ++
    (m.afterName.1 ++ 0x3A :: (m.beforeValue.1 ++ (m.value.render ++ m.after.1))))

/-- Texts with commas between them. -/
def commaSeparated : List (List Byte) → List Byte
  | [] => []
  | [s] => s
  | s :: t :: ts => s ++ 0x2C :: commaSeparated (t :: ts)

/-- An item of the list, with the whitespace around it. -/
structure FlatItem where
  members : List FlatMember
  before : Spaces
  pad : Spaces
  after : Spaces

namespace FlatItem

/-- What stands between the item's braces. -/
def inner (item : FlatItem) : List Byte :=
  item.pad.1 ++ commaSeparated (item.members.map FlatMember.render)

/-- The item from its brace to the one that closes it. -/
def body (item : FlatItem) : List Byte := 0x7B :: (item.inner ++ [0x7D])

/-- The first member of a name. -/
def member? (item : FlatItem) (name : List Byte) : Option FlatMember :=
  item.members.find? (·.name = name)

end FlatItem

/-! ## Whitespace and stops -/

/-- The text does not go on like an unquoted value. -/
def Stops (u : List Byte) : Prop := ∀ c ∈ u.head?, isUnquoted c = false

theorem isUnquoted_of_isJsonSpace {c : Byte} (h : isJsonSpace c = true) : isUnquoted c = false := by
  simp [isUnquoted, h]

/-- Whitespace before something that stops a value stops it as well. -/
theorem Stops.spaces {u : List Byte} (hu : Stops u) (sp : Spaces) : Stops (sp.1 ++ u) := by
  obtain ⟨sp, hsp⟩ := sp
  cases sp with
  | nil => exact hu
  | cons b sp =>
    intro c hc
    obtain rfl : b = c := by simpa using hc
    exact isUnquoted_of_isJsonSpace (hsp b List.mem_cons_self)

/-- The first string that is the name is the name of a member. -/
def namedFirst (n : List Byte) : List FlatMember → Bool
  | [] => false
  | m :: ms => m.name = n ∨ (m.value.string? ≠ some n ∧ namedFirst n ms = true)

namespace FlatItem

/-- The first string that is the name is a member's name, or the text has the name nowhere. -/
def Named (item : FlatItem) (n : List Byte) : Prop :=
  namedFirst n item.members = true ∨ strstr n item.body = none

instance (item : FlatItem) (n : List Byte) : Decidable (item.Named n) :=
  inferInstanceAs (Decidable (_ ∨ _))

/-- The names of the members have no quotes, braces or brackets. -/
def PlainNames (item : FlatItem) : Prop := ∀ m ∈ item.members, ∀ c ∈ m.name, isPlain c = true

instance (item : FlatItem) : Decidable item.PlainNames :=
  inferInstanceAs (Decidable (∀ m ∈ item.members, ∀ c ∈ m.name, isPlain c = true))

end FlatItem

end WalnutGateway
