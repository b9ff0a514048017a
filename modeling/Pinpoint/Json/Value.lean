import Pinpoint.Decimal.Binary64

/-!
# JSON values

Build artifacts, analysis results and reports are JSON. A value keeps what its text said: an
integer of any size stays apart from a number with a fraction or an exponent, and the members of
an object stay in the order of their first appearance.

Values are taken apart by requests that fail with a `ShapeError` when the value does not have the
shape asked of it: its members, its items, its integer, its text.
-/

namespace Pinpoint

/-- A JSON number. -/
inductive Number where
  | integer (value : Int)
  | real (value : Decimal.Binary64)
  deriving BEq, DecidableEq, Repr

/-- A JSON value. -/
inductive Json where
  | null
  | bool (value : Bool)
  | number (value : Number)
  | text (value : String)
  | list (items : List Json)
  | object (members : List (String × Json))
  deriving Inhabited

/-- A request that a JSON value cannot answer. -/
inductive ShapeError where
  /-- A member of a value that is not an object. -/
  | notObject
  /-- The text of a value that is not a text. -/
  | notText
  /-- The items of a null, a truth value or a number. -/
  | notSequence
  /-- The integer of a null, a list or an object. -/
  | notInteger
  /-- The integer of a text that is not a numeral. -/
  | badNumeral
  /-- The integer of a number that is not a number. -/
  | notANumber
  /-- The integer of an infinite number. -/
  | infinite
  /-- A list or an object where a name that can be looked up is needed. -/
  | notName
  /-- Names of different kinds, which have no order among them. -/
  | unordered
  /-- The digits of an integer that has too many. -/
  | unwritable
  deriving BEq, DecidableEq, Repr

namespace Json

/-! ## Equality -/

mutual

/-- Whether two values are the same. -/
def same : Json → Json → Bool
  | .null, .null => true
  | .bool first, .bool second => first == second
  | .number first, .number second => decide (first = second)
  | .text first, .text second => first == second
  | .list first, .list second => sameItems first second
  | .object first, .object second => sameMembers first second
  | _, _ => false

/-- Whether two lists have the same items. -/
def sameItems : List Json → List Json → Bool
  | [], [] => true
  | first :: rest, second :: others => same first second && sameItems rest others
  | _, _ => false

/-- Whether two objects have the same members in the same order. -/
def sameMembers : List (String × Json) → List (String × Json) → Bool
  | [], [] => true
  | (name, first) :: rest, (other, second) :: others =>
    name == other && same first second && sameMembers rest others
  | _, _ => false

end

mutual

theorem same_iff : ∀ {first second : Json}, same first second = true ↔ first = second
  | .null, second | .bool _, second | .number _, second | .text _, second => by
    cases second <;> simp [same]
  | .list items, second => by cases second <;> simp [same, @sameItems_iff items]
  | .object members, second => by cases second <;> simp [same, @sameMembers_iff members]

theorem sameItems_iff :
    ∀ {first second : List Json}, sameItems first second = true ↔ first = second
  | [], second => by cases second <;> simp [sameItems]
  | item :: rest, second => by
    cases second <;> simp [sameItems, @same_iff item, @sameItems_iff rest]

theorem sameMembers_iff :
    ∀ {first second : List (String × Json)}, sameMembers first second = true ↔ first = second
  | [], second => by cases second <;> simp [sameMembers]
  | (name, value) :: rest, second => by
    cases second <;>
      simp [sameMembers, @same_iff value, @sameMembers_iff rest, Prod.ext_iff, and_assoc]

end

instance : DecidableEq Json := fun _ _ => decidable_of_iff _ same_iff

/-! ## Requests -/

/-- An integer value. -/
def int (value : Int) : Json :=
  .number (.integer value)

/-- Whether a value counts as present: it is not null, false, zero, or empty. -/
def isPresent : Json → Bool
  | .null => false
  | .bool value => value
  | .number (.integer value) => value != 0
  | .number (.real value) => !value.isZero
  | .text value => !value.isEmpty
  | .list items => !items.isEmpty
  | .object members => !members.isEmpty

/-- Whether a value is null. -/
def isNull : Json → Bool
  | .null => true
  | _ => false

/-- The value itself if it is present, else the fallback. -/
def orElse (value fallback : Json) : Json :=
  if value.isPresent then value else fallback

/-- The value of a name among the members of an object. -/
def find? (name : String) (members : List (String × Json)) : Option Json :=
  (members.find? fun member => member.1 == name).map (·.2)

/-- The members with one of them set: in its place if the name is there, else at the end. -/
def setMember (name : String) (value : Json) : List (String × Json) → List (String × Json)
  | [] => [(name, value)]
  | member :: rest =>
    if member.1 = name then (name, value) :: rest else member :: setMember name value rest

/-- The member of a name, if the object has one. -/
def member? (value : Json) (name : String) : Except ShapeError (Option Json) :=
  match value with
  | .object members => .ok (find? name members)
  | _ => .error .notObject

/-- The member of a name, or the fallback if the object has none. -/
def memberOr (value : Json) (name : String) (fallback : Json) : Except ShapeError Json :=
  (value.member? name).map (·.getD fallback)

/-- The member of a name, or null if the object has none. -/
def member (value : Json) (name : String) : Except ShapeError Json :=
  value.memberOr name .null

/-- What a value is made of: the items of a list, the characters of a text, the names of an
object. -/
def items : Json → Except ShapeError (List Json)
  | .list items => .ok items
  | .text value => .ok (value.toList.map fun character => .text (String.singleton character))
  | .object members => .ok (members.map fun member => .text member.1)
  | .null | .bool _ | .number _ => .error .notSequence

/-- The items of a present value; none of an absent one. -/
def itemsIfPresent (value : Json) : Except ShapeError (List Json) :=
  if value.isPresent then value.items else .ok []

/-- The text of a text. -/
def asText : Json → Except ShapeError String
  | .text value => .ok value
  | _ => .error .notText

/-- The text of a present value; an absent one has the empty text. -/
def textIfPresent (value : Json) : Except ShapeError String :=
  if value.isPresent then value.asText else .ok ""

/-- Whether a value can be looked up among names. -/
def isName : Json → Bool
  | .list _ | .object _ => false
  | _ => true

end Json

end Pinpoint
