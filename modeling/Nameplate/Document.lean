import Nameplate.Decimal
import Nameplate.Text.Quoted

/-!
Documents: the values that configuration and snapshot files hold.

A mapping keeps its members in the order in which they were written, because
messages follow that order.  A number with a point or an exponent is a decimal
and never an integer, whatever its value.
-/

namespace Nameplate

inductive Document where
  | null
  | bool (value : Bool)
  | integer (value : Int)
  | decimal (value : Decimal)
  | text (value : String)
  | list (items : List Document)
  | mapping (members : List (String × Document))
deriving Repr

namespace Document

def typeName : Document → String
  | .null => "NoneType"
  | .bool _ => "bool"
  | .integer _ => "int"
  | .decimal _ => "float"
  | .text _ => "str"
  | .list _ => "list"
  | .mapping _ => "dict"

/-- Whether a value counts as nothing: null, false, zero, and the empty text,
list and mapping. -/
def isNothing : Document → Bool
  | .null => true
  | .bool value => !value
  | .integer value => value = 0
  | .decimal value => value.isZero
  | .text value => value.isEmpty
  | .list items => items.isEmpty
  | .mapping members => members.isEmpty

/-- The value itself, or an empty mapping in place of a value that counts as
nothing. -/
def orEmptyMapping (document : Document) : Document :=
  if document.isNothing then .mapping [] else document

/-- The value itself, or an empty list in place of a value that counts as
nothing. -/
def orEmptyList (document : Document) : Document :=
  if document.isNothing then .list [] else document

mutual

/-- Whether two values are the same, members in the same order. -/
def same : Document → Document → Bool
  | .null, .null => true
  | .bool left, .bool right => left == right
  | .integer left, .integer right => left == right
  | .decimal left, .decimal right => left == right
  | .text left, .text right => left == right
  | .list left, .list right => sameItems left right
  | .mapping left, .mapping right => sameMembers left right
  | _, _ => false

def sameItems : List Document → List Document → Bool
  | [], [] => true
  | left :: lefts, right :: rights => same left right && sameItems lefts rights
  | _, _ => false

def sameMembers : List (String × Document) → List (String × Document) → Bool
  | [], [] => true
  | (leftKey, left) :: lefts, (rightKey, right) :: rights =>
      leftKey == rightKey && same left right && sameMembers lefts rights
  | _, _ => false

end

mutual

theorem same_iff (left right : Document) : same left right = true ↔ left = right := by
  cases left <;> cases right <;> simp [same]
  case list.list lefts rights => exact sameItems_iff lefts rights
  case mapping.mapping lefts rights => exact sameMembers_iff lefts rights

theorem sameItems_iff (lefts rights : List Document) :
    sameItems lefts rights = true ↔ lefts = rights := by
  match lefts, rights with
  | [], [] => simp [sameItems]
  | [], _ :: _ => simp [sameItems]
  | _ :: _, [] => simp [sameItems]
  | left :: lefts, right :: rights =>
      simp [sameItems, same_iff left right, sameItems_iff lefts rights]

theorem sameMembers_iff (lefts rights : List (String × Document)) :
    sameMembers lefts rights = true ↔ lefts = rights := by
  match lefts, rights with
  | [], [] => simp [sameMembers]
  | [], _ :: _ => simp [sameMembers]
  | _ :: _, [] => simp [sameMembers]
  | (leftKey, left) :: lefts, (rightKey, right) :: rights =>
      simp [sameMembers, same_iff left right, sameMembers_iff lefts rights]

end

instance : DecidableEq Document := fun left right =>
  decidable_of_iff (same left right = true) (same_iff left right)

def member? (members : List (String × Document)) (key : String) : Option Document :=
  (members.find? fun member => member.1 = key).map Prod.snd

/-- The member of a mapping under a key, null if there is none. -/
def memberOrNull (members : List (String × Document)) (key : String) : Document :=
  (member? members key).getD .null

mutual

def shown : Document → String
  | .null => "None"
  | .bool true => "True"
  | .bool false => "False"
  | .integer value => toString value
  | .decimal value => value.text
  | .text value => Text.quoted value
  | .list items => "[" ++ ", ".intercalate (shownItems items) ++ "]"
  | .mapping members => "\x7b" ++ ", ".intercalate (shownMembers members) ++ "\x7d"

def shownItems : List Document → List String
  | [] => []
  | item :: rest => item.shown :: shownItems rest

def shownMembers : List (String × Document) → List String
  | [] => []
  | (key, value) :: rest => (Text.quoted key ++ ": " ++ value.shown) :: shownMembers rest

end

end Document

end Nameplate
