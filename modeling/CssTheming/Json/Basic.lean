import CssTheming.Decimal.Shortest
import CssTheming.Entries
import CssTheming.Text.Quoted

/-!
# JSON values

The values of the data format, and their literal notation in rendered stylesheets and messages:
names for the constants, quoted texts, and brackets and braces with a comma and a space between
members.

## Main definitions

* `Json`: the values.
* `Json.literal`, `Json.display`: the literal notation of a value, and the text it stands for.
* `Json.follow?`, `Json.followD`: the value that a sequence of keys leads to. -/

namespace CssTheming

/-- A JSON value. Whole numbers are kept apart from numbers with a fraction or an exponent. -/
inductive Json where
  /-- The null value. -/
  | null
  /-- A truth value. -/
  | bool (value : Bool)
  /-- A whole number, written without fraction and exponent. -/
  | int (value : Int)
  /-- A number written with a fraction or an exponent, or one of the constants that are no
      numbers. -/
  | float (value : Binary64)
  /-- A text. -/
  | text (value : Text)
  /-- A sequence of values. -/
  | list (items : List Json)
  /-- Values by name. -/
  | object (members : List (Text × Json))
deriving Repr

namespace Json

instance : Inhabited Json := ⟨null⟩

mutual

/-- The literal notation of a value. -/
def literal : Json → Text
  | null => "None"
  | bool true => "True"
  | bool false => "False"
  | int n => Text.ofInt n
  | float x => x.toText
  | text t => Text.quote t
  | list items => "[" ++ Text.join ", " (itemLiterals items) ++ "]"
  | object members => "\x7b" ++ Text.join ", " (memberLiterals members) ++ "\x7d"

/-- The literal notations of the items of a list. -/
def itemLiterals : List Json → List Text
  | [] => []
  | item :: items => literal item :: itemLiterals items

/-- The literal notations of the members of an object, each with its quoted name. -/
def memberLiterals : List (Text × Json) → List Text
  | [] => []
  | (name, value) :: members =>
    (Text.quote name ++ ": " ++ literal value) :: memberLiterals members

end

/-- The text that a value stands for: a text itself, and otherwise the literal notation. -/
def display : Json → Text
  | text t => t
  | value => literal value

/-! ## Nested lookup

A sequence of keys leads from an object to a member, from there to a member of that, and so on. Only
objects have members, and only texts name them. -/

/-- The member of an object that `key` names. -/
def member? : Json → Json → Option Json
  | object members, text name => Entries.get? members name
  | _, _ => none

/-- The value that the keys lead to, if every step of the way exists. -/
def follow? (value : Json) : List Json → Option Json
  | [] => some value
  | key :: keys => (value.member? key).bind (follow? · keys)

/-- The value that the keys lead to, or `default` if some step of the way does not exist. -/
def followD (value : Json) (keys : List Json) (default : Json) : Json :=
  (value.follow? keys).getD default

end Json

end CssTheming
