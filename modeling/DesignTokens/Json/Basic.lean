import DesignTokens.Decimal.Reading

/-!
# JSON documents

A document as it was written: objects keep their fields in order and may name a
field twice.  A *value* is a document without those accidents, with its keys
sorted and each of them there once.

Key definitions:

* `Json` is the tree of a document.
* `Json.canonical` sorts the keys of a document, and `Json.value?` gives its value.
* `Json.same` is equality of values.
-/

namespace DesignTokens

/-! ## Trees -/

/-- A number is whole if it was written without point and exponent and fits
into 64 bits, and a double otherwise. -/
inductive Json.Number where
  | whole (n : Int)
  | real (x : Float)
deriving Repr, DecidableEq

/-- The tree of a document.  `unreadable` stands for text that follows the
grammar but has no value: a number beyond all doubles, half of a surrogate
pair, or brackets nested too deep.  Where nobody looks at it, it does no
harm. -/
inductive Json where
  | null
  | bool (b : Bool)
  | num (n : Json.Number)
  | str (s : String)
  | arr (items : List Json)
  | obj (fields : List (String × Json))
  | unreadable
deriving Repr, Inhabited

namespace Json

/-! ## Numbers -/

/-- The least whole number and the greatest. -/
def leastWhole : Int := -9223372036854775808

@[inherit_doc leastWhole]
def greatestWhole : Int := 18446744073709551615

/-- The number of a literal.  Whole numbers beyond 64 bits and negative zero are
doubles, and a literal beyond all doubles has no number. -/
def Number.ofLiteral? (l : Decimal.Literal) : Option Number :=
  let n : Int := if l.negative then -(l.coefficient : Int) else l.coefficient
  let negativeZero := l.negative && l.coefficient == 0
  if l.isWhole && !negativeZero && leastWhole ≤ n && n ≤ greatestWhole then some (.whole n)
  else (l.scaledFloat?.filter Decimal.isFinite).map .real

/-- The double of a number. -/
def Number.toFloat : Number → Float
  | .whole n => Decimal.floatOfInt n
  | .real x => x

/-- Equality of numbers.  A whole number differs from every double, and the two
zeros are equal. -/
def Number.same : Number → Number → Bool
  | .whole m, .whole n => m == n
  | .real x, .real y => x == y
  | _, _ => false

/-! ## Values -/

/-- Puts a field into its place in a sorted list of fields.  A field of the
same name gives way. -/
def insertSorted (key : String) (j : Json) : List (String × Json) → List (String × Json)
  | [] => [(key, j)]
  | (k, i) :: fields =>
    if key < k then (key, j) :: (k, i) :: fields
    else if key = k then (key, j) :: fields
    else (k, i) :: insertSorted key j fields

/-- Sorts fields by name; of fields with one name the last counts. -/
def sortFields (fields : List (String × Json)) : List (String × Json) :=
  fields.foldl (fun sorted field => insertSorted field.1 field.2 sorted) []

mutual

/-- Whether every part of a document has a value. -/
def isReadable : Json → Bool
  | .unreadable => false
  | .arr items => areReadable items
  | .obj fields => haveReadable fields
  | _ => true

/-- Whether all items of an array have values. -/
def areReadable : List Json → Bool
  | [] => true
  | j :: js => isReadable j && areReadable js

/-- Whether all fields of an object have values. -/
def haveReadable : List (String × Json) → Bool
  | [] => true
  | (_, j) :: fs => isReadable j && haveReadable fs

end

mutual

/-- The document with the keys of all its objects sorted, each there once. -/
def canonical : Json → Json
  | .arr items => .arr (canonicalItems items)
  | .obj fields => .obj (sortFields (canonicalFields fields))
  | j => j

/-- The items of an array with their keys sorted. -/
def canonicalItems : List Json → List Json
  | [] => []
  | j :: js => canonical j :: canonicalItems js

/-- The fields of an object with the keys inside them sorted. -/
def canonicalFields : List (String × Json) → List (String × Json)
  | [] => []
  | (k, j) :: fs => (k, canonical j) :: canonicalFields fs

end

/-- The value of a document, unless some part of it is unreadable. -/
def value? (j : Json) : Option Json := if j.isReadable then some j.canonical else none

mutual

/-- Equality of values. -/
def same : Json → Json → Bool
  | .null, .null => true
  | .bool a, .bool b => a == b
  | .num m, .num n => m.same n
  | .str s, .str t => s == t
  | .arr xs, .arr ys => sameItems xs ys
  | .obj fs, .obj gs => sameFields fs gs
  | _, _ => false

/-- Equality of arrays, item by item. -/
def sameItems : List Json → List Json → Bool
  | [], [] => true
  | x :: xs, y :: ys => same x y && sameItems xs ys
  | _, _ => false

/-- Equality of objects with sorted keys, field by field. -/
def sameFields : List (String × Json) → List (String × Json) → Bool
  | [], [] => true
  | (k, x) :: fs, (l, y) :: gs => k == l && same x y && sameFields fs gs
  | _, _ => false

end

/-- The content of the first field with a name. -/
def get? (fields : List (String × Json)) (key : String) : Option Json := fields.lookup key

end Json

end DesignTokens
