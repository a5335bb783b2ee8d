import DesignTokens.Json.Basic

/-!
# Typed readings of JSON

How a type of the library is read from a document and written to one.  A record
is an object, or an array of its fields in their fixed order, and an
alternative of a closed list is the string of its name.

Key definitions:

* `ToJson` and `OfJson` are the types with a JSON form.
* `Json.record?` gives the known fields of a record.
* `Json.required?`, `Json.optional?` and `Json.orElse?` read one field.
* `Alternatives` are the types whose values are known by name.
-/

namespace DesignTokens

/-! ## Types with a JSON form -/

/-- Types that are written to documents. -/
class ToJson (α : Type) where
  toJson : α → Json

/-- Types that are read from documents. -/
class OfJson (α : Type) where
  ofJson? : Json → Option α

export ToJson (toJson)
export OfJson (ofJson?)

instance : ToJson Bool := ⟨.bool⟩
instance : ToJson String := ⟨.str⟩
instance : ToJson UInt16 := ⟨fun n => .num (.whole n.toNat)⟩
instance : ToJson UInt32 := ⟨fun n => .num (.whole n.toNat)⟩
instance : ToJson UInt64 := ⟨fun n => .num (.whole n.toNat)⟩
instance : ToJson Int64 := ⟨fun n => .num (.whole n.toInt)⟩

/-- Infinities have no JSON form, and `null` takes their place. -/
instance : ToJson Float := ⟨fun x => if Decimal.isFinite x then .num (.real x) else .null⟩

instance {α : Type} [ToJson α] : ToJson (List α) := ⟨fun xs => .arr (xs.map toJson)⟩

instance : OfJson Bool where
  ofJson?
    | .bool b => some b
    | _ => none

instance : OfJson String where
  ofJson?
    | .str s => some s
    | _ => none

/-- Every number is read as a double. -/
instance : OfJson Float where
  ofJson?
    | .num n => some n.toFloat
    | _ => none

/-- Reads a whole number between bounds. -/
def Json.whole? (low high : Int) : Json → Option Int
  | .num (.whole n) => if low ≤ n && n ≤ high then some n else none
  | _ => none

instance : OfJson UInt16 :=
  ⟨fun j => (j.whole? 0 (UInt16.size - 1)).map (fun n => UInt16.ofNat n.toNat)⟩

instance : OfJson UInt32 :=
  ⟨fun j => (j.whole? 0 (UInt32.size - 1)).map (fun n => UInt32.ofNat n.toNat)⟩

instance : OfJson UInt64 :=
  ⟨fun j => (j.whole? 0 (UInt64.size - 1)).map (fun n => UInt64.ofNat n.toNat)⟩

instance : OfJson Int64 :=
  ⟨fun j => (j.whole? Int64.minValue.toInt Int64.maxValue.toInt).map Int64.ofInt⟩

instance {α : Type} [OfJson α] : OfJson (List α) where
  ofJson?
    | .arr items => items.mapM ofJson?
    | _ => none

/-- A field that may be missing may also be `null`. -/
instance {α : Type} [OfJson α] : OfJson (Option α) where
  ofJson?
    | .null => some none
    | j => (ofJson? j).map some

/-- Any value, with its objects sorted. -/
instance : OfJson Json := ⟨Json.value?⟩

namespace Json

/-! ## Records -/

/-- A field of a record, with the other names that it is known by. -/
structure Field where
  name : String
  aliases : List String
deriving Repr, DecidableEq

/-- A field with one name. -/
def field (name : String) : Field := ⟨name, []⟩

/-- The name in the list of fields that a key stands for. -/
def fieldName? (known : List Field) (key : String) : Option String :=
  (known.find? (fun f => f.name == key || f.aliases.contains key)).map Field.name

/-- The known fields of an object, under their own names. -/
def knownFields (known : List Field) : List (String × Json) → List (String × Json)
  | [] => []
  | (key, j) :: fields =>
    match fieldName? known key with
    | some name => (name, j) :: knownFields known fields
    | none => knownFields known fields

/-- Whether no field is given twice. -/
def isUnambiguous : List (String × Json) → Bool
  | [] => true
  | (key, _) :: fields => fields.all (fun f => f.1 != key) && isUnambiguous fields

/-- The fields of a record.  In an array the fields stand in their order, and
the last ones may be left out. -/
def record? (known : List Field) : Json → Option (List (String × Json))
  | .obj fields =>
    let found := knownFields known fields
    if isUnambiguous found then some found else none
  | .arr items =>
    if items.length ≤ known.length then some ((known.map Field.name).zip items) else none
  | _ => none

/-- The content of a known field is part of the object. -/
theorem mem_of_mem_knownFields {known : List Field} {fields : List (String × Json)}
    {f : String × Json} (h : f ∈ knownFields known fields) : ∃ key, (key, f.2) ∈ fields := by
  induction fields with
  | nil => simp [knownFields] at h
  | cons g fields ih =>
    obtain ⟨key, j⟩ := g
    unfold knownFields at h
    split at h
    · rcases List.mem_cons.mp h with here | later
      · exact ⟨key, by simp [here]⟩
      · obtain ⟨k, mem⟩ := ih later
        exact ⟨k, List.mem_cons_of_mem _ mem⟩
    · obtain ⟨k, mem⟩ := ih h
      exact ⟨k, List.mem_cons_of_mem _ mem⟩

/-- The content of a field is smaller than the record, so that a reading of
nested records ends. -/
theorem sizeOf_lt_of_record? {known : List Field} {j : Json} {fields : List (String × Json)}
    {f : String × Json} (h : j.record? known = some fields) (mem : f ∈ fields) :
    sizeOf f.2 < sizeOf j := by
  cases j with
  | obj given =>
    simp only [record?] at h
    split at h
    · cases h
      obtain ⟨key, here⟩ := mem_of_mem_knownFields mem
      have := List.sizeOf_lt_of_mem here
      simp only [Prod.mk.sizeOf_spec] at this
      simp only [Json.obj.sizeOf_spec]
      omega
    · simp at h
  | arr items =>
    simp only [record?] at h
    split at h
    · cases h
      have here : f.2 ∈ items := (List.of_mem_zip mem).2
      have := List.sizeOf_lt_of_mem here
      simp only [Json.arr.sizeOf_spec]
      omega
    · simp at h
  | _ => simp [record?] at h

/-- What `get?` finds is a field. -/
theorem mem_of_get? {fields : List (String × Json)} {key : String} {j : Json}
    (h : get? fields key = some j) : ∃ k, (k, j) ∈ fields := by
  obtain ⟨before, after, split, _⟩ := List.lookup_eq_some_iff.mp h
  exact ⟨key, by simp [split]⟩

/-- The content that `get?` finds in a record is smaller than the record. -/
theorem sizeOf_lt_of_get? {known : List Field} {j i : Json} {fields : List (String × Json)}
    {key : String} (h : j.record? known = some fields) (found : get? fields key = some i) :
    sizeOf i < sizeOf j := by
  obtain ⟨k, mem⟩ := mem_of_get? found
  exact sizeOf_lt_of_record? h mem

/-! ## Fields -/

/-- Reads a field that has to be there. -/
def required? {α : Type} [OfJson α] (fields : List (String × Json)) (name : String) : Option α :=
  (get? fields name).bind ofJson?

/-- Reads a field with a value for the case that it is missing. -/
def orElse? {α : Type} [OfJson α] (fields : List (String × Json)) (name : String) (missing : α) :
    Option α :=
  match get? fields name with
  | some j => ofJson? j
  | none => some missing

/-- Reads a field that may be missing. -/
def optional? {α : Type} [OfJson α] (fields : List (String × Json)) (name : String) :
    Option (Option α) :=
  orElse? fields name none

/-- Writes a field that is left out when there is nothing in it. -/
def optionalField {α : Type} [ToJson α] (name : String) : Option α → List (String × Json)
  | some x => [(name, toJson x)]
  | none => []

/-- Writes a field that is left out when its list is empty. -/
def listField {α : Type} [ToJson α] (name : String) : List α → List (String × Json)
  | [] => []
  | xs => [(name, toJson xs)]

/-! ## Alternatives -/

/-- The name of an alternative: a string, or an object that has the name as its
only key and nothing behind it. -/
def variant? : Json → Option String
  | .str name => some name
  | .obj [(name, .null)] => some name
  | _ => none

end Json

/-- Types whose values are alternatives known by their names. -/
class Alternatives (α : Type) where
  /-- Every alternative that has a name of its own. -/
  all : List α
  /-- The name of an alternative. -/
  name : α → String
  /-- Further names. -/
  synonyms : List (String × α) := []
  /-- What any other name stands for. -/
  unknown : Option α := none

/-- The alternative with a name. -/
def Alternatives.ofName? {α : Type} [Alternatives α] (name : String) : Option α :=
  (all.find? (fun a => Alternatives.name a == name)).or ((synonyms.lookup name).or unknown)

/-- The alternative with a name in any mixture of small and capital letters. -/
def Alternatives.ofText? {α : Type} [Alternatives α] (text : String) : Option α :=
  ofName? text.toLower

instance {α : Type} [Alternatives α] : ToJson α := ⟨fun a => .str (Alternatives.name a)⟩

instance {α : Type} [Alternatives α] : OfJson α :=
  ⟨fun j => j.variant?.bind Alternatives.ofName?⟩

end DesignTokens
