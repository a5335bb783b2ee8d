import DesignTokens.Proofs.Token.Payload
import DesignTokens.Token.Basic

/-!
# Tokens in documents

A list of tokens is read back from the document that is written for it, and so
is whatever was accepted as a token.
-/

namespace DesignTokens

open Json

/-! ## Tokens -/

instance : HasFinite Usage := ⟨fun _ => True⟩

def Usage.contents (u : Usage) : List (String × Option Json) :=
  [("isComponent", some (toJson u.isComponent)), ("isReused", some (toJson u.isReused)),
    ("frequency", some (toJson u.frequency))]

instance : LawfulJson Usage where
  readsBack {u} _ := by
    have component : ReadsBack u.isComponent := readsBack trivial
    have reused : ReadsBack u.isReused := readsBack trivial
    have frequency : ReadsBack u.frequency := readsBack trivial
    refine ReadsBack.of_contents
      [Json.field "isComponent", Json.field "isReused", Json.field "frequency"] u.contents rfl rfl
      (by decide) (by decide)
      ⟨isSound_content component, isSound_content reused, isSound_content frequency⟩ ?_
    intro sorted fields _ record found
    have component := required?_eq component (found "isComponent")
    have reused := required?_eq reused (found "isReused")
    have frequency := required?_eq frequency (found "frequency")
    simp only [ofJson?, record, Option.bind_eq_bind, Option.bind_some, component, reused,
      frequency]
    rfl
  isFinite _ _ := trivial

namespace Token

instance : HasFinite Token := ⟨fun t => IsFinite t.payload⟩

def contents (t : Token) : List (String × Option Json) :=
  [("id", some (toJson t.id)), ("name", some (toJson t.name)), ("type", some (toJson t.kind)),
    ("path", some (toJson t.path)), ("value", some (toJson t.payload)),
    ("metadata", t.usage.map toJson)]

theorem toJson_eq (t : Token) : toJson t = .obj (writtenFields t.contents) := by
  obtain ⟨id, name, path, payload, usage⟩ := t
  cases usage <;> rfl

instance : LawfulJson Token where
  readsBack {t} finite := by
    have id : ReadsBack t.id := readsBack trivial
    have name : ReadsBack t.name := readsBack trivial
    have kind : ReadsBack t.kind := readsBack trivial
    have path : ReadsBack t.path := readsBack fun _ _ => trivial
    have usage : ∀ u ∈ t.usage, ReadsBack u := fun _ _ => readsBack trivial
    have sound := Payload.isSound_toJson finite
    refine ReadsBack.of_contents knownFields t.contents (toJson_eq t) rfl (by decide) (by decide)
      ⟨isSound_content id, isSound_content name, isSound_content kind, isSound_content path,
        fun _ member => Option.some.inj member ▸ sound, isSound_optionContent usage⟩ ?_
    intro sorted fields _ record found
    have id := required?_eq id (found "id")
    have name := required?_eq name (found "name")
    have kind := required?_eq kind (found "type")
    have path := orElse?_eq path (found "path") []
    have usage := optional?_eq usage (found "metadata")
    -- The payload is read as a value first, and then from its sorted spelling.
    have value : required? fields "value" = some (toJson t.payload).canonical := by
      have content : get? fields "value" = some ((toJson t.payload).respell sorted) := found "value"
      rw [required?, content]
      exact value?_respell sorted sound
    have payload : Payload.ofJson? t.kind (toJson t.payload).canonical = some t.payload :=
      Payload.ofJson?_toJson finite true
    simp only [ofJson?, record, Option.bind_eq_bind, Option.bind_some, id, name, kind, path, usage,
      value, payload]
    rfl
  isFinite {j t} possible read := by
    simp only [ofJson?, Option.bind_eq_bind, Option.bind_eq_some_iff] at read
    obtain ⟨fields, record, _, _, _, _, _, _, _, _, _, value, _, _, _, payload, ⟨⟩⟩ := read
    have inside := havePossible_of_record? possible record
    obtain ⟨content, found, value⟩ := Option.bind_eq_some_iff.mp value
    have part := isPossible_of_value? (isPossible_of_get? inside found) value
    exact Payload.isFinite_of_ofJson? part payload

/-- Tokens with finite numbers are read back from their text, provided that these numbers come
through and that their brackets do not nest too deep. -/
theorem read_pretty {ts : List Token} (finite : IsFinite ts) (lossless : (toJson ts).IsLossless)
    (shallow : (toJson ts).depth ≤ depthLimit) :
    (read? (toJson ts).pretty).bind ofJson? = some ts := by
  have back := readsBack finite
  rw [read?_pretty back.sound shallow, reread_of_isLossless lossless, Option.bind_some]
  exact back.back false

/-- Tokens are read back from what is written for them, as it is written and as
a value with sorted keys, if their numbers are finite.  A document that was
accepted as a token gives such a token, so that reading, writing and reading
again comes to the same as reading once. -/
theorem reads_as_written :
    (∀ ts : List Token, IsFinite ts →
      ofJson? (toJson ts) = some ts ∧ (toJson ts).value?.bind ofJson? = some ts) ∧
    ∀ (j : Json) (t : Token), j.IsPossible → ofJson? j = some t →
      ofJson? (toJson t) = some t ∧ (toJson t).value?.bind ofJson? = some t :=
  ⟨fun _ finite => (readsBack finite).both,
    fun _ _ possible read => (readsBack (LawfulJson.isFinite possible read)).both⟩

/-- A card that has an icon and a row in it, and a dot in the row. -/
def card : Component where
  id := "1:1"
  name := "Card"
  key := "key"
  remote := true
  styles :=
    { Appearance.standard with
      fills := [.solid (.opaqueOf 1.0 0.5 0.25)]
      layout := { Layout.standard with mode := .vertical, itemSpacing := some 12.0 } }
  children := [.bare "Icon", { Component.bare "Row" with children := [.bare "Dot"] }]

/-- The second stroke of the card, and the card itself. -/
def cardTokens : List Token :=
  [⟨"color:1:1", "Card", ["Page"], .color ⟨.opaqueOf 1.0 0.5 0.25, .stroke, 1⟩,
      some ⟨true, true, 3⟩⟩,
    ⟨"component:1:1", "Card", [], .component card, none⟩]

/-- The spacing of the card under an older name of its kind, with a whole number
for a double and beside a field that cannot be read. -/
def cardDocument : Json :=
  .obj [("id", .str "spacing:1:1"), ("name", .str "Card"), ("type", .str "layout"),
    ("note", .unreadable),
    ("value", .obj [("layoutMode", .str "VERTICAL"), ("itemSpacing", .num (.whole 12))])]

/-- The token of that document. -/
def cardSpacing : Token :=
  ⟨"spacing:1:1", "Card", [],
    .spacing ⟨.vertical, .topLeft, none, some (Decimal.floatOfInt 12), none⟩, none⟩

theorem reads_as_written_card :
    (ofJson? (toJson cardTokens) = some cardTokens ∧
      (toJson cardTokens).value?.bind ofJson? = some cardTokens) ∧
    ofJson? cardDocument = some cardSpacing ∧
    ofJson? (toJson cardSpacing) = some cardSpacing ∧
      (toJson cardSpacing).value?.bind ofJson? = some cardSpacing := by
  have color : IsFinite (Color.opaqueOf 1.0 0.5 0.25) :=
    ⟨by decide +kernel, by decide +kernel, by decide +kernel, by decide +kernel⟩
  have fill : IsFinite (Paint.solid (.opaqueOf 1.0 0.5 0.25)) :=
    ⟨fun _ member => Option.some.inj member ▸ color, nofun⟩
  have spacing : IsFinite (12.0 : Float) := by decide +kernel
  have styles : IsFinite card.styles :=
    ⟨List.forall_mem_singleton.mpr fill, nofun, nofun,
      ⟨nofun, fun _ member => Option.some.inj member ▸ spacing, nofun⟩, nofun⟩
  have bare := Appearance.isFinite_standard
  have whole : IsFinite card :=
    ⟨styles, ⟨bare, trivial⟩, ⟨bare, ⟨bare, trivial⟩, trivial⟩, trivial⟩
  have finite : IsFinite cardTokens :=
    List.forall_mem_cons.mpr ⟨color, List.forall_mem_singleton.mpr whole⟩
  have possible : cardDocument.IsPossible :=
    ⟨trivial, trivial, trivial, trivial, ⟨trivial, ⟨by decide, by decide⟩, trivial⟩, trivial⟩
  have read : ofJson? cardDocument = some cardSpacing := rfl
  exact ⟨reads_as_written.1 cardTokens finite, read,
    reads_as_written.2 cardDocument cardSpacing possible read⟩

end Token

end DesignTokens
