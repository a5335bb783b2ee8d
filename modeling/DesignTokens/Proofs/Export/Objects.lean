import DesignTokens.Proofs.Css.Number
import DesignTokens.Proofs.Export.Quotes
import DesignTokens.Proofs.Naming.Capitals
import DesignTokens.Proofs.Text.Reading

/-!
# Properties of object literals

The object literal of a token set has one object for each kind of entries and one property in
it for each entry.  The properties are called by the identifiers of the keys, and two keys may
have one identifier, so that the literal has a property twice.  What identifiers show of the
keys tells just when this is so.

Key definitions:

* `outline` reads the names of properties with the depth at which they stand.
* `literalBuckets` groups them by object.
* `TokenSet.keyBuckets` are the keys that the properties stand for.
-/

namespace DesignTokens

open Naming Text

/-! ## Reading object literals -/

/-- Where a reader of a source stands: in code, in a literal in single quotes, or behind a
backslash in such a literal. -/
inductive Position where
  | code
  | quoted
  | escaped

/-- The names in front of the colons of a source, each with the number of braces that are open
around it.  The name that is being read is `word`. -/
def outline : Position → Nat → List Char → List Char → List (Nat × String)
  | _, _, _, [] => []
  | .escaped, depth, word, _ :: rest => outline .quoted depth word rest
  | .quoted, depth, word, c :: rest =>
    outline (if c = '\\' then .escaped else if c = '\'' then .code else .quoted) depth word rest
  | .code, depth, word, c :: rest =>
    if c = '\'' then outline .quoted depth [] rest
    else if c = '\x7b' then outline .code (depth + 1) [] rest
    else if c = '\x7d' then outline .code (depth - 1) [] rest
    else if c = ':' then (depth, String.ofList word) :: outline .code depth [] rest
    else outline .code depth (if isNameChar c then word ++ [c] else []) rest

/-- The names at depth 1, each with the names at depth 2 that come behind it.  Those at depth 2
that come first of all are kept apart. -/
def grouped : List (Nat × String) → List String × List (String × List String)
  | [] => ([], [])
  | (depth, name) :: rest =>
    let (names, buckets) := grouped rest
    match depth with
    | 1 => ([], (name, names) :: buckets)
    | 2 => (name :: names, buckets)
    | _ => (names, buckets)

/-- The properties of an object literal whose values are objects, each with the names of the
properties in it. -/
def literalBuckets (text : String) : List (String × List String) :=
  (grouped (outline .code 0 [] text.toList)).2

/-! ## Texts and their names -/

/-- Whether a text has nothing but characters of names. -/
def IsName (text : String) : Prop := text.toList.all isNameChar = true

instance (text : String) : Decidable (IsName text) := inferInstanceAs (Decidable (_ = true))

theorem isName_camel (name : String) : IsName (camel name) :=
  List.all_eq_true.mpr (isNameChar_of_mem_camel name)

/-- The characters that mean something to the reader in code. -/
def codeMarks : List Char := ['\'', '\x7b', '\x7d', ':']

/-- Whether a text has none of these characters. -/
def IsMarkless (text : String) : Prop := ∀ c ∈ text.toList, c ∉ codeMarks

instance (text : String) : Decidable (IsMarkless text) :=
  decidable_of_iff (text.toList.all (fun c => !codeMarks.contains c) = true) (by simp [IsMarkless])

/-- Characters of a kind that has no marks make a text without marks. -/
theorem isMarkless_of_forall {P : Char → Bool} {text : String}
    (chars : ∀ c ∈ text.toList, P c = true) (apart : codeMarks.any P = false) :
    IsMarkless text := fun c member mark =>
  List.any_eq_false.mp apart c mark (chars c member)

theorem IsMarkless.append {s t : String} (first : IsMarkless s) (second : IsMarkless t) :
    IsMarkless (s ++ t) := by
  rw [IsMarkless, String.toList_append, List.forall_mem_append]
  exact ⟨first, second⟩

/-- Whether reading a text yields some names and goes on in code behind it, `depth` braces deep
in front of the text and `depth'` behind it. -/
def Outlines (depth depth' : Nat) (text : String) (names : List (Nat × String)) : Prop :=
  ∀ rest, outline .code depth [] (text.toList ++ rest) = names ++ outline .code depth' [] rest

theorem outline_unmarked {c : Char} (plain : c ∉ codeMarks) (depth : Nat)
    (word rest : List Char) :
    outline .code depth word (c :: rest) =
      outline .code depth (if isNameChar c then word ++ [c] else []) rest := by
  simp only [codeMarks, List.mem_cons, List.not_mem_nil, or_false, not_or] at plain
  obtain ⟨quote, opening, closing, colon⟩ := plain
  rw [outline, if_neg quote, if_neg opening, if_neg closing, if_neg colon]

/-- A text without marks yields nothing. -/
theorem exists_outline_unmarked {text : List Char} (plain : ∀ c ∈ text, c ∉ codeMarks)
    (depth : Nat) (word : List Char) :
    ∃ word', ∀ rest, outline .code depth word (text ++ rest) = outline .code depth word' rest := by
  induction text generalizing word with
  | nil => exact ⟨word, fun rest => rfl⟩
  | cons c cs ih =>
    obtain ⟨here, later⟩ := List.forall_mem_cons.mp plain
    obtain ⟨word', same⟩ := ih later (if isNameChar c then word ++ [c] else [])
    exact ⟨word', fun rest => by rw [List.cons_append, outline_unmarked here, same]⟩

theorem outline_spaces {text : List Char} (blank : text.all (· == ' ') = true) (depth : Nat)
    (rest : List Char) : outline .code depth [] (text ++ rest) = outline .code depth [] rest := by
  induction text with
  | nil => rfl
  | cons c cs ih =>
    rw [List.all_cons, Bool.and_eq_true, beq_iff_eq] at blank
    obtain ⟨rfl, later⟩ := blank
    rw [List.cons_append, outline_unmarked (by decide)]
    exact ih later

theorem outline_name {name : List Char} (named : ∀ c ∈ name, isNameChar c = true) (depth : Nat)
    (word rest : List Char) :
    outline .code depth word (name ++ ':' :: rest) =
      (depth, String.ofList (word ++ name)) :: outline .code depth [] rest := by
  induction name generalizing word with
  | nil => simp [outline]
  | cons c cs ih =>
    obtain ⟨here, later⟩ := List.forall_mem_cons.mp named
    have plain : c ∉ codeMarks := by
      intro mark
      simp only [codeMarks, List.mem_cons, List.not_mem_nil, or_false] at mark
      rcases mark with rfl | rfl | rfl | rfl <;> exact absurd here (by decide)
    rw [List.cons_append, outline_unmarked plain, if_pos here, ih later, List.append_assoc,
      List.singleton_append]

/-- Up to the quote that closes a literal nothing is read. -/
theorem outline_quoted (depth : Nat) (word : List Char) (text rest : List Char) :
    outline .quoted depth word (text.flatMap TokenSet.quoteChar ++ '\'' :: rest) =
      outline .code depth word rest := by
  induction text with
  | nil => rfl
  | cons c cs ih =>
    have passed (more : List Char) : outline .quoted depth word (TokenSet.quoteChar c ++ more) =
        outline .quoted depth word more := by
      unfold TokenSet.quoteChar
      split
      · rfl
      · rfl
      · rename_i notBackslash notQuote
        rw [List.singleton_append, outline, if_neg notBackslash, if_neg notQuote]
    rw [List.flatMap_cons, List.append_assoc, passed, ih]

namespace Outlines

variable {depth depth' depth'' : Nat} {text more name : String} {names others : List (Nat × String)}

theorem empty : Outlines depth depth "" [] := fun _ => rfl

theorem append (first : Outlines depth depth' text names)
    (second : Outlines depth' depth'' more others) :
    Outlines depth depth'' (text ++ more) (names ++ others) := fun rest => by
  rw [String.toList_append, List.append_assoc, first, second, List.append_assoc]

/-- A text without marks yields nothing if its last character ends the name in front of it. -/
theorem gap (plain : IsMarkless text) {c : Char} (last : more.toList = [c])
    (mark : c ∉ codeMarks) (other : isNameChar c = false) :
    Outlines depth depth (text ++ more) [] :=
  fun rest => by
    obtain ⟨word, same⟩ := exists_outline_unmarked plain depth []
    rw [String.toList_append, last, List.append_assoc, same, List.singleton_append,
      outline_unmarked mark, other]
    rfl

theorem opening (plain : IsMarkless text) : Outlines depth (depth + 1) (text ++ "\x7b") [] :=
  fun rest => by
    obtain ⟨word, same⟩ := exists_outline_unmarked plain depth []
    rw [String.toList_append, List.append_assoc, same]
    rfl

theorem closing (plain : IsMarkless text) : Outlines (depth + 1) depth (text ++ "\x7d") [] :=
  fun rest => by
    obtain ⟨word, same⟩ := exists_outline_unmarked plain (depth + 1) []
    rw [String.toList_append, List.append_assoc, same]
    rfl

theorem property (named : IsName name) :
    Outlines depth depth (name ++ ":") [(depth, name)] := fun rest => by
  have colon : ":".toList = [':'] := rfl
  rw [String.toList_append, colon, List.append_assoc, List.singleton_append,
    outline_name (List.all_eq_true.mp named), List.nil_append, String.ofList_toList]
  rfl

theorem literal (value : String) : Outlines depth depth (TokenSet.quote value) [] := fun rest => by
  rw [TokenSet.toList_quote, List.cons_append, List.append_assoc, List.singleton_append]
  exact outline_quoted depth [] value.toList rest

theorem flatMap {α : Type} {entries : List α} {linesOf : α → List String}
    {namesOf : α → List (Nat × String)}
    (each : ∀ e ∈ entries, Outlines depth depth (unlines (linesOf e)) (namesOf e)) :
    Outlines depth depth (unlines (entries.flatMap linesOf)) (entries.flatMap namesOf) := by
  induction entries with
  | nil => exact empty
  | cons e entries ih =>
    obtain ⟨here, later⟩ := List.forall_mem_cons.mp each
    rw [List.flatMap_cons, List.flatMap_cons, unlines_append]
    exact here.append (ih later)

end Outlines

/-! ## Lines of token sets -/

/-- Whether a text has nothing but spaces. -/
def IsIndent (text : String) : Prop := text.toList.all (· == ' ') = true

instance (text : String) : Decidable (IsIndent text) := inferInstanceAs (Decidable (_ = true))

theorem IsIndent.isMarkless {text : String} (blank : IsIndent text) : IsMarkless text :=
  isMarkless_of_forall (List.all_eq_true.mp blank) (by decide)

namespace TokenSet

section Lines

variable {depth : Nat} {indent name : String}

theorem outlines_indent (blank : IsIndent indent) : Outlines depth depth indent [] :=
  outline_spaces blank depth

theorem outlines_lineEnd {text : String} (plain : IsMarkless text) :
    Outlines depth depth (text ++ "\n") [] := .gap plain rfl (by decide) (by decide)

/-- A line for a property has its name in front of the colon and its value behind it. -/
theorem outlines_line (blank : IsIndent indent) (named : IsName name) {value : String}
    (nothing : Outlines depth depth (value ++ "," ++ "\n") []) :
    Outlines depth depth (unlines [indent ++ name ++ ": " ++ value ++ ","]) [(depth, name)] := by
  have space : Outlines depth depth " " [] := outlines_indent (by decide)
  have line := (((outlines_indent blank).append (.property named)).append space).append nothing
  have shape : unlines [indent ++ name ++ ": " ++ value ++ ","] =
      indent ++ (name ++ ":") ++ " " ++ (value ++ "," ++ "\n") := by
    rw [unlines_singleton, ← String.toList_inj]
    simp
  rw [shape]
  exact line

theorem outlines_literalLine (blank : IsIndent indent) (named : IsName name) (value : String) :
    Outlines depth depth (unlines [indent ++ name ++ ": " ++ quote value ++ ","])
      [(depth, name)] := by
  refine outlines_line blank named ?_
  rw [String.append_assoc]
  exact (Outlines.literal value).append (outlines_lineEnd (by decide))

theorem outlines_numberLine (blank : IsIndent indent) (named : IsName name) {text : String}
    (numeral : Decimal.IsNumeral text) :
    Outlines depth depth (unlines [indent ++ name ++ ": " ++ text ++ ","]) [(depth, name)] := by
  have plain : IsMarkless text := isMarkless_of_forall numeral (by decide)
  exact outlines_line blank named (outlines_lineEnd (plain.append (by decide)))

/-- The properties of an object stand one brace deeper than its own name. -/
theorem outlines_object (blank : IsIndent indent) (named : IsName name)
    {lines : List String} {names : List (Nat × String)}
    (inner : Outlines (depth + 1) (depth + 1) (unlines lines) names) :
    Outlines depth depth (unlines ([indent ++ name ++ ": \x7b"] ++ lines ++ [indent ++ "\x7d,"]))
      ((depth, name) :: names) := by
  have opening : Outlines depth (depth + 1) (" " ++ "\x7b") [] := .opening (by decide)
  have first := (((outlines_indent blank).append (.property named)).append opening).append
    (outlines_lineEnd (by decide : IsMarkless ""))
  have last : Outlines (depth + 1) depth (indent ++ "\x7d" ++ ("," ++ "\n")) [] :=
    (Outlines.closing blank.isMarkless).append (outlines_lineEnd (by decide))
  have shape : unlines ([indent ++ name ++ ": \x7b"] ++ lines ++ [indent ++ "\x7d,"]) =
      indent ++ (name ++ ":") ++ (" " ++ "\x7b") ++ ("" ++ "\n") ++ unlines lines
        ++ (indent ++ "\x7d" ++ ("," ++ "\n")) := by
    rw [unlines_append, unlines_append, unlines_singleton, unlines_singleton, ← String.toList_inj]
    simp
  rw [shape]
  have object := (first.append inner).append last
  rwa [List.append_nil] at object

end Lines

/-! ## Blocks of token sets -/

/-- The names of the parts of a text style, with the depth at which they stand. -/
def styleParts : List (Nat × String) :=
  ["fontFamily", "fontSize", "fontWeight", "lineHeight", "letterSpacing"].map (3, ·)

theorem outlines_textLines (m : OrderedMap String String) :
    Outlines 2 2 (unlines (textLines m)) (m.keys.flatMap (fun key => [(2, camel key)])) := by
  rw [textLines, OrderedMap.keys, List.flatMap_map, List.map_eq_flatMap]
  exact .flatMap fun entry _ => outlines_literalLine (by decide) (isName_camel entry.1) entry.2

theorem outlines_entryLines (name : String) (e : TypographyEntry) :
    Outlines 2 2 (unlines (entryLines name e)) ((2, camel name) :: styleParts) := by
  have weight : Decimal.IsNumeral (Decimal.wholeText e.fontWeight.toNat) :=
    Decimal.isNumeral_ofList fun c => Decimal.isDigit_of_mem_digits
  have indent : IsIndent "    " := by decide
  have deeper : IsIndent "      " := by decide
  let parts := ["      " ++ "fontFamily" ++ ": " ++ quote e.fontFamily ++ ","]
    ++ ["      " ++ "fontSize" ++ ": " ++ quote e.fontSize ++ ","]
    ++ ["      " ++ "fontWeight" ++ ": " ++ Decimal.wholeText e.fontWeight.toNat ++ ","]
    ++ ["      " ++ "lineHeight" ++ ": " ++ Css.number e.lineHeight ++ ","]
    ++ ["      " ++ "letterSpacing" ++ ": " ++ quote e.letterSpacing ++ ","]
  have inner : Outlines 3 3 (unlines parts) styleParts := by
    rw [unlines_append, unlines_append, unlines_append, unlines_append]
    exact ((((outlines_literalLine deeper (by decide) _).append
      (outlines_literalLine deeper (by decide) _)).append
      (outlines_numberLine deeper (by decide) weight)).append
      (outlines_numberLine deeper (by decide) (Css.isNumeral_number e.lineHeight))).append
      (outlines_literalLine deeper (by decide) _)
  have shape : entryLines name e =
      ["    " ++ camel name ++ ": \x7b"] ++ parts ++ ["    " ++ "\x7d,"] := by
    simp only [entryLines, parts, String.reduceAppend, List.cons_append, List.nil_append]
  rw [shape]
  exact outlines_object indent (isName_camel name) inner

/-- The names of an object and of the properties in it, each with what stands inside its own
object. -/
def bucketNames (deeper : List (Nat × String)) (bucket : String × List String) :
    List (Nat × String) :=
  (1, bucket.1) :: bucket.2.flatMap (fun key => (2, camel key) :: deeper)

/-- The keys of a kind, unless it has none. -/
def bucketOf (kind : String) (keys : List String) : List (String × List String) :=
  if keys.isEmpty then [] else [(kind, keys)]

/-- The keys of a token set by kind.  Kinds without entries have no object. -/
def keyBuckets (s : TokenSet) : List (String × List String) :=
  bucketOf "colors" s.colors.keys ++ bucketOf "typography" s.typography.keys
    ++ bucketOf "spacing" s.spacing.keys ++ bucketOf "shadows" s.shadows.keys

/-- Whether lines are the object of a bucket. -/
def IsObjectOf (lines : List String) (bucket : String × List String) : Prop :=
  ∃ deeper, (∀ n ∈ deeper, n.1 = 3) ∧ Outlines 1 1 (unlines lines) (bucketNames deeper bucket)

theorem isObjectOf_block {kind : String} (named : IsName kind) {keys lines : List String}
    {deeper : List (Nat × String)} (deep : ∀ n ∈ deeper, n.1 = 3)
    (empty : lines.isEmpty = keys.isEmpty)
    (inner : Outlines 2 2 (unlines lines) (keys.flatMap (fun key => (2, camel key) :: deeper))) :
    List.Forall₂ IsObjectOf (block kind lines) (bucketOf kind keys) := by
  rw [block, bucketOf, empty]
  split
  · exact .nil
  · have closing : "  \x7d," = "  " ++ "\x7d," := rfl
    rw [closing]
    exact .cons ⟨deeper, deep, outlines_object (by decide) named inner⟩ .nil

theorem isObjectOf_textBlock {kind : String} (named : IsName kind) (m : OrderedMap String String) :
    List.Forall₂ IsObjectOf (block kind (textLines m)) (bucketOf kind m.keys) := by
  refine isObjectOf_block named (List.forall_mem_nil _) ?_ (outlines_textLines m)
  rw [textLines, OrderedMap.keys, List.isEmpty_map, List.isEmpty_map]

theorem isObjectOf_styleBlock (m : OrderedMap String TypographyEntry) :
    List.Forall₂ IsObjectOf
      (block "typography" (m.entries.flatMap (fun e => entryLines e.1 e.2)))
      (bucketOf "typography" m.keys) := by
  have deep : ∀ n ∈ styleParts, n.1 = 3 := by decide
  refine isObjectOf_block (by decide) deep ?_ ?_
  · rw [OrderedMap.keys, List.isEmpty_map]
    cases m.entries <;> rfl
  · rw [OrderedMap.keys, List.flatMap_map]
    exact .flatMap fun entry _ => outlines_entryLines entry.1 entry.2

theorem isObjectOf_blocks (s : TokenSet) : List.Forall₂ IsObjectOf s.blocks s.keyBuckets :=
  List.rel_append (List.rel_append (List.rel_append (isObjectOf_textBlock (by decide) s.colors)
    (isObjectOf_styleBlock s.typography)) (isObjectOf_textBlock (by decide) s.spacing))
    (isObjectOf_textBlock (by decide) s.shadows)

/-! ## The whole literal -/

theorem grouped_append_of_deep {deeper : List (Nat × String)} (deep : ∀ n ∈ deeper, n.1 = 3)
    (rest : List (Nat × String)) : grouped (deeper ++ rest) = grouped rest := by
  induction deeper with
  | nil => rfl
  | cons n deeper ih =>
    obtain ⟨depth, name⟩ := n
    obtain ⟨here, later⟩ := List.forall_mem_cons.mp deep
    cases here
    exact ih later

theorem grouped_bucketNames {deeper : List (Nat × String)} (deep : ∀ n ∈ deeper, n.1 = 3)
    (bucket : String × List String) {rest : List (Nat × String)}
    {buckets : List (String × List String)} (others : grouped rest = ([], buckets)) :
    grouped (bucketNames deeper bucket ++ rest) =
      ([], (bucket.1, bucket.2.map camel) :: buckets) := by
  have inner (keys : List String) :
      grouped (keys.flatMap (fun key => (2, camel key) :: deeper) ++ rest) =
        (keys.map camel, buckets) := by
    induction keys with
    | nil => exact others
    | cons key keys ih =>
      rw [List.flatMap_cons, List.cons_append, List.cons_append, List.append_assoc, grouped,
        grouped_append_of_deep deep, ih]
      rfl
  rw [bucketNames, List.cons_append, grouped, inner]
  rfl

/-- Objects with empty lines between them are read one after the other. -/
theorem exists_outlines_blocks {blocks : List (List String)}
    {buckets : List (String × List String)} (objects : List.Forall₂ IsObjectOf blocks buckets) :
    ∃ names, Outlines 1 1 (unlines (List.intercalate [""] blocks)) names ∧
      grouped names = ([], buckets.map (fun bucket => (bucket.1, bucket.2.map camel))) := by
  induction objects with
  | nil => exact ⟨[], .empty, rfl⟩
  | @cons lines bucket blocks buckets first _ ih =>
    obtain ⟨deeper, deep, here⟩ := first
    obtain ⟨names, later, groups⟩ := ih
    refine ⟨bucketNames deeper bucket ++ names, ?_, grouped_bucketNames deep bucket groups⟩
    cases blocks with
    | nil =>
      have alone : unlines (List.intercalate [""] [lines]) =
          unlines lines ++ unlines (List.intercalate [""] []) := by
        simp [List.intercalate, unlines]
      rw [alone]
      exact here.append later
    | cons next blocks =>
      have empty : Outlines 1 1 ("" ++ "\n") [] := outlines_lineEnd (by decide)
      have apart : unlines (List.intercalate [""] (lines :: next :: blocks)) =
          unlines lines ++ ("" ++ "\n") ++ unlines (List.intercalate [""] (next :: blocks)) := by
        rw [← unlines_singleton, ← unlines_append, ← unlines_append]
        simp [List.intercalate]
      have both := (here.append empty).append later
      rw [List.append_nil] at both
      rw [apart]
      exact both

theorem literalBuckets_typescript (s : TokenSet) :
    literalBuckets s.typescript =
      s.keyBuckets.map (fun bucket => (bucket.1, bucket.2.map camel)) := by
  obtain ⟨names, inner, groups⟩ := exists_outlines_blocks (isObjectOf_blocks s)
  have first : Outlines 0 1 ("export const tokens = " ++ "\x7b" ++ ("" ++ "\n")) [] :=
    (Outlines.opening (by decide)).append (outlines_lineEnd (by decide))
  have last : Outlines 1 0
      ("" ++ "\x7d" ++ (" as const;\n\nexport type DesignTokens = typeof tokens;" ++ "\n")) [] :=
    (Outlines.closing (by decide)).append (outlines_lineEnd (by decide))
  have shape : s.typescript = "export const tokens = " ++ "\x7b" ++ ("" ++ "\n")
      ++ unlines (List.intercalate [""] s.blocks)
      ++ ("" ++ "\x7d" ++ (" as const;\n\nexport type DesignTokens = typeof tokens;" ++ "\n")) := by
    rw [typescript, unlines_append, unlines_append, ← String.toList_inj]
    simp [unlines]
  have whole := ((first.append inner).append last) []
  rw [List.append_nil, ← shape, List.nil_append, List.append_nil, outline, List.append_nil] at whole
  rw [literalBuckets, whole, groups]

theorem nodup_of_mem_keyBuckets {s : TokenSet} {bucket : String × List String}
    (member : bucket ∈ s.keyBuckets) : bucket.2.Nodup := by
  have each {kind : String} {keys : List String} (distinct : keys.Nodup)
      (here : bucket ∈ bucketOf kind keys) : bucket.2.Nodup := by
    rw [bucketOf] at here
    split at here
    · cases here
    · rw [List.mem_singleton.mp here]
      exact distinct
  rw [keyBuckets, List.mem_append, List.mem_append, List.mem_append] at member
  rcases member with ((colors | typography) | spacing) | shadows
  · exact each s.colors.nodup colors
  · exact each s.typography.nodup typography
  · exact each s.spacing.nodup spacing
  · exact each s.shadows.nodup shadows

/-- The literal of a token set has one property for each entry, called by the identifier of its
key.  The keys of a kind differ, and their properties do just if what identifiers show of the keys
differs.  They do if the keys are slugs in which each word but the first one starts with a letter
that has a capital to itself. -/
theorem properties_nodup_iff_shown (s : TokenSet) :
    literalBuckets s.typescript =
      s.keyBuckets.map (fun bucket => (bucket.1, bucket.2.map camel)) ∧
    ∀ bucket ∈ s.keyBuckets,
      bucket.2.Nodup ∧
      ((bucket.2.map camel).Nodup ↔ (bucket.2.map shown).Nodup) ∧
      ((∀ key ∈ bucket.2, kebab key = key ∧ HasCapitals key) → (bucket.2.map camel).Nodup) := by
  refine ⟨literalBuckets_typescript s, fun bucket member => ?_⟩
  have distinct := nodup_of_mem_keyBuckets member
  refine ⟨distinct, ?_, fun slugs => ?_⟩
  · have pairs (f : String → String) : (bucket.2.map f).Nodup ↔
        bucket.2.Pairwise (fun a b => f a ≠ f b) := List.pairwise_map
    rw [pairs, pairs]
    exact List.Pairwise.iff fun a b => not_congr camel_eq_iff_shown_eq
  · refine List.Nodup.map_on (fun a here b there same => ?_) distinct
    obtain ⟨own, capitals⟩ := slugs a here
    obtain ⟨own', capitals'⟩ := slugs b there
    rw [← own] at capitals
    rw [← own'] at capitals'
    rw [← own, ← own']
    exact kebab_eq_of_shown_eq capitals capitals' (camel_eq_iff_shown_eq.mp same)

/-- Two colors whose slugs differ in the hyphen in front of a digit. -/
def numberedCards : TokenSet :=
  { empty with
    colors := .ofList [("card-2", "rgba(0, 0, 0, 1)"), ("card2", "rgba(255, 255, 255, 1)")] }

theorem properties_numberedCards :
    kebab "card-2" = "card-2" ∧ kebab "card2" = "card2" ∧
      numberedCards.colors.keys = ["card-2", "card2"] ∧
      literalBuckets numberedCards.typescript = [("colors", ["card2", "card2"])] := by
  have keys : numberedCards.colors.keys = ["card-2", "card2"] := by decide +kernel
  have names : ["card-2", "card2"].map camel = ["card2", "card2"] := by decide +kernel
  have buckets : numberedCards.keyBuckets = [("colors", ["card-2", "card2"])] := by
    rw [keyBuckets, keys]
    rfl
  refine ⟨by decide +kernel, by decide +kernel, keys, ?_⟩
  rw [literalBuckets_typescript, buckets, List.map_singleton, names]

end TokenSet

end DesignTokens
