import DesignTokens.Generation.StyleFiles
import DesignTokens.Proofs.Generation.Lines
import DesignTokens.Proofs.Json.Lawful
import DesignTokens.Proofs.Naming.Alphabet
import DesignTokens.Proofs.Stylesheet.ComponentRule
import DesignTokens.Proofs.Stylesheet.Reading
import DesignTokens.Proofs.Stylesheet.Utilities

/-!
# Rules that apply utilities

The rule of a component either has its declarations or applies a utility for each of them.  A
utility cannot hold a blank, so spaces are written as underscores, and underscores are read as
spaces.  Nothing tells an underscore of the value from one that stands for a space, so that the two
rules say the same just if the font family has none, and no blank but spaces.

Key definitions:

* `plainRule?` reads a rule with declarations.
* `appliedRule?` reads a rule that applies utilities.
-/

namespace DesignTokens

open Naming Text

/-! ## Reading rules -/

/-- The text in front of the first `stop`, and the text behind the separator that starts there. -/
def cut? (stop : Char) (separator text : String) : Option (String × String) :=
  let front := String.ofList (text.toList.takeWhile (· ≠ stop))
  (inside? (front ++ separator) "" text).map (front, ·)

/-- The class of a rule and the lines in it. -/
def rule? (text : String) : Option (String × String) :=
  (inside? "." "\x7d\n" text).bind (cut? ' ' " \x7b\n")

/-- The declaration on a line. -/
def declarationLine? (line : String) : Option (String × String) :=
  (inside? "  " ";" line).bind (cut? ':' ": ")

/-- The lines of a text, each of which has a line feed behind it. -/
def linesOf (text : String) : List String :=
  (splitLines text.toList).dropLast.map String.ofList

/-- Reads a rule with a declaration on each line. -/
def plainRule? (text : String) : Option (String × List (String × String)) :=
  (rule? text).bind fun rule => ((linesOf rule.2).mapM declarationLine?).map (rule.1, ·)

/-- Whether a character is one of the blanks of stylesheets. -/
def isStyleBlank (c : Char) : Bool := [' ', '\t', '\n', '\r', '\x0c'].contains c

/-- The words between the blanks of a text. -/
def wordsIn (text : String) : List String :=
  ((text.toList.splitOnP isStyleBlank).filter (fun w => !w.isEmpty)).map String.ofList

/-- A value as it is read in a utility. -/
def spaced (value : String) : String := value.map (fun c => if c = '_' then ' ' else c)

/-- The declaration that a utility stands for. -/
def utility? (word : String) : Option (String × String) :=
  ((inside? "[" "]" word).bind (cut? ':' ":")).map fun d => (d.1, spaced d.2)

/-- The utilities on the line of a rule, if it has one. -/
def utilities? (lines : String) : Option (List (String × String)) :=
  if lines = "" then some []
  else (inside? "  @apply " ";\n" lines).bind fun applied => (wordsIn applied).mapM utility?

/-- Reads a rule that applies utilities, as the declarations that they stand for. -/
def appliedRule? (text : String) : Option (String × List (String × String)) :=
  (rule? text).bind fun rule => (utilities? rule.2).map (rule.1, ·)

theorem inside?_start (start text : String) : inside? start "" (start ++ text) = some text := by
  have found := inside?_append start text ""
  rwa [String.append_empty] at found

theorem cut?_append {stop : Char} {front separator : String} (absent : stop ∉ front.toList)
    (starts : separator.toList.head? = some stop) (rest : String) :
    cut? stop separator (front ++ separator ++ rest) = some (front, rest) := by
  obtain ⟨more, shape⟩ := List.head?_eq_some_iff.mp starts
  have word : (front ++ separator ++ rest).toList.takeWhile (· ≠ stop) = front.toList := by
    have inside : ∀ c ∈ front.toList, decide (c ≠ stop) = true := fun c member =>
      decide_eq_true fun same => absent (same ▸ member)
    rw [String.toList_append, String.toList_append, shape, List.append_assoc,
      List.takeWhile_append_of_pos inside]
    simp
  rw [cut?, word, String.ofList_toList, inside?_start]
  rfl

theorem rule?_unlines {className : String} (plain : ' ' ∉ className.toList) (lines : List String) :
    rule? (unlines (["." ++ className ++ " \x7b"] ++ lines ++ ["\x7d"])) =
      some (className, unlines lines) := by
  have shape : unlines (["." ++ className ++ " \x7b"] ++ lines ++ ["\x7d"]) =
      "." ++ (className ++ " \x7b\n" ++ unlines lines) ++ "\x7d\n" := by
    rw [unlines_append, unlines_append, ← String.toList_inj]
    simp [unlines]
  rw [shape, rule?, inside?_append, Option.bind_some, cut?_append plain rfl]

/-! ## Rules with declarations -/

theorem declarationLine?_append {d : String × String} (property : ':' ∉ d.1.toList) :
    declarationLine? ("  " ++ d.1 ++ ": " ++ d.2 ++ ";") = some d := by
  have shape : "  " ++ d.1 ++ ": " ++ d.2 ++ ";" = "  " ++ (d.1 ++ ": " ++ d.2) ++ ";" := by
    simp only [String.append_assoc]
  rw [shape, declarationLine?, inside?_append, Option.bind_some, cut?_append property rfl]

theorem linesOf_unlines {lines : List String} (single : ∀ l ∈ lines, IsSingle l) :
    linesOf (unlines lines) = lines := by
  have single' : ∀ l ∈ lines.map String.toList, '\n' ∉ l := List.forall_mem_map.mpr single
  rw [linesOf, toList_unlines, splitLines_unlineChars single', List.dropLast_concat, List.map_map]
  exact (List.map_congr_left fun l _ => String.ofList_toList).trans lines.map_id

/-- Declarations without line breaks are read from the rule that has them. -/
theorem plainRule?_plainRule {className : String} (plain : ' ' ∉ className.toList)
    {ds : List (String × String)} (properties : ∀ d ∈ ds, IsUnmarked d.1)
    (single : ∀ d ∈ ds, IsSingle d.2) :
    plainRule? (Component.plainRule className ds) = some (className, ds) := by
  have colon : isStyleMark ':' = true := by decide
  have lines : ∀ l ∈ ds.map (fun d => "  " ++ d.1 ++ ": " ++ d.2 ++ ";"), IsSingle l :=
    List.forall_mem_map.mpr fun d member =>
      (((IsSingle.append (by decide) (properties d member).isSingle).append (by decide)).append
        (single d member)).append (by decide)
  have back : (ds.map (fun d => "  " ++ d.1 ++ ": " ++ d.2 ++ ";")).mapM declarationLine? =
      some (ds.map id) :=
    mapM_map_eq_some fun d member => declarationLine?_append ((properties d member).not_mem colon)
  rw [plainRule?, Component.plainRule, ruleLines, rule?_unlines plain, Option.bind_some,
    linesOf_unlines lines, back, List.map_id]
  rfl

/-! ## Rules that apply utilities -/

/-- Whether a text has no blanks. -/
def IsUnspaced (text : String) : Prop := ∀ c ∈ text.toList, isStyleBlank c = false

instance (text : String) : Decidable (IsUnspaced text) :=
  decidable_of_iff (text.toList.all (fun c => !isStyleBlank c) = true) (by simp [IsUnspaced])

theorem IsUnspaced.append {s t : String} (first : IsUnspaced s) (second : IsUnspaced t) :
    IsUnspaced (s ++ t) := by
  rw [IsUnspaced, String.toList_append, List.forall_mem_append]
  exact ⟨first, second⟩

/-- Whether a text is a word between blanks. -/
def IsUnparted (word : String) : Prop := word ≠ "" ∧ IsUnspaced word

theorem filter_isUnparted {word : String} (unparted : IsUnparted word) (words : List (List Char)) :
    (word.toList :: words).filter (fun w => !w.isEmpty) =
      word.toList :: words.filter (fun w => !w.isEmpty) := by
  simpa [List.filter_cons] using unparted.1

theorem wordsIn_singleton {word : String} (unparted : IsUnparted word) : wordsIn word = [word] := by
  rw [wordsIn, List.splitOnP_eq_singleton unparted.2, filter_isUnparted unparted, List.filter_nil,
    List.map_singleton, String.ofList_toList]

theorem wordsIn_append {word : String} (unparted : IsUnparted word) (rest : String) :
    wordsIn (word ++ " " ++ rest) = word :: wordsIn rest := by
  have parts : (word ++ " " ++ rest).toList = word.toList ++ ' ' :: rest.toList := by simp
  rw [wordsIn, parts, List.splitOnP_append_cons_of_forall_mem unparted.2 ' ' (by decide),
    filter_isUnparted unparted, List.map_cons, String.ofList_toList]
  rfl

/-- Words are found again between spaces. -/
theorem wordsIn_intercalate {words : List String} (each : ∀ w ∈ words, IsUnparted w) :
    wordsIn (" ".intercalate words) = words := by
  induction words with
  | nil => simp [wordsIn]
  | cons word words ih =>
    obtain ⟨first, others⟩ := List.forall_mem_cons.mp each
    cases words with
    | nil => rw [String.intercalate_singleton, wordsIn_singleton first]
    | cons next words => rw [String.intercalate_cons_cons, wordsIn_append first, ih others]

theorem not_isStyleBlank_of_mem_splitOnP {text word : List Char}
    (member : word ∈ text.splitOnP isStyleBlank) : ∀ c ∈ word, isStyleBlank c = false := by
  induction text generalizing word with
  | nil =>
    rw [List.splitOnP_nil, List.mem_singleton] at member
    rw [member]
    exact List.forall_mem_nil _
  | cons c cs ih =>
    rw [List.splitOnP_cons_eq_if_modifyHead] at member
    split at member
    · rcases List.mem_cons.mp member with rfl | later
      · exact List.forall_mem_nil _
      · exact ih later
    · rename_i other
      rw [Bool.not_eq_true] at other
      obtain ⟨first, words, parts⟩ :=
        List.exists_cons_of_ne_nil (List.splitOnP_ne_nil isStyleBlank cs)
      rw [parts, List.modifyHead_cons] at member
      rcases List.mem_cons.mp member with rfl | later
      · exact List.forall_mem_cons.mpr ⟨other, ih (parts ▸ List.mem_cons_self)⟩
      · exact ih (parts ▸ List.mem_cons_of_mem first later)

theorem isUnspaced_of_mem_wordsIn {text word : String} (member : word ∈ wordsIn text) :
    IsUnspaced word := by
  obtain ⟨w, kept, rfl⟩ := List.mem_map.mp member
  rw [IsUnspaced, String.toList_ofList]
  exact not_isStyleBlank_of_mem_splitOnP (List.mem_filter.mp kept).1

/-! ## Values of utilities -/

/-- Whether all blanks of a value are spaces. -/
def HasOnlySpaces (value : String) : Prop :=
  ∀ c ∈ value.toList, isStyleBlank c = true → c = ' '

instance (value : String) : Decidable (HasOnlySpaces value) :=
  decidable_of_iff (value.toList.all (fun c => !isStyleBlank c || c == ' ') = true)
    (by simp [HasOnlySpaces, imp_iff_not_or])

/-- An underscore is read as a space, wherever it comes from. -/
theorem spaced_utilityValue (value : String) :
    spaced (Component.utilityValue value) = spaced value := by
  rw [spaced, spaced, Component.utilityValue, String.map_map]
  refine congrArg (String.map · value) (funext fun c => ?_)
  show (if (if c = ' ' then '_' else c) = '_' then ' ' else _) = _
  by_cases space : c = ' '
  · subst space
    rfl
  · simp only [if_neg space]

theorem spaced_eq_self {value : String} (absent : '_' ∉ value.toList) : spaced value = value := by
  have each : value.toList.map (fun c => if c = '_' then ' ' else c) = value.toList.map id := by
    refine List.map_congr_left fun c member => if_neg ?_
    rintro rfl
    exact absent member
  rw [← String.toList_inj, spaced, String.toList_map, each, List.map_id]

theorem utility?_utilityText {d : String × String} (property : ':' ∉ d.1.toList) :
    utility? (Component.utilityText d) = some (d.1, spaced d.2) := by
  have shape : Component.utilityText d =
      "[" ++ (d.1 ++ ":" ++ Component.utilityValue d.2) ++ "]" := by
    simp only [Component.utilityText, String.append_assoc]
  rw [shape, utility?, inside?_append, Option.bind_some, cut?_append property rfl, Option.map_some,
    spaced_utilityValue]

/-- Utilities are words if the only blanks in their values are spaces. -/
theorem isUnparted_utilityText {d : String × String}
    (property : IsUnspaced d.1) (value : HasOnlySpaces d.2) :
    IsUnparted (Component.utilityText d) := by
  constructor
  · intro empty
    have chars := congrArg String.toList empty
    simp [Component.utilityText] at chars
  · have inner : IsUnspaced (Component.utilityValue d.2) := by
      rw [IsUnspaced, Component.utilityValue, String.toList_map]
      refine List.forall_mem_map.mpr fun c member => ?_
      split
      · decide
      · rename_i other
        rw [Bool.eq_false_iff]
        exact fun blank => other (value c member blank)
    have opening : IsUnspaced "[" := by decide
    exact (((opening.append property).append (by decide)).append inner).append (by decide)

/-- What is read from a word has neither underscores nor blanks other than spaces. -/
theorem chars_of_utility? {word : String} {d : String × String}
    (plain : IsUnspaced word) (read : utility? word = some d) :
    '_' ∉ d.2.toList ∧ HasOnlySpaces d.2 := by
  obtain ⟨⟨property, value⟩, parts, rfl⟩ := Option.map_eq_some_iff.mp read
  obtain ⟨inner, found, cut⟩ := Option.bind_eq_some_iff.mp parts
  obtain ⟨_, behind, same⟩ := Option.map_eq_some_iff.mp cut
  cases same
  have inside : IsUnspaced value := fun c member => by
    refine plain c ?_
    rw [← inside?_eq_some_iff.mp found, ← inside?_eq_some_iff.mp behind]
    simp only [String.toList_append, List.mem_append]
    exact .inl (.inr (.inl (.inr member)))
  have each : ∀ c ∈ (spaced value).toList, c ≠ '_' ∧ (isStyleBlank c = true → c = ' ') := by
    rw [spaced, String.toList_map]
    refine List.forall_mem_map.mpr fun c member => ?_
    split
    · decide
    · rename_i other
      refine ⟨other, fun blank => ?_⟩
      rw [inside c member] at blank
      cases blank
  exact ⟨fun member => (each '_' member).1 rfl, fun c member => (each c member).2⟩

/-- Declarations whose only blanks are spaces are read with spaces for underscores. -/
theorem appliedRule?_applyRule {className : String} (plain : ' ' ∉ className.toList)
    {ds : List (String × String)}
    (properties : ∀ d ∈ ds, ':' ∉ d.1.toList ∧ IsUnspaced d.1)
    (values : ∀ d ∈ ds, HasOnlySpaces d.2) :
    appliedRule? (Component.applyRule className ds) =
      some (className, ds.map (fun d => (d.1, spaced d.2))) := by
  cases ds with
  | nil =>
    rw [appliedRule?, Component.applyRule, rule?_unlines plain]
    rfl
  | cons d ds =>
    have words : ∀ w ∈ (d :: ds).map Component.utilityText, IsUnparted w :=
      List.forall_mem_map.mpr fun d member =>
        isUnparted_utilityText (properties d member).2 (values d member)
    have back : ((d :: ds).map Component.utilityText).mapM utility? =
        some ((d :: ds).map (fun d => (d.1, spaced d.2))) :=
      mapM_map_eq_some fun d member => utility?_utilityText (properties d member).1
    have text : Component.applyRule className (d :: ds) = unlines (["." ++ className ++ " \x7b"]
        ++ ["  @apply " ++ " ".intercalate ((d :: ds).map Component.utilityText) ++ ";"]
        ++ ["\x7d"]) := rfl
    rw [appliedRule?, text, rule?_unlines plain, Option.bind_some]
    generalize (d :: ds).map Component.utilityText = utilities at words back
    have line : unlines ["  @apply " ++ " ".intercalate utilities ++ ";"] =
        "  @apply " ++ " ".intercalate utilities ++ ";\n" := by
      rw [← String.toList_inj]
      simp [unlines]
    have shown : unlines ["  @apply " ++ " ".intercalate utilities ++ ";"] ≠ "" := by
      intro empty
      have chars := congrArg String.toList empty
      simp [unlines] at chars
    rw [utilities?, if_neg shown, line, inside?_append, Option.bind_some,
      wordsIn_intercalate words, back]
    rfl

/-- Whatever is read from a rule, no value has underscores or blanks other than spaces. -/
theorem chars_of_appliedRule? {text className : String} {ds : List (String × String)}
    (read : appliedRule? text = some (className, ds)) {d : String × String} (member : d ∈ ds) :
    '_' ∉ d.2.toList ∧ HasOnlySpaces d.2 := by
  obtain ⟨rule, -, found⟩ := Option.bind_eq_some_iff.mp read
  obtain ⟨_, listed, same⟩ := Option.map_eq_some_iff.mp found
  cases same
  rw [utilities?] at listed
  split at listed
  · cases listed
    cases member
  · obtain ⟨applied, -, each⟩ := Option.bind_eq_some_iff.mp listed
    obtain ⟨word, inside, from'⟩ := exists_of_mem_mapM each member
    exact chars_of_utility? (isUnspaced_of_mem_wordsIn inside) from'

/-! ## Values of components -/

theorem IsValueText.intercalate {separator : String} {texts : List String}
    (between : IsValueText separator) (each : ∀ text ∈ texts, IsValueText text) :
    IsValueText (separator.intercalate texts) := by
  induction texts with
  | nil =>
    rw [String.intercalate_nil]
    decide
  | cons text texts ih =>
    obtain ⟨first, others⟩ := List.forall_mem_cons.mp each
    cases texts with
    | nil =>
      rw [String.intercalate_singleton]
      exact first
    | cons next texts =>
      rw [String.intercalate_cons_cons]
      exact (first.append between).append (ih others)

theorem IsValueText.chars {text : String} (value : IsValueText text) :
    '_' ∉ text.toList ∧ HasOnlySpaces text := by
  refine ⟨fun member => ?_, fun c member blank => ?_⟩
  · exact absurd (value '_' member) (by decide)
  · have known := value c member
    simp only [isStyleBlank, List.contains_iff_mem, List.mem_cons, List.not_mem_nil,
      or_false] at blank
    rcases blank with rfl | rfl | rfl | rfl | rfl
    · rfl
    all_goals exact absurd known (by decide)

theorem TextDecoration.isValueText_css (d : TextDecoration) : IsValueText d.css := by
  cases d <;> decide

theorem TextCase.isValueText_css (t : TextCase) : IsValueText t.css := by
  cases t <;> decide

theorem Effect.isValueText_boxShadow (e : Effect) : IsValueText e.boxShadow := by
  have inset : IsValueText (Shade.inset e.kind) := by
    unfold Shade.inset
    split <;> decide
  have color : IsValueText ((e.color.map Color.exactCss).getD Shade.standardColor) := by
    cases e.color with
    | none => decide
    | some c => exact c.isValueText_exactCss
  have space : IsValueText " " := by decide
  rw [boxShadow]
  exact ((((((inset.append (Css.isValueText_pixels _)).append space).append
    (Css.isValueText_pixels _)).append space).append (Css.isValueText_pixels _)).append
    space).append color

namespace Component

/-- The properties that rules of components declare. -/
def ruleProperties : List String :=
  ["background-color", "border-color"] ++ textProperties ++ ["box-shadow"]

/-- The font family of a component.  One without a text style, or with a text style that names
none, has the empty name. -/
def fontFamily (c : Component) : String := (c.styles.typography.map Typography.fontFamily).getD ""

section Values

variable {c : Component} {d : String × String}

theorem isValueText_of_mem_paintDeclaration {property : String} {paints : List Paint}
    (member : d ∈ paintDeclaration property paints) : d.1 = property ∧ IsValueText d.2 := by
  rw [paintDeclaration] at member
  split at member
  · rw [List.mem_singleton.mp member]
    exact ⟨rfl, Color.isValueText_exactCss _⟩
  · cases member

theorem isValueText_of_mem_shadowDeclaration {effects : List Effect}
    (member : d ∈ shadowDeclaration effects) : d.1 = "box-shadow" ∧ IsValueText d.2 := by
  rw [shadowDeclaration] at member
  split at member
  · cases member
  · rw [List.mem_singleton.mp member]
    exact ⟨rfl, .intercalate (by decide)
      (List.forall_mem_map.mpr fun e _ => e.isValueText_boxShadow)⟩

/-- The only value of a text style with characters of its own is the font family. -/
theorem isValueText_of_mem_textDeclarations (member : d ∈ c.textDeclarations) :
    IsValueText d.2 ∨ d.2 = c.fontFamily := by
  rw [textDeclarations] at member
  split at member
  · rename_i t style
    rcases List.mem_append.mp member with family | others
    · split at family
      · cases family
      · rw [List.mem_singleton.mp family]
        exact .inr (by rw [fontFamily, style]; rfl)
    · simp only [List.mem_cons, List.not_mem_nil, or_false] at others
      rcases others with rfl | rfl | rfl | rfl | rfl | rfl
      · exact .inl (Css.isValueText_pixels _)
      · exact .inl (Css.isNumeral_number _).isValueText
      · exact .inl (Css.isValueText_pixels _)
      · exact .inl t.lineHeight.isValueText_css
      · exact .inl t.textDecoration.isValueText_css
      · exact .inl t.textCase.isValueText_css
  · cases member

theorem declaration_cases (member : d ∈ c.declarations) :
    d.1 ∈ ruleProperties ∧ (IsValueText d.2 ∨ d.2 = c.fontFamily) := by
  rw [declarations_eq, List.mem_append, List.mem_append, List.mem_append] at member
  rcases member with ((fill | stroke) | text) | shadow
  · obtain ⟨property, value⟩ := isValueText_of_mem_paintDeclaration fill
    exact ⟨by rw [property]; decide, .inl value⟩
  · obtain ⟨property, value⟩ := isValueText_of_mem_paintDeclaration stroke
    exact ⟨by rw [property]; decide, .inl value⟩
  · refine ⟨List.mem_append_left _ (List.mem_append_right _ ?_),
      isValueText_of_mem_textDeclarations text⟩
    exact c.sublist_textProperties.subset (List.mem_map_of_mem text)
  · obtain ⟨property, value⟩ := isValueText_of_mem_shadowDeclaration shadow
    exact ⟨by rw [property]; decide, .inl value⟩

theorem fontFamily_mem_declarations (given : c.fontFamily ≠ "") :
    ("font-family", c.fontFamily) ∈ c.declarations := by
  have text : ("font-family", c.fontFamily) ∈ c.textDeclarations := by
    rw [textDeclarations]
    split
    · rename_i t style
      have family : c.fontFamily = t.fontFamily := by rw [fontFamily, style]; rfl
      have shown : t.fontFamily.isEmpty = false := by
        rw [← family]
        simpa using given
      rw [Typography.declarations, shown, family]
      exact List.mem_append_left _ List.mem_cons_self
    · rename_i style
      exact absurd (by rw [fontFamily, style]; rfl) given
  rw [declarations_eq]
  exact List.mem_append_left _ (List.mem_append_right _ text)

theorem isUnmarked_of_mem_ruleProperties {property : String} (known : property ∈ ruleProperties) :
    IsUnmarked property ∧ IsUnspaced property := by
  have each : ∀ name ∈ ruleProperties, IsUnmarked name ∧ IsUnspaced name := by decide
  exact each property known

end Values

end Component

/-! ## Rules in both formats -/

section Component

variable (c : Component)

theorem space_not_mem_kebab (name : String) : ' ' ∉ (kebab name).toList := fun member =>
  absurd (isNameChar_of_mem_kebab ' ' member) (by decide)

theorem plainRule?_componentText {format : StyleFormat} (plain : format ≠ .tailwind)
    (single : IsSingle c.fontFamily) :
    plainRule? (format.componentText c) = some (kebab c.name, c.declarations) := by
  have values : ∀ d ∈ c.declarations, IsSingle d.2 := fun d member => by
    rcases (Component.declaration_cases member).2 with value | family
    · exact value.isUnmarked.isSingle
    · rw [family]
      exact single
  have properties : ∀ d ∈ c.declarations, IsUnmarked d.1 := fun d member =>
    (Component.isUnmarked_of_mem_ruleProperties (Component.declaration_cases member).1).1
  have rule := plainRule?_plainRule (space_not_mem_kebab c.name) properties values
  cases format with
  | css => exact rule
  | scss => exact rule
  | tailwind => exact absurd rfl plain

theorem appliedRule?_componentText (spaces : HasOnlySpaces c.fontFamily) :
    appliedRule? (StyleFormat.tailwind.componentText c) =
      some (kebab c.name, c.declarations.map (fun d => (d.1, spaced d.2))) := by
  have colon : isStyleMark ':' = true := by decide
  refine appliedRule?_applyRule (space_not_mem_kebab c.name) (fun d member => ?_)
    fun d member => ?_
  · obtain ⟨unmarked, unspaced⟩ := Component.isUnmarked_of_mem_ruleProperties
      (Component.declaration_cases member).1
    exact ⟨unmarked.not_mem colon, unspaced⟩
  · rcases (Component.declaration_cases member).2 with value | family
    · exact value.chars.2
    · rw [family]
      exact spaces

/-- The rule of a component has its declarations in plain stylesheets, and utilities for them in
the other format.  The utilities are read as the declarations with spaces for underscores, so that
the two rules say the same just if the font family has no underscore and no blank but spaces. -/
theorem rules_agree_iff :
    ('\n' ∉ c.fontFamily.toList → ∀ format ≠ StyleFormat.tailwind,
      plainRule? (format.componentText c) = some (kebab c.name, c.declarations)) ∧
    (HasOnlySpaces c.fontFamily → appliedRule? (StyleFormat.tailwind.componentText c) =
      some (kebab c.name, c.declarations.map (fun d => (d.1, spaced d.2)))) ∧
    (appliedRule? (StyleFormat.tailwind.componentText c) = some (kebab c.name, c.declarations) ↔
      '_' ∉ c.fontFamily.toList ∧ HasOnlySpaces c.fontFamily) := by
  refine ⟨fun single format plain => plainRule?_componentText c plain single,
    appliedRule?_componentText c, fun read => ?_, fun ⟨absent, spaces⟩ => ?_⟩
  · by_cases none : c.fontFamily = ""
    · rw [none]
      exact ⟨by decide, fun x member => by cases member⟩
    · exact chars_of_appliedRule? read (Component.fontFamily_mem_declarations none)
  · have same : c.declarations.map (fun d => (d.1, spaced d.2)) = c.declarations.map id :=
      List.map_congr_left fun d member => by
        have value : '_' ∉ d.2.toList := by
          rcases (Component.declaration_cases member).2 with value | family
          · exact value.chars.1
          · rw [family]
            exact absent
        rw [spaced_eq_self value]
        rfl
    rw [appliedRule?_componentText c spaces, same, List.map_id]

end Component

/-- A text in a font whose name has an underscore. -/
def underscoredLabel : Component :=
  { Component.bare "Label" with
    styles := { Appearance.standard with
      typography := some { Typography.standard with fontFamily := "My_Font" } } }

theorem rules_underscoredLabel :
    (plainRule? (StyleFormat.css.componentText underscoredLabel)).map
        (fun rule => rule.2.lookup "font-family") = some (some "My_Font") ∧
      (appliedRule? (StyleFormat.tailwind.componentText underscoredLabel)).map
        (fun rule => rule.2.lookup "font-family") = some (some "My Font") := by
  have single : IsSingle underscoredLabel.fontFamily := by decide
  have spaces : HasOnlySpaces underscoredLabel.fontFamily := by decide
  obtain ⟨others, shape⟩ : ∃ others,
      underscoredLabel.declarations = ("font-family", "My_Font") :: others := ⟨_, rfl⟩
  have value : spaced "My_Font" = "My Font" := by
    rw [← String.toList_inj, spaced, String.toList_map]
    rfl
  rw [plainRule?_componentText _ (by decide) single, appliedRule?_componentText _ spaces, shape,
    List.map_cons, value]
  exact ⟨rfl, rfl⟩

end DesignTokens
