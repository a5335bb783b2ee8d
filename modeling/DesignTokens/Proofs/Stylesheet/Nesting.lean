import DesignTokens.Proofs.Stylesheet.Reading
import DesignTokens.Stylesheet.Scss

/-!
# Nested stylesheets

In SCSS the utility classes of a family stand inside one block.  Read as the
rules it stands for, this block has the classes of the family in their order,
and all blocks together have the rules of the sheet.

Key definitions:

* `Statement.rules` flattens a statement.
* `Sheet.scssStatements` are the statements of a sheet in SCSS.
* `IsNestingOf` compares nested statements with flat ones.
-/

namespace DesignTokens

open Text

/-! ## Sorting by kind -/

section Sorting

variable {κ α : Type} {kinds : List κ} {P : κ → α → Bool} {xs : List α}

/-- A list sorted by kind has what the list has, where everything in it is of one
kind. -/
theorem perm_flatMap_filter
    (apart : kinds.Pairwise (fun k m => ∀ x ∈ xs, P k x = true → P m x = false))
    (sorted : ∀ x ∈ xs, ∃ k ∈ kinds, P k x = true) :
    (kinds.flatMap (fun k => xs.filter (P k))).Perm xs := by
  induction kinds generalizing xs with
  | nil =>
    cases xs with
    | nil => exact .nil
    | cons x xs =>
      obtain ⟨_, absurd, _⟩ := sorted x List.mem_cons_self
      cases absurd
  | cons k kinds ih =>
    obtain ⟨first, others⟩ := List.pairwise_cons.mp apart
    let rest := xs.filter (fun x => !P k x)
    have mem_rest {x : α} : x ∈ rest ↔ x ∈ xs ∧ P k x = false := by simp [rest]
    have perm : (kinds.flatMap (fun m => rest.filter (P m))).Perm rest := by
      refine ih (others.imp fun both x member => both x (mem_rest.mp member).1) fun x member => ?_
      obtain ⟨inside, other⟩ := mem_rest.mp member
      obtain ⟨m, known, holds⟩ := sorted x inside
      rcases List.mem_cons.mp known with rfl | later
      · rw [holds] at other
        cases other
      · exact ⟨m, later, holds⟩
    -- What is of a later kind is not of the first one.
    have same : ∀ m ∈ kinds, rest.filter (P m) = xs.filter (P m) := by
      intro m later
      rw [List.filter_filter]
      refine List.filter_congr fun x member => ?_
      cases holds : P k x with
      | false => simp
      | true => simp [first m later x member holds]
    rw [List.flatMap_congr same] at perm
    rw [List.flatMap_cons]
    exact (perm.append_left _).trans (List.filter_append_perm (P k) xs)

/-- Sorting by kind keeps the order within each kind. -/
theorem filter_flatMap_filter [DecidableEq κ] (nodup : kinds.Nodup)
    (apart : ∀ k m, k ≠ m → ∀ x ∈ xs, P k x = true → P m x = false) (m : κ) :
    (kinds.flatMap (fun k => xs.filter (P k))).filter (P m)
      = if m ∈ kinds then xs.filter (P m) else [] := by
  induction kinds with
  | nil => rfl
  | cons k kinds ih =>
    obtain ⟨new, nodup⟩ := List.nodup_cons.mp nodup
    rw [List.flatMap_cons, List.filter_append, ih nodup]
    by_cases same : k = m
    · subst same
      have absent : ¬ k ∈ kinds := new
      simp [absent, List.filter_filter]
    · have nothing : (xs.filter (P k)).filter (P m) = [] := by
        rw [List.filter_eq_nil_iff]
        intro x member
        obtain ⟨inside, holds⟩ := List.mem_filter.mp member
        rw [apart k m same x inside holds]
        decide
      have other : ¬ m = k := fun back => same back.symm
      simp only [nothing, List.nil_append, List.mem_cons, other, false_or]

end Sorting

/-! ## Rules -/

/-- A rule: a selector and what it declares. -/
structure Rule where
  selector : String
  declarations : List (String × String)
deriving Repr, DecidableEq

/-- What a block selects that stands inside the block of a selector. -/
def selectorIn (around head : String) : String :=
  match behind? "&" head with
  | some rest => around ++ rest
  | none => if around.isEmpty then head else around ++ " " ++ head

/-- Whether a block is for the compiler only. -/
def isDirective (head : String) : Bool := head.toList.head? == some '@'

/-- The rule of a selector with some declarations.  None is written without them. -/
def ruleOf (selector : String) : List (String × String) → List Rule
  | [] => []
  | declarations => [⟨selector, declarations⟩]

mutual

/-- The rules of a statement inside the block of a selector: for a block the rule
of what it declares itself, then the rules of the blocks in it. -/
def Statement.rules (around : String) : Statement → List Rule
  | .declaration _ _ => []
  | .block head body =>
    if isDirective head then []
    else
      ruleOf (selectorIn around head) (body.filterMap Statement.declaration?)
        ++ Statement.rulesOf (selectorIn around head) body

/-- The rules of statements inside the block of a selector. -/
def Statement.rulesOf (around : String) : List Statement → List Rule
  | [] => []
  | statement :: statements =>
    statement.rules around ++ Statement.rulesOf around statements

end

theorem rulesOf_eq_flatMap (around : String) (statements : List Statement) :
    Statement.rulesOf around statements = statements.flatMap (Statement.rules around) := by
  induction statements with
  | nil => rfl
  | cons statement statements ih => rw [Statement.rulesOf, ih, List.flatMap_cons]

theorem filterMap_declaration? (declarations : List (String × String)) :
    (declarationStatements declarations).filterMap Statement.declaration? = declarations := by
  rw [declarationStatements, List.filterMap_map]
  exact List.filterMap_some

theorem rulesOf_declarationStatements (around : String) (declarations : List (String × String)) :
    Statement.rulesOf around (declarationStatements declarations) = [] := by
  rw [rulesOf_eq_flatMap, declarationStatements, List.flatMap_map]
  exact List.flatMap_eq_nil_iff.mpr fun _ _ => rfl

/-- A block that only declares is one rule. -/
theorem rules_block {around head : String} (plain : isDirective head = false)
    {declarations : List (String × String)} (shown : declarations ≠ []) :
    (Statement.block head (declarationStatements declarations)).rules around
      = [⟨selectorIn around head, declarations⟩] := by
  rw [Statement.rules, plain, filterMap_declaration?, rulesOf_declarationStatements]
  cases declarations with
  | nil => exact absurd rfl shown
  | cons d declarations => rfl

/-- A block of blocks has their rules. -/
theorem rules_block_of_blocks {α : Type} {around head : String} (plain : isDirective head = false)
    (xs : List α) (heads : α → String) (bodies : α → List Statement) :
    (Statement.block head (xs.map (fun x => .block (heads x) (bodies x)))).rules around
      = xs.flatMap
        (fun x => (Statement.block (heads x) (bodies x)).rules (selectorIn around head)) := by
  have nothing : (xs.map (fun x => Statement.block (heads x) (bodies x))).filterMap
      Statement.declaration? = [] := by
    rw [List.filterMap_map, List.filterMap_eq_nil_iff]
    exact fun _ _ => rfl
  rw [Statement.rules, plain, nothing, rulesOf_eq_flatMap, List.flatMap_map]
  rfl

/-! ## Utility classes -/

/-- A value with a custom property in place of a variable. -/
def plainValue (value : String) : String :=
  match behind? "$" value with
  | some name => "var(--" ++ name ++ ")"
  | none => value

/-- A rule with custom properties in place of variables. -/
def Rule.plain (r : Rule) : Rule :=
  { r with declarations := r.declarations.map (fun d => (d.1, plainValue d.2)) }

theorem StyleValue.plainValue_scss {value : StyleValue} (legible : value.IsLegible) :
    plainValue value.scss = value.css := by
  cases value with
  | property name => rw [scss, plainValue, behind?_append, css]
  | literal text =>
    -- A number does not start like a variable.
    have other : behind? "$" text = none := by
      rw [Option.eq_none_iff_forall_ne_some]
      intro rest found
      rw [behind?_eq_some_iff] at found
      have start : Decimal.isNumeralChar '$' = true := legible '$' (by simp [found])
      exact absurd start (by decide)
    rw [scss, plainValue, other, css]

theorem StyleValue.isUnmarked_scss {value : StyleValue} (legible : value.IsLegible) :
    IsUnmarked value.scss := by
  cases value with
  | property name => exact IsUnmarked.append (by decide) legible
  | literal text => exact Decimal.IsNumeral.isUnmarked legible

namespace Utility

variable {u : Utility}

/-- The rule of a utility class. -/
def rule (u : Utility) : Rule := ⟨u.selector, u.cssDeclarations⟩

/-- The declarations of a utility class in SCSS as texts. -/
def scssDeclarations (u : Utility) : List (String × String) :=
  u.declarations.map (fun d => (d.property, d.value.scss))

/-- The block of a utility class inside the block of its family. -/
def nested (u : Utility) : Statement :=
  .block ("&-" ++ u.name) (declarationStatements u.scssDeclarations)

theorem readAs_scssLines (legible : u.IsLegible) : ReadAs u.scssLines [u.nested] := by
  have body : ∀ d ∈ u.scssDeclarations, IsLabel d.1 ∧ IsUnmarked d.2 :=
    List.forall_mem_map.mpr fun d member =>
      ⟨(legible.declarations d member).1,
        StyleValue.isUnmarked_scss (legible.declarations d member).2⟩
  have inner := readAs_declarations (by decide : StyleLine.IsIndent "    ") body
  have head : IsLabel ("&-" ++ u.name) :=
    (isLabel_of_head (by decide) (by decide) : IsLabel "&-").append legible.name
  have rule := inner.block (by decide : StyleLine.IsIndent "  ") head
    (by decide : StyleLine.ofChars? "  \x7d".toList = some .closing) (by decide)
  rw [scssDeclarations, List.map_map, ← String.append_assoc] at rule
  exact rule

theorem rules_statement (legible : u.IsLegible) : u.statement.rules "" = [u.rule] := by
  have plain : isDirective u.selector = false := by
    cases h : u.family <;> simp [isDirective, selector]
  have outer : selectorIn "" u.selector = u.selector := by
    have other : behind? "&" u.selector = none := by
      rw [Option.eq_none_iff_forall_ne_some]
      intro rest found
      have heads := congrArg (fun text => text.toList.head?) (behind?_eq_some_iff.mp found)
      simp [selector] at heads
    rw [selectorIn, other]
    rfl
  have shown : u.cssDeclarations ≠ [] := fun none => legible.shown (List.map_eq_nil_iff.mp none)
  rw [statement, rules_block plain shown, outer]
  rfl

theorem rules_nested (legible : u.IsLegible) {family : UtilityFamily} (kind : u.family = family) :
    (u.nested.rules ("." ++ family.name)).map Rule.plain = [u.rule] := by
  subst kind
  have plain : isDirective ("&-" ++ u.name) = false := by simp [isDirective]
  have inner : selectorIn ("." ++ u.family.name) ("&-" ++ u.name) = u.selector := by
    have found : behind? "&" ("&-" ++ u.name) = some ("-" ++ u.name) := by
      rw [behind?_eq_some_iff, ← String.append_assoc]
      rfl
    rw [selectorIn, found, selector]
    exact String.append_assoc.symm
  have shown : u.scssDeclarations ≠ [] := fun none => legible.shown (List.map_eq_nil_iff.mp none)
  have values : u.scssDeclarations.map (fun d => (d.1, plainValue d.2)) = u.cssDeclarations := by
    rw [scssDeclarations, List.map_map, cssDeclarations]
    refine List.map_congr_left fun d member => ?_
    show (d.property, plainValue d.value.scss) = _
    rw [StyleValue.plainValue_scss (legible.declarations d member).2]
  rw [nested, rules_block plain shown, inner, List.map_singleton, Rule.plain, values]
  rfl

end Utility

/-! ## Families -/

namespace Sheet

theorem families_concat (us : List Utility) (u : Utility) :
    families (us ++ [u])
      = (families us).alter u.family (fun earlier => earlier.getD [] ++ [u]) := by
  rw [families, List.foldl_append]
  rfl

theorem keys_families (us : List Utility) :
    (families us).keys = (us.map Utility.family).eraseDups := by
  induction us using List.reverseRecOn with
  | nil => rfl
  | append_singleton us u ih =>
    rw [families_concat, OrderedMap.keys_alter, ih, List.map_append, List.map_singleton,
      eraseDups_concat]
    simp only [List.mem_eraseDups]

theorem get?_families (us : List Utility) (family : UtilityFamily) :
    ((families us).get? family).getD [] = us.filter (fun u => u.family = family) := by
  induction us using List.reverseRecOn with
  | nil => rfl
  | append_singleton us u ih =>
    rw [families_concat, OrderedMap.get?_alter, List.filter_append, ← ih]
    by_cases here : family = u.family
    · subst here
      simp
    · have other : ¬ u.family = family := fun same => here same.symm
      simp [here, other]

/-- Families come up in the order of their first classes, each with its classes in
their order. -/
theorem entries_families (us : List Utility) :
    (families us).entries = (us.map Utility.family).eraseDups.map
      (fun family => (family, us.filter (fun u => u.family = family))) := by
  rw [OrderedMap.entries_eq_map _ [], keys_families]
  simp only [get?_families]

/-! ## Sheets -/

/-- The variables of a sheet as declarations. -/
def scssVariables (s : Sheet) : List (String × String) :=
  s.properties.entries.map (fun v => ("$" ++ v.1, v.2))

/-- The mixin that sets a direction. -/
def layoutMixin : Statement :=
  .block "@mixin flex-layout($direction: row)"
    [.declaration "display" "flex", .declaration "flex-direction" "$direction"]

/-- The mixin that sets a font. -/
def fontMixin : Statement :=
  .block "@mixin typography($size, $weight, $height)"
    [.declaration "font-size" "$size", .declaration "font-weight" "$weight",
      .declaration "line-height" "$height"]

/-- The block of a family. -/
def familyStatement (family : UtilityFamily) (us : List Utility) : Statement :=
  .block ("." ++ family.name) (us.map Utility.nested)

/-- The blocks of all families. -/
def familyStatements (s : Sheet) : List Statement :=
  (families s.utilities.values).entries.map (fun f => familyStatement f.1 f.2)

/-- The statements of a sheet in SCSS. -/
def scssStatements (s : Sheet) : List Statement :=
  declarationStatements s.scssVariables ++ [layoutMixin, fontMixin] ++ s.familyStatements

theorem readAs_mixinLines : ReadAs mixinLines [layoutMixin, fontMixin] where
  single := by decide
  run r := by
    -- Each of the two lines that close a block adds the block behind what is there.
    show some (Reading.mk r.outer (r.body ++ [layoutMixin] ++ [fontMixin])) = _
    rw [List.append_assoc]
    rfl

theorem readAs_familyLines {family : UtilityFamily} {us : List Utility}
    (legible : ∀ u ∈ us, u.IsLegible) :
    ReadAs (familyLines family us) [familyStatement family us] := by
  have head : IsLabel ("." ++ family.name) := by
    cases family <;> exact isLabel_of_head (by decide) (by decide)
  have inner : ReadAs (us.flatMap Utility.scssLines) (us.flatMap (fun u => [u.nested])) :=
    .flatMap fun u member => Utility.readAs_scssLines (legible u member)
  have block := inner.block (by decide : StyleLine.IsIndent "") head
    (by decide : StyleLine.ofChars? "\x7d".toList = some .closing) (by decide)
  rw [String.empty_append, ← List.map_eq_flatMap] at block
  exact block

theorem mem_of_mem_families {us : List Utility} {f : UtilityFamily × List Utility}
    (member : f ∈ (families us).entries) : ∀ u ∈ f.2, u ∈ us ∧ u.family = f.1 := by
  rw [entries_families] at member
  obtain ⟨family, _, rfl⟩ := List.mem_map.mp member
  intro u inside
  simpa using List.mem_filter.mp inside

/-- The text of a sheet in SCSS is read as its statements. -/
theorem ofText?_scss {s : Sheet} (legible : s.IsLegible) :
    Statement.ofText? s.scss = some s.scssStatements := by
  have nothing : ∀ l ∈ ["", "// Variables", "// Mixins", "// Utility Classes"],
      StyleLine.ofChars? l.toList = some .nothing ∧ '\n' ∉ l.toList := by decide
  have skip {l : String} (member : l ∈ ["", "// Variables", "// Mixins", "// Utility Classes"]) :
      ReadAs [l] [] := .nothing (nothing l member).1 (nothing l member).2
  have body : ∀ d ∈ s.scssVariables, IsLabel d.1 ∧ IsUnmarked d.2 := by
    have dollar : IsLabel "$" := isLabel_of_head (by decide) (by decide)
    exact List.forall_mem_map.mpr fun v member =>
      ⟨dollar.append (legible.properties v member).1, (legible.properties v member).2⟩
  have declared := readAs_declarations (by decide : StyleLine.IsIndent "") body
  have families : ReadAs (List.intercalate [""]
      ((families s.utilities.values).entries.map (fun f => familyLines f.1 f.2)))
      s.familyStatements := by
    refine .intercalate (skip (by decide)) fun f member => ?_
    refine readAs_familyLines fun u inside => ?_
    exact isLegible_of_mem_values legible (mem_of_mem_families member u inside).1
  have variableLines := (skip (by decide : "// Variables" ∈ _)).append declared
  have mixinLines := (skip (by decide : "" ∈ _)).append
    ((skip (by decide : "// Mixins" ∈ _)).append readAs_mixinLines)
  have classLines := (skip (by decide : "" ∈ _)).append
    ((skip (by decide : "// Utility Classes" ∈ _)).append families)
  have lines : s.scssLines = ["// Variables"]
      ++ s.scssVariables.map (fun d => "" ++ d.1 ++ ": " ++ d.2 ++ ";")
      ++ ([""] ++ (["// Mixins"] ++ DesignTokens.mixinLines))
      ++ ([""] ++ (["// Utility Classes"] ++ List.intercalate [""]
        ((Sheet.families s.utilities.values).entries.map (fun f => familyLines f.1 f.2)))) := by
    simp [scssLines, scssVariables]
  have statements : s.scssStatements = [] ++ declarationStatements s.scssVariables
      ++ ([] ++ ([] ++ [layoutMixin, fontMixin])) ++ ([] ++ ([] ++ s.familyStatements)) := by
    simp [scssStatements]
  rw [scss, lines, statements]
  exact ((variableLines.append mixinLines).append classLines).ofText?_unlines

end Sheet

/-! ## Nested and flat rules -/

/-- The family of a rule. -/
def Rule.family? (r : Rule) : Option UtilityFamily :=
  (UtilityFamily.ofSelector? r.selector).map Prod.fst

theorem Utility.family?_rule (u : Utility) : u.rule.family? = some u.family := by
  have selector : u.rule.selector = u.family.start ++ u.name := rfl
  rw [Rule.family?, selector, UtilityFamily.ofSelector?_append]
  rfl

/-- The head of a block that is not for the compiler only. -/
def Statement.ruleHead? : Statement → Option String
  | .declaration _ _ => none
  | .block head _ => if isDirective head then none else some head

/-- The rules of nested statements, with custom properties in place of variables. -/
def nestedRules (statements : List Statement) : List Rule :=
  (Statement.rulesOf "" statements).map Rule.plain

/-- Whether nested statements have the rules of flat ones.

Each rule is there once, has a family, and stands in its place within the family.
Each family has one block, in the order in which the families come up. -/
structure IsNestingOf (nested flat : List Statement) : Prop where
  rules : (nestedRules nested).Perm (Statement.rulesOf "" flat)
  single : ((Statement.rulesOf "" flat).map Rule.selector).Nodup
  sorted : ∀ r ∈ Statement.rulesOf "" flat, r.family?.isSome
  order (family : UtilityFamily) :
    (nestedRules nested).filter (fun r => r.family? = some family)
      = (Statement.rulesOf "" flat).filter (fun r => r.family? = some family)
  blocks : nested.filterMap Statement.ruleHead?
    = ((Statement.rulesOf "" flat).filterMap Rule.family?).eraseDups.map
      (fun family => "." ++ family.name)

namespace Sheet

variable {s : Sheet}

/-- The rules of a sheet in CSS. -/
theorem rulesOf_statements (legible : s.IsLegible) :
    Statement.rulesOf "" (s.utilities.values.map Utility.statement)
      = s.utilities.values.map Utility.rule := by
  have each : ∀ u ∈ s.utilities.values, u.statement.rules "" = [u.rule] := fun u member =>
    Utility.rules_statement (isLegible_of_mem_values legible member)
  rw [rulesOf_eq_flatMap, List.flatMap_map, List.flatMap_congr each, ← List.map_eq_flatMap]

theorem rules_familyStatement {family : UtilityFamily} {us : List Utility}
    (legible : ∀ u ∈ us, u.IsLegible ∧ u.family = family) :
    ((familyStatement family us).rules "").map Rule.plain = us.map Utility.rule := by
  have plain : isDirective ("." ++ family.name) = false := by cases family <;> decide
  have outer : selectorIn "" ("." ++ family.name) = "." ++ family.name := by
    cases family <;> decide
  have each : ∀ u ∈ us, (u.nested.rules ("." ++ family.name)).map Rule.plain = [u.rule] :=
    fun u member => Utility.rules_nested (legible u member).1 (legible u member).2
  have blocks : (familyStatement family us).rules ""
      = us.flatMap (fun u => u.nested.rules (selectorIn "" ("." ++ family.name))) :=
    rules_block_of_blocks plain us _ _
  rw [blocks, outer, List.map_flatMap, List.flatMap_congr each, ← List.map_eq_flatMap]

/-- The rules of a sheet in SCSS: those in CSS sorted by family. -/
theorem nestedRules_scssStatements (legible : s.IsLegible) :
    nestedRules s.scssStatements = ((s.utilities.values.map Utility.family).eraseDups.flatMap
      (fun family => s.utilities.values.filter (fun u => u.family = family))).map Utility.rule := by
  have families : (Statement.rulesOf "" s.familyStatements).map Rule.plain
      = (families s.utilities.values).entries.flatMap (fun f => f.2.map Utility.rule) := by
    rw [rulesOf_eq_flatMap, familyStatements, List.flatMap_map, List.map_flatMap]
    refine List.flatMap_congr fun f member => rules_familyStatement fun u inside => ?_
    obtain ⟨known, kind⟩ := mem_of_mem_families member u inside
    exact ⟨isLegible_of_mem_values legible known, kind⟩
  have others : Statement.rulesOf ""
      (declarationStatements s.scssVariables ++ [layoutMixin, fontMixin]) = [] := by
    rw [rulesOf_eq_flatMap, List.flatMap_append, ← rulesOf_eq_flatMap,
      rulesOf_declarationStatements]
    decide
  rw [nestedRules, scssStatements, rulesOf_eq_flatMap, List.flatMap_append, ← rulesOf_eq_flatMap,
    ← rulesOf_eq_flatMap, others, List.nil_append, families, entries_families, List.flatMap_map,
    List.map_flatMap]

theorem filterMap_ruleHead?_scssStatements (s : Sheet) :
    s.scssStatements.filterMap Statement.ruleHead?
      = (s.utilities.values.map Utility.family).eraseDups.map
        (fun family => "." ++ family.name) := by
  have head (family : UtilityFamily) (us : List Utility) :
      (familyStatement family us).ruleHead? = some ("." ++ family.name) := by
    cases family <;> rfl
  have declared : (declarationStatements s.scssVariables).filterMap Statement.ruleHead? = [] := by
    rw [declarationStatements, List.filterMap_map, List.filterMap_eq_nil_iff]
    exact fun _ _ => rfl
  have mixins : [layoutMixin, fontMixin].filterMap Statement.ruleHead? = [] := by decide
  have families : s.familyStatements.filterMap Statement.ruleHead?
      = (families s.utilities.values).keys.map (fun family => "." ++ family.name) := by
    rw [familyStatements, List.filterMap_map, OrderedMap.keys, List.map_map,
      ← List.filterMap_eq_map]
    exact List.filterMap_congr fun f _ => head f.1 f.2
  rw [scssStatements, List.filterMap_append, List.filterMap_append, declared, mixins, families,
    keys_families]
  rfl

/-- Outside of its blocks SCSS has the variables only. -/
theorem filterMap_declaration?_scssStatements (s : Sheet) :
    s.scssStatements.filterMap Statement.declaration? = s.scssVariables := by
  have mixins : [layoutMixin, fontMixin].filterMap Statement.declaration? = [] := by decide
  have families : s.familyStatements.filterMap Statement.declaration? = [] := by
    rw [familyStatements, List.filterMap_map, List.filterMap_eq_nil_iff]
    exact fun _ _ => rfl
  rw [scssStatements, List.filterMap_append, List.filterMap_append, filterMap_declaration?, mixins,
    families, List.append_nil, List.append_nil]

/-- The text of a sheet in SCSS nests the rules of its text in CSS. -/
theorem isNestingOf_statements (legible : s.IsLegible) :
    IsNestingOf s.scssStatements (s.utilities.values.map Utility.statement) := by
  let us := s.utilities.values
  let kinds := (us.map Utility.family).eraseDups
  let P (family : UtilityFamily) (u : Utility) : Bool := decide (u.family = family)
  have apart : ∀ f g, f ≠ g → ∀ u ∈ us, P f u = true → P g u = false := by
    intro f g differ u _ kind
    have kind : u.family = f := of_decide_eq_true kind
    exact decide_eq_false fun other => differ (kind.symm.trans other)
  have flat : Statement.rulesOf "" (us.map Utility.statement) = us.map Utility.rule :=
    rulesOf_statements legible
  have nested : nestedRules s.scssStatements
      = (kinds.flatMap (fun f => us.filter (P f))).map Utility.rule :=
    nestedRules_scssStatements legible
  have nodup : kinds.Nodup := by
    have keys := (families us).nodup
    rwa [← OrderedMap.keys, keys_families] at keys
  have known {u : Utility} (member : u ∈ us) : u.family ∈ kinds :=
    List.mem_eraseDups.mpr (List.mem_map_of_mem member)
  constructor
  case rules =>
    rw [flat, nested]
    refine List.Perm.map _ (perm_flatMap_filter ?_ fun u member => ?_)
    · exact nodup.imp fun differ => apart _ _ differ
    · exact ⟨u.family, known member, decide_eq_true rfl⟩
  case single =>
    have selectors : (us.map Utility.rule).map Rule.selector = s.utilities.keys := by
      rw [List.map_map]
      show (s.utilities.entries.map Prod.snd).map (fun u => u.selector) = s.utilities.keys
      rw [List.map_map]
      exact List.map_congr_left fun e member => (legible.utilities e member).1.symm
    rw [flat, selectors]
    exact s.utilities.nodup
  case sorted =>
    rw [flat]
    refine List.forall_mem_map.mpr fun u _ => ?_
    rw [u.family?_rule]
    rfl
  case order =>
    intro family
    have kind (v : List Utility) : (v.map Utility.rule).filter (fun r => r.family? = some family)
        = (v.filter (P family)).map Utility.rule := by
      rw [List.filter_map]
      refine congrArg _ (List.filter_congr fun u _ => ?_)
      simp [Utility.family?_rule, P]
    rw [flat, nested, kind, kind, filter_flatMap_filter nodup apart family]
    split
    · rfl
    · rename_i absent
      have none : us.filter (P family) = [] := by
        rw [List.filter_eq_nil_iff]
        intro u member here
        exact absent (of_decide_eq_true here ▸ known member)
      rw [none]
  case blocks =>
    have families : (us.map Utility.rule).filterMap Rule.family? = us.map Utility.family := by
      rw [List.filterMap_map, ← List.filterMap_eq_map]
      exact List.filterMap_congr fun u _ => u.family?_rule
    rw [flat, families]
    exact filterMap_ruleHead?_scssStatements s

end Sheet

end DesignTokens
