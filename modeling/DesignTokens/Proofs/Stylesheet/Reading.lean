import DesignTokens.Proofs.Stylesheet.Utilities

/-!
# Sheets read from their text

The text of a sheet is read statement by statement, and from the statements the
sheet comes back with everything it has in its order.  So two lists of tokens
have one text just if they have one sheet, and the marks of a text are where its
sheet puts them, whatever the tokens are called.

Key definitions: `Sheet.statements`, `Sheet.ofCss?`, `Sheet.marks`.
-/

namespace DesignTokens

open Text

theorem mapM_map_eq_some {α β γ : Type} {xs : List α} {f : α → β} {g : β → Option γ} {h : α → γ}
    (each : ∀ x ∈ xs, g (f x) = some (h x)) : (xs.map f).mapM g = some (xs.map h) := by
  induction xs with
  | nil => rfl
  | cons x xs ih =>
    rw [List.forall_mem_cons] at each
    rw [List.map_cons, List.mapM_cons, each.1, ih each.2]
    rfl

/-! ## The statements of a sheet -/

/-- The statements of a list of declarations. -/
def declarationStatements (declarations : List (String × String)) : List Statement :=
  declarations.map (fun d => .declaration d.1 d.2)

theorem readAs_declarations {indent : String} {declarations : List (String × String)}
    (blank : StyleLine.IsIndent indent)
    (legible : ∀ d ∈ declarations, IsLabel d.1 ∧ IsUnmarked d.2) :
    ReadAs (declarations.map (fun d => indent ++ d.1 ++ ": " ++ d.2 ++ ";"))
      (declarationStatements declarations) :=
  .map fun d member => .declaration blank (legible d member).1 (legible d member).2

theorem StyleValue.isUnmarked_css {value : StyleValue} (legible : value.IsLegible) :
    IsUnmarked value.css := by
  cases value with
  | property name =>
    have start : IsUnmarked "var(--" := by decide
    exact (start.append legible).append (by decide)
  | literal text => exact Decimal.IsNumeral.isUnmarked legible

namespace Utility

/-- The declarations of a utility class as texts. -/
def cssDeclarations (u : Utility) : List (String × String) :=
  u.declarations.map (fun d => (d.property, d.value.css))

/-- The rule of a utility class. -/
def statement (u : Utility) : Statement :=
  .block u.selector (declarationStatements u.cssDeclarations)

theorem isLabel_selector {u : Utility} (legible : u.IsLegible) : IsLabel u.selector := by
  have family : IsLabel ("." ++ u.family.name) := by
    cases u.family <;> exact isLabel_of_head (by decide) (by decide)
  exact (family.append (by decide : IsUnmarked "-")).append legible.name

theorem legible_cssDeclarations {u : Utility} (legible : u.IsLegible) :
    ∀ d ∈ u.cssDeclarations, IsLabel d.1 ∧ IsUnmarked d.2 :=
  List.forall_mem_map.mpr fun d member =>
    ⟨(legible.declarations d member).1, StyleValue.isUnmarked_css (legible.declarations d member).2⟩

theorem readAs_cssLines {u : Utility} (legible : u.IsLegible) :
    ReadAs u.cssLines [u.statement] := by
  have indent : StyleLine.IsIndent "" := by decide
  have closing : StyleLine.ofChars? "\x7d".toList = some .closing := by decide
  have inner := readAs_declarations (by decide : StyleLine.IsIndent "  ")
    (legible_cssDeclarations legible)
  have rule := inner.block indent (isLabel_selector legible) closing (by decide)
  rw [String.empty_append] at rule
  exact rule

end Utility

namespace Sheet

variable {s : Sheet}

/-- The custom properties of a sheet as declarations. -/
def cssProperties (s : Sheet) : List (String × String) :=
  s.properties.entries.map (fun v => ("--" ++ v.1, v.2))

/-- The statements of a sheet in CSS. -/
def statements (s : Sheet) : List Statement :=
  .block ":root" (declarationStatements s.cssProperties) :: s.utilities.values.map Utility.statement

theorem isLegible_of_mem_values (legible : s.IsLegible) {u : Utility}
    (member : u ∈ s.utilities.values) : u.IsLegible := by
  obtain ⟨e, inside, rfl⟩ := List.mem_map.mp member
  exact (legible.utilities e inside).2

theorem legible_cssProperties (legible : s.IsLegible) :
    ∀ d ∈ s.cssProperties, IsLabel d.1 ∧ IsUnmarked d.2 := by
  have hyphens : IsLabel "--" := isLabel_of_head (by decide) (by decide)
  exact List.forall_mem_map.mpr fun v member =>
    ⟨hyphens.append (legible.properties v member).1, (legible.properties v member).2⟩

/-- The text of a sheet is read as its statements. -/
theorem ofText?_css (legible : s.IsLegible) : Statement.ofText? s.css = some s.statements := by
  have indent : StyleLine.IsIndent "  " := by decide
  have opening : StyleLine.ofChars? (":root" ++ " \x7b").toList = some (.opening ":root") := by
    decide
  have closing : StyleLine.ofChars? "\x7d".toList = some .closing := by decide
  have root := ReadAs.between opening closing ⟨by decide, by decide⟩
    (readAs_declarations indent (legible_cssProperties legible))
  have empty : ReadAs [""] [] := .nothing (by decide) (by decide)
  have rules : ReadAs (s.utilities.values.flatMap (fun u => "" :: u.cssLines))
      (s.utilities.values.flatMap (fun u => [u.statement])) := by
    refine .flatMap fun u member => ?_
    exact empty.append (Utility.readAs_cssLines (isLegible_of_mem_values legible member))
  rw [← List.map_eq_flatMap] at rules
  exact (root.append rules).ofText?_unlines

end Sheet

/-! ## Back from statements -/

/-- The name and the value of a declaration. -/
def Statement.declaration? : Statement → Option (String × String)
  | .declaration name value => some (name, value)
  | .block _ _ => none

theorem mapM_declaration? (declarations : List (String × String)) :
    (declarationStatements declarations).mapM Statement.declaration? = some declarations := by
  have back : ∀ d ∈ declarations,
      Statement.declaration? (.declaration d.1 d.2) = some (id d) := fun _ _ => rfl
  rw [declarationStatements, mapM_map_eq_some back, List.map_id]

/-- The value of a declaration from its text: a text that refers to a custom
property stands for the property. -/
def StyleValue.ofCss (text : String) : StyleValue :=
  match (behind? "var(--" text).map (fun rest => rest.toList.reverse) with
  | some (')' :: name) => .property (String.ofList name.reverse)
  | _ => .literal text

theorem StyleValue.ofCss_css {value : StyleValue} (legible : value.IsLegible) :
    ofCss value.css = value := by
  cases value with
  | property name =>
    have rest : behind? "var(--" ("var(--" ++ name ++ ")") = some (name ++ ")") := by
      rw [String.append_assoc, behind?_append]
    rw [css, ofCss, rest]
    simp
  | literal text =>
    -- A number does not start with a letter of `var`.
    have other : behind? "var(--" text = none := by
      rw [Option.eq_none_iff_forall_ne_some]
      intro rest found
      rw [behind?_eq_some_iff] at found
      have start : Decimal.isNumeralChar 'v' = true := legible 'v' (by simp [found])
      exact absurd start (by decide)
    rw [css, ofCss, other]
    rfl

namespace UtilityFamily

/-- The families of utility classes. -/
def all : List UtilityFamily := [.text, .background, .font]

/-- What the selectors of a family start with. -/
def start (family : UtilityFamily) : String := "." ++ family.name ++ "-"

/-- A selector tells its family and the name behind it. -/
theorem start_append_inj {family other : UtilityFamily} {name rest : String}
    (same : family.start ++ name = other.start ++ rest) : family = other ∧ name = rest := by
  have kinds : family = other := by
    have letters := congrArg (fun text => (text.toList.drop 1).head?) same
    cases family <;> cases other <;> simp [start, UtilityFamily.name] at letters ⊢
  subst kinds
  exact ⟨rfl, (String.append_right_inj _).mp same⟩

/-- The family of a selector, and the name behind it. -/
def ofSelector? (selector : String) : Option (UtilityFamily × String) :=
  all.findSome? (fun family => (behind? family.start selector).map (fun name => (family, name)))

theorem ofSelector?_append (family : UtilityFamily) (name : String) :
    ofSelector? (family.start ++ name) = some (family, name) := by
  have found : ∀ pair, ofSelector? (family.start ++ name) = some pair → pair = (family, name) := by
    intro pair found
    obtain ⟨other, _, here⟩ := List.exists_of_findSome?_eq_some found
    obtain ⟨rest, behind, rfl⟩ := Option.map_eq_some_iff.mp here
    obtain ⟨rfl, rfl⟩ := start_append_inj (behind?_eq_some_iff.mp behind)
    rfl
  have some : (ofSelector? (family.start ++ name)).isSome := by
    rw [ofSelector?, List.findSome?_isSome_iff]
    refine ⟨family, by cases family <;> decide, ?_⟩
    rw [behind?_append]
    rfl
  obtain ⟨pair, here⟩ := Option.isSome_iff_exists.mp some
  rw [here, found pair here]

end UtilityFamily

/-- The utility class of a rule. -/
def Utility.ofStatement? : Statement → Option Utility
  | .block head body => do
    let (family, name) ← UtilityFamily.ofSelector? head
    let declarations ← body.mapM Statement.declaration?
    return ⟨family, name, declarations.map (fun d => ⟨d.1, .ofCss d.2⟩)⟩
  | .declaration _ _ => none

theorem Utility.ofStatement?_statement {u : Utility} (legible : u.IsLegible) :
    ofStatement? u.statement = some u := by
  have selector : u.selector = u.family.start ++ u.name := rfl
  have declarations : u.cssDeclarations.map (fun d => (⟨d.1, .ofCss d.2⟩ : Declaration))
      = u.declarations := by
    rw [cssDeclarations, List.map_map]
    refine (List.map_congr_left fun d member => ?_).trans (List.map_id _)
    show Declaration.mk d.property (.ofCss d.value.css) = d
    rw [StyleValue.ofCss_css (legible.declarations d member).2]
  rw [statement, ofStatement?, selector, UtilityFamily.ofSelector?_append, mapM_declaration?]
  show some _ = _
  rw [declarations]

namespace Sheet

variable {s : Sheet}

/-- The sheet that statements stand for: first a block with all custom
properties, then a rule for each utility class. -/
def ofStatements? : List Statement → Option Sheet
  | .block head body :: rules =>
    if head = ":root" then do
      let declarations ← body.mapM Statement.declaration?
      let properties ← declarations.mapM
        (fun d => (behind? "--" d.1).map (fun name => (name, d.2)))
      let utilities ← rules.mapM Utility.ofStatement?
      return ⟨.ofList properties, .ofList (utilities.map (fun u => (u.selector, u)))⟩
    else none
  | _ => none

/-- Reads a sheet from CSS. -/
def ofCss? (text : String) : Option Sheet := (Statement.ofText? text).bind ofStatements?

theorem ofStatements?_statements (legible : s.IsLegible) : ofStatements? s.statements = some s := by
  have properties : s.cssProperties.mapM
      (fun d => (behind? "--" d.1).map (fun name => (name, d.2))) = some s.properties.entries := by
    have back : ∀ v ∈ s.properties.entries,
        (behind? "--" ("--" ++ v.1)).map (fun name => (name, v.2)) = some (id v) := by
      intro v _
      rw [behind?_append]
      rfl
    exact (mapM_map_eq_some back).trans (by rw [List.map_id])
  have utilities : (s.utilities.values.map Utility.statement).mapM Utility.ofStatement?
      = some s.utilities.values := by
    have back : ∀ u ∈ s.utilities.values, Utility.ofStatement? u.statement = some (id u) :=
      fun u member => Utility.ofStatement?_statement (isLegible_of_mem_values legible member)
    rw [mapM_map_eq_some back, List.map_id]
  have keys : s.utilities.values.map (fun u => (u.selector, u)) = s.utilities.entries := by
    rw [OrderedMap.values, List.map_map]
    refine (List.map_congr_left fun e member => ?_).trans (List.map_id _)
    show (e.2.selector, e.2) = e
    rw [← (legible.utilities e member).1]
  rw [statements, ofStatements?, if_pos rfl, mapM_declaration?, utilities]
  show (s.cssProperties.mapM (fun d => (behind? "--" d.1).map (fun name => (name, d.2)))).bind _ = _
  rw [properties]
  show some (Sheet.mk (.ofList s.properties.entries) (.ofList _)) = _
  rw [keys, OrderedMap.ofList_entries, OrderedMap.ofList_entries]

end Sheet

/-! ## Marks -/

/-- The marks of a block with a number of declarations. -/
def blockMarks (declarations : Nat) : List Char :=
  ['\x7b', '\n'] ++ (List.replicate declarations [':', ';', '\n']).flatten ++ ['\x7d', '\n']

theorem marksOf_ruleLines {selector : String} {declarations : List (String × String)}
    (legible : ∀ d ∈ declarations, IsLabel d.1 ∧ IsUnmarked d.2) :
    marksOf (unlines (ruleLines selector declarations))
      = marksOf selector ++ blockMarks declarations.length := by
  have line : ∀ d ∈ declarations,
      marksOf ("  " ++ d.1 ++ ": " ++ d.2 ++ ";") ++ ['\n'] = [':', ';', '\n'] := by
    intro d member
    obtain ⟨name, value⟩ := legible d member
    simp only [marksOf_append, name.1.marksOf_eq, value.marksOf_eq]
    decide
  have lines : (declarations.map (fun d => "  " ++ d.1 ++ ": " ++ d.2 ++ ";")).flatMap
      (fun l => marksOf l ++ ['\n'])
        = (List.replicate declarations.length [':', ';', '\n']).flatten := by
    rw [List.flatMap_map, List.flatMap_congr line, List.flatMap_def, List.map_const']
  have opening : marksOf (selector ++ " \x7b") = marksOf selector ++ ['\x7b'] := by
    rw [marksOf_append]
    rfl
  rw [marksOf_unlines, ruleLines, List.flatMap_append, List.flatMap_append, lines,
    List.flatMap_singleton, List.flatMap_singleton, opening, blockMarks]
  simp only [List.append_assoc, List.append_cancel_left_eq]
  rfl

namespace Sheet

variable {s : Sheet}

/-- The marks that a sheet puts into its text: those of a block for the custom
properties and of one for each utility class. -/
def marks (s : Sheet) : List Char :=
  ':' :: blockMarks s.properties.size
    ++ s.utilities.values.flatMap (fun u => '\n' :: blockMarks u.declarations.length)

theorem marksOf_css (legible : s.IsLegible) : marksOf s.css = s.marks := by
  have root : marksOf (unlines (ruleLines ":root" s.cssProperties))
      = ':' :: blockMarks s.properties.size := by
    rw [marksOf_ruleLines (legible_cssProperties legible), cssProperties, List.length_map]
    rfl
  have rule : ∀ u ∈ s.utilities.values,
      ("" :: u.cssLines).flatMap (fun l => marksOf l ++ ['\n'])
        = '\n' :: blockMarks u.declarations.length := by
    intro u member
    have utility := isLegible_of_mem_values legible member
    have inner : marksOf (unlines u.cssLines) = blockMarks u.declarations.length := by
      have selector := (Utility.isLabel_selector utility).1.marksOf_eq
      refine (marksOf_ruleLines (Utility.legible_cssDeclarations utility)).trans ?_
      rw [selector, Utility.cssDeclarations, List.length_map]
      rfl
    rw [List.flatMap_cons, ← marksOf_unlines, inner]
    rfl
  rw [css, cssLines, marksOf_unlines, List.flatMap_append, ← marksOf_unlines, List.flatMap_assoc,
    List.flatMap_congr rule]
  exact congrArg (· ++ _) root

/-- The text of a sheet shows all of it, whatever the tokens are called: two lists
of tokens have one text just if they have one sheet, a reader finds the sheet in
its text, and the text has no mark but those its sheet puts there. -/
theorem css_determines_sheet (ts us : List Token) :
    ((ofTokens ts).css = (ofTokens us).css ↔ ofTokens ts = ofTokens us)
      ∧ ofCss? (ofTokens ts).css = some (ofTokens ts)
      ∧ marksOf (ofTokens ts).css = (ofTokens ts).marks := by
  have read (vs : List Token) : ofCss? (ofTokens vs).css = some (ofTokens vs) := by
    rw [ofCss?, ofText?_css (isLegible_ofTokens vs), Option.bind_some,
      ofStatements?_statements (isLegible_ofTokens vs)]
  -- One text is read as one sheet.
  refine ⟨⟨fun same => ?_, congrArg css⟩, read ts, marksOf_css (isLegible_ofTokens ts)⟩
  rw [← Option.some_inj, ← read ts, ← read us, same]

end Sheet

end DesignTokens
