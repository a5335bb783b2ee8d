import DesignTokens.Proofs.Text.Lines

/-!
# Reading stylesheets

A stylesheet is read line by line.  A line opens a block, closes one, declares
something or shows nothing.  Braces and semicolons stand at the ends of lines
only: where one stands inside, the line cannot be read, so that a text that can
be read has no more blocks and declarations than its lines show.

Key definitions:

* `marksOf` are the marks of a text, which mean something wherever they stand.
* `Statement` is a declaration or a block.
* `Statement.ofText?` reads the statements of a stylesheet.
* `ReadAs` tells what lines add to the block that is open before them.
-/

namespace DesignTokens

open Text

/-! ## Texts without marks -/

/-- The characters that mean something to a stylesheet wherever they stand. -/
def styleMarks : List Char := ['\n', ':', ';', '\x7b', '\x7d']

/-- Whether a character means something to a stylesheet. -/
def isStyleMark (c : Char) : Bool := styleMarks.contains c

/-- Whether a text has nothing in it that means something to a stylesheet. -/
def IsUnmarked (text : String) : Prop := ∀ c ∈ text.toList, isStyleMark c = false

instance (text : String) : Decidable (IsUnmarked text) :=
  decidable_of_iff (text.toList.all (fun c => !isStyleMark c) = true) (by simp [IsUnmarked])

theorem IsUnmarked.append {s t : String} (first : IsUnmarked s) (second : IsUnmarked t) :
    IsUnmarked (s ++ t) := by
  rw [IsUnmarked, String.toList_append, List.forall_mem_append]
  exact ⟨first, second⟩

theorem IsUnmarked.intercalate {separator : String} {texts : List String}
    (between : IsUnmarked separator) (each : ∀ text ∈ texts, IsUnmarked text) :
    IsUnmarked (separator.intercalate texts) := by
  induction texts with
  | nil =>
    rw [String.intercalate_nil]
    decide
  | cons text texts ih =>
    rw [List.forall_mem_cons] at each
    cases texts with
    | nil =>
      rw [String.intercalate_singleton]
      exact each.1
    | cons next texts =>
      rw [String.intercalate_cons_cons]
      exact (each.1.append between).append (ih each.2)

theorem IsUnmarked.not_mem {text : String} (unmarked : IsUnmarked text) {c : Char}
    (mark : isStyleMark c = true) : c ∉ text.toList := by
  intro member
  rw [unmarked c member] at mark
  cases mark

/-- The marks of a text in their order. -/
def marksOf (text : String) : List Char := text.toList.filter isStyleMark

theorem marksOf_append (s t : String) : marksOf (s ++ t) = marksOf s ++ marksOf t := by
  rw [marksOf, String.toList_append, List.filter_append]
  rfl

theorem IsUnmarked.marksOf_eq {text : String} (unmarked : IsUnmarked text) : marksOf text = [] :=
  List.filter_eq_nil_iff.mpr fun c member => by rw [unmarked c member]; decide

theorem marksOf_unlines (lines : List String) :
    marksOf (unlines lines) = lines.flatMap (fun l => marksOf l ++ ['\n']) := by
  have line (cs : List Char) :
      (cs ++ ['\n']).filter isStyleMark = cs.filter isStyleMark ++ ['\n'] := by
    rw [List.filter_append]
    rfl
  rw [marksOf, toList_unlines, unlineChars, List.filter_flatMap, List.flatMap_map]
  exact List.flatMap_congr fun l _ => line l.toList

/-- Whether a text may stand at the start of a line: it has no marks, and starts
neither with a blank nor like a comment. -/
def IsLabel (text : String) : Prop :=
  IsUnmarked text ∧ ∃ c cs, text.toList = c :: cs ∧ c ≠ ' ' ∧ c ≠ '/'

/-- A label stays one whatever is written behind it. -/
theorem IsLabel.append {s t : String} (label : IsLabel s) (unmarked : IsUnmarked t) :
    IsLabel (s ++ t) := by
  obtain ⟨first, c, cs, start, shown, other⟩ := label
  refine ⟨first.append unmarked, c, cs ++ t.toList, ?_, shown, other⟩
  rw [String.toList_append, start, List.cons_append]

theorem isLabel_of_head {text : String} (unmarked : IsUnmarked text)
    (start : text.toList.head?.any (fun c => c ≠ ' ' && c ≠ '/') = true) : IsLabel text := by
  refine ⟨unmarked, ?_⟩
  cases chars : text.toList with
  | nil => simp [chars] at start
  | cons c cs => exact ⟨c, cs, rfl, by simpa [chars] using start⟩

/-! ## Lines -/

/-- What a line of a stylesheet says. -/
inductive StyleLine where
  | nothing
  | declaration (name value : String)
  | opening (head : String)
  | closing
deriving Repr, DecidableEq

namespace StyleLine

/-- Whether a character delimits statements. -/
def isDelimiter (c : Char) : Bool := [';', '\x7b', '\x7d'].contains c

/-- The declaration in front of a semicolon: a name up to the first colon, a
blank, and a value. -/
def declared? (cs : List Char) : Option StyleLine :=
  match cs.dropWhile (· ≠ ':') with
  | ':' :: ' ' :: value =>
    some (.declaration (String.ofList (cs.takeWhile (· ≠ ':'))) (String.ofList value))
  | _ => none

/-- What a line says that does not start with a blank.  A comment says nothing. -/
def ofShown? (shown : List Char) : Option StyleLine :=
  if shown = [] ∨ ['/', '/'] <+: shown then some .nothing
  else if shown = ['\x7d'] then some .closing
  else
    match shown.reverse with
    | '\x7b' :: ' ' :: head =>
      if head.any isDelimiter then none else some (.opening (String.ofList head.reverse))
    | ';' :: rest => if rest.any isDelimiter then none else declared? rest.reverse
    | _ => none

/-- What a line says.  Blanks at its start do not count. -/
def ofChars? (line : List Char) : Option StyleLine := ofShown? (line.dropWhile (· = ' '))

example : ofChars? "  color: red; \x7d a \x7b b: c;".toList = none := by decide

/-- Whether a text has nothing but blanks. -/
def IsIndent (text : String) : Prop := ∀ c ∈ text.toList, c = ' '

instance (text : String) : Decidable (IsIndent text) :=
  decidable_of_iff (text.toList.all (· = ' ') = true) (by simp [IsIndent])

theorem ofChars?_indent {indent text : String} (blank : IsIndent indent) (label : IsLabel text)
    (rest : List Char) :
    ofChars? (indent.toList ++ (text.toList ++ rest)) = ofShown? (text.toList ++ rest) := by
  obtain ⟨_, c, cs, start, shown, _⟩ := label
  rw [ofChars?, List.dropWhile_append_of_pos fun d member => decide_eq_true (blank d member), start,
    List.cons_append, List.dropWhile_cons_of_neg (by simpa using shown)]

theorem any_isDelimiter {cs : List Char} (unmarked : ∀ c ∈ cs, isStyleMark c = false) :
    cs.any isDelimiter = false := by
  rw [List.any_eq_false]
  intro c member delimiter
  have mark : isStyleMark c = true := by
    simp only [isDelimiter, List.contains_iff_mem, List.mem_cons, List.not_mem_nil,
      or_false] at delimiter
    rcases delimiter with rfl | rfl | rfl <;> decide
  rw [unmarked c member] at mark
  cases mark

theorem ofShown?_label {text : String} (label : IsLabel text) {rest : List Char}
    (more : rest ≠ []) :
    ofShown? (text.toList ++ rest) =
      match (text.toList ++ rest).reverse with
      | '\x7b' :: ' ' :: head =>
        if head.any isDelimiter then none else some (.opening (String.ofList head.reverse))
      | ';' :: rest => if rest.any isDelimiter then none else declared? rest.reverse
      | _ => none := by
  obtain ⟨_, c, cs, start, _, slash⟩ := label
  have shown : ¬ (text.toList ++ rest = [] ∨ ['/', '/'] <+: text.toList ++ rest) := by
    rw [start, List.cons_append]
    rintro (none | comment)
    · cases none
    · exact slash (List.cons_prefix_cons.mp comment).1.symm
  have long : text.toList ++ rest ≠ ['\x7d'] := by
    rw [start, List.cons_append]
    intro single
    exact more (List.append_eq_nil_iff.mp (List.cons.inj single).2).2
  rw [ofShown?, if_neg shown, if_neg long]

/-- A line that opens a block. -/
theorem ofChars?_opening {indent head : String} (blank : IsIndent indent) (label : IsLabel head) :
    ofChars? (indent ++ head ++ " \x7b").toList = some (.opening head) := by
  have line : (indent ++ head ++ " \x7b").toList
      = indent.toList ++ (head.toList ++ [' ', '\x7b']) := by simp
  have marks : head.toList.reverse.any isDelimiter = false := by
    rw [List.any_reverse]
    exact any_isDelimiter label.1
  rw [line, ofChars?_indent blank label, ofShown?_label label (List.cons_ne_nil _ _),
    List.reverse_append]
  show (if head.toList.reverse.any isDelimiter then none else _) = _
  rw [marks]
  simp

/-- A line that declares something. -/
theorem ofChars?_declaration {indent name value : String} (blank : IsIndent indent)
    (label : IsLabel name) (unmarked : IsUnmarked value) :
    ofChars? (indent ++ name ++ ": " ++ value ++ ";").toList = some (.declaration name value) := by
  have line : (indent ++ name ++ ": " ++ value ++ ";").toList
      = indent.toList ++ (name.toList ++ (':' :: ' ' :: value.toList ++ [';'])) := by simp
  have marks : (name.toList ++ ':' :: ' ' :: value.toList).reverse.any isDelimiter = false := by
    rw [List.any_reverse, List.any_append, any_isDelimiter label.1]
    simp only [List.any_cons, any_isDelimiter unmarked]
    decide
  -- The first colon stands behind the name, which has none.
  have colon : ∀ c ∈ name.toList, decide (c ≠ ':') = true := by
    intro c member
    refine decide_eq_true ?_
    rintro rfl
    exact label.1.not_mem (by decide) member
  have declared : declared? (name.toList ++ ':' :: ' ' :: value.toList)
      = some (.declaration name value) := by
    rw [declared?, List.dropWhile_append_of_pos colon, List.takeWhile_append_of_pos colon]
    simp
  rw [line, ofChars?_indent blank label, ofShown?_label label (by simp), ← List.append_assoc,
    List.reverse_append, List.reverse_singleton, List.singleton_append]
  simp only [marks, List.reverse_reverse]
  exact declared

end StyleLine

/-! ## Statements -/

/-- A statement of a stylesheet: a declaration, or a block of statements with a
head in front of it. -/
inductive Statement where
  | declaration (name value : String)
  | block (head : String) (body : List Statement)

/-- What was read up to a line: the statements of the block that is open, and of
each block around it, the nearest first, its head with what stands in front of
it. -/
structure Reading where
  outer : List (String × List Statement)
  body : List Statement

namespace Reading

/-- Goes over a line.  No line closes a block where none is open. -/
def step (r : Reading) : StyleLine → Option Reading
  | .nothing => some r
  | .declaration name value => some ⟨r.outer, r.body ++ [.declaration name value]⟩
  | .opening head => some ⟨(head, r.body) :: r.outer, []⟩
  | .closing =>
    match r.outer with
    | [] => none
    | (head, before) :: outer => some ⟨outer, before ++ [.block head r.body]⟩

/-- Goes over the characters of a line. -/
def readLine (r : Reading) (line : List Char) : Option Reading :=
  (StyleLine.ofChars? line).bind r.step

end Reading

/-- The statements of a stylesheet.  There are none if a line cannot be read or a
block stays open. -/
def Statement.ofText? (text : String) : Option (List Statement) := do
  let r ← (splitLines text.toList).foldlM Reading.readLine ⟨[], []⟩
  if r.outer.isEmpty then some r.body else none

/-- Whether lines add statements to the block that is open before them, and leave
it open. -/
structure ReadAs (lines : List String) (statements : List Statement) : Prop where
  single : ∀ l ∈ lines, '\n' ∉ l.toList
  run (r : Reading) : (lines.map String.toList).foldlM Reading.readLine r
    = some ⟨r.outer, r.body ++ statements⟩

namespace ReadAs

variable {lines more : List String} {statements others : List Statement}

theorem nil : ReadAs [] [] where
  single := by simp
  run r := by rw [List.append_nil]; rfl

theorem append (first : ReadAs lines statements) (second : ReadAs more others) :
    ReadAs (lines ++ more) (statements ++ others) where
  single := List.forall_mem_append.mpr ⟨first.single, second.single⟩
  run r := by
    rw [List.map_append, List.foldlM_append, first.run]
    show (more.map String.toList).foldlM Reading.readLine _ = _
    rw [second.run, List.append_assoc]

theorem flatMap {α : Type} {xs : List α} {f : α → List String} {g : α → List Statement}
    (each : ∀ x ∈ xs, ReadAs (f x) (g x)) : ReadAs (xs.flatMap f) (xs.flatMap g) := by
  induction xs with
  | nil => exact .nil
  | cons x xs ih =>
    rw [List.forall_mem_cons] at each
    rw [List.flatMap_cons, List.flatMap_cons]
    exact each.1.append (ih each.2)

theorem map {α : Type} {xs : List α} {f : α → String} {g : α → Statement}
    (each : ∀ x ∈ xs, ReadAs [f x] [g x]) : ReadAs (xs.map f) (xs.map g) := by
  rw [List.map_eq_flatMap, List.map_eq_flatMap]
  exact flatMap each

/-- Lines that say nothing may separate others. -/
theorem intercalate {α : Type} {xs : List α} {f : α → List String} {g : α → Statement}
    {separator : List String} (gap : ReadAs separator []) (each : ∀ x ∈ xs, ReadAs (f x) [g x]) :
    ReadAs (List.intercalate separator (xs.map f)) (xs.map g) := by
  induction xs with
  | nil => exact .nil
  | cons x xs ih =>
    rw [List.forall_mem_cons] at each
    cases xs with
    | nil =>
      rw [List.map_singleton, List.intercalate_singleton]
      exact each.1
    | cons y ys =>
      have rest := gap.append (ih each.2)
      have all := each.1.append rest
      rw [List.map_cons, List.map_cons, List.intercalate_cons_cons, List.append_assoc]
      exact all

/-! ## Single lines -/

variable {line : String}

theorem run_line {meaning : StyleLine} (read : StyleLine.ofChars? line.toList = some meaning)
    (r : Reading) : ([line].map String.toList).foldlM Reading.readLine r = r.step meaning := by
  rw [List.map_singleton, List.foldlM_cons, Reading.readLine, read, Option.bind_some]
  show (r.step meaning).bind some = _
  exact Option.bind_fun_some _

theorem nothing (read : StyleLine.ofChars? line.toList = some .nothing)
    (single : '\n' ∉ line.toList) : ReadAs [line] [] where
  single := List.forall_mem_singleton.mpr single
  run r := by rw [run_line read, List.append_nil]; rfl

theorem declaration {indent name value : String} (blank : StyleLine.IsIndent indent)
    (label : IsLabel name) (unmarked : IsUnmarked value) :
    ReadAs [indent ++ name ++ ": " ++ value ++ ";"] [.declaration name value] where
  single := by
    have name := label.1.not_mem (c := '\n') rfl
    have value := unmarked.not_mem (c := '\n') rfl
    have indent : '\n' ∉ indent.toList := fun member => absurd (blank _ member) (by decide)
    simp [indent, name, value]
  run r := by rw [run_line (StyleLine.ofChars?_declaration blank label unmarked)]; rfl

/-! ## Blocks -/

/-- What stands between the two lines of a block is what the block holds. -/
theorem between {opening closing head : String}
    (opens : StyleLine.ofChars? opening.toList = some (.opening head))
    (closes : StyleLine.ofChars? closing.toList = some .closing)
    (single : '\n' ∉ opening.toList ∧ '\n' ∉ closing.toList) (inner : ReadAs lines statements) :
    ReadAs ([opening] ++ lines ++ [closing]) [.block head statements] where
  single := List.forall_mem_append.mpr ⟨List.forall_mem_append.mpr
    ⟨List.forall_mem_singleton.mpr single.1, inner.single⟩, List.forall_mem_singleton.mpr single.2⟩
  run r := by
    rw [List.map_append, List.map_append, List.foldlM_append, List.foldlM_append, run_line opens]
    show ((lines.map String.toList).foldlM Reading.readLine ⟨(head, r.body) :: r.outer, []⟩).bind _
      = _
    rw [inner.run, Option.bind_some, run_line closes]
    rfl

theorem block {indent head closing : String} (blank : StyleLine.IsIndent indent)
    (label : IsLabel head) (closes : StyleLine.ofChars? closing.toList = some .closing)
    (last : '\n' ∉ closing.toList) (inner : ReadAs lines statements) :
    ReadAs ([indent ++ head ++ " \x7b"] ++ lines ++ [closing]) [.block head statements] := by
  have name := label.1.not_mem (c := '\n') rfl
  have indents : '\n' ∉ indent.toList := fun member => absurd (blank _ member) (by decide)
  exact between (StyleLine.ofChars?_opening blank label) closes
    ⟨by simp [indents, name], last⟩ inner

/-! ## Texts -/

/-- Lines are read again from the text that is made of them. -/
theorem ofText?_unlines (read : ReadAs lines statements) :
    Statement.ofText? (unlines lines) = some statements := by
  have single : ∀ l ∈ lines.map String.toList, '\n' ∉ l := List.forall_mem_map.mpr read.single
  -- Behind the last line feed stands one more line, which is empty.
  have last : ReadAs [""] [] := .nothing (by decide) (by decide)
  have all := (read.append last).run ⟨[], []⟩
  rw [List.append_nil, List.map_append] at all
  rw [Statement.ofText?, toList_unlines, splitLines_unlineChars single]
  show ((lines.map String.toList ++ [""].map String.toList).foldlM Reading.readLine _).bind _ = _
  rw [all]
  rfl

end ReadAs

end DesignTokens
