import DesignTokens.Proofs.Text.Reading
import Mathlib.Data.List.Chain

/-!
# Tidy texts

The tidy form of a text is the only text without needless blanks that has the
same lines with something in them, blanks at their ends aside, and a gap between
two of them just where the text has one.
-/

namespace DesignTokens.Text

/-! ## Lines -/

/-- The lines of a text.  Each ends with a line feed, which the last one may lack.  A carriage
return in front of the line feed is a blank at the end of its line. -/
def lines : List Char → List (List Char)
  | [] => []
  | c :: cs => if c = '\n' then [] :: lines cs else extendLine c (lines cs)

/-- Whether there is nothing to be seen in a line. -/
def isBlankLine (line : List Char) : Bool := line.all isBlank

/-- The lines in which there is something to be seen. -/
def shownOf (ls : List (List Char)) : List (List Char) := ls.filter (fun line => !isBlankLine line)

/-- For each two neighbours among the lines with something in them, whether there are blank lines
between them. -/
def gaps : List (List Char) → List Bool
  | [] => []
  | line :: rest =>
    if isBlankLine line || rest.all isBlankLine then gaps rest
    else rest.head?.any isBlankLine :: gaps rest

/-- Whether a text is a tidy form of another one. -/
structure IsTidyForm (text tidied : List Char) : Prop where
  ending : tidied = [] ∨ ∃ front c, tidied = front ++ [c, '\n'] ∧ c ≠ '\n'
  trimmed : ∀ line ∈ lines tidied, ∀ c ∈ line.getLast?, isBlank c = false
  start : ∀ line ∈ (lines tidied).head?, isBlankLine line = false
  single : (lines tidied).IsChain (fun line next => ¬ (isBlankLine line ∧ isBlankLine next))
  shown : shownOf (lines tidied) = (shownOf (lines text)).map (List.rdropWhile isBlank)
  gaps : gaps (lines tidied) = gaps (lines text)

/-! ### Cutting -/

theorem lines_append {line : List Char} (whole : '\n' ∉ line) (rest : List Char) :
    lines (line ++ '\n' :: rest) = line :: lines rest := by
  induction line with
  | nil => rw [List.nil_append, lines, if_pos rfl]
  | cons c cs ih =>
    rw [List.mem_cons, not_or] at whole
    rw [List.cons_append, lines, if_neg (Ne.symm whole.1), ih whole.2]
    rfl

theorem lines_unlineChars {ls : List (List Char)} (whole : ∀ l ∈ ls, '\n' ∉ l) :
    lines (unlineChars ls) = ls := by
  induction ls with
  | nil => rfl
  | cons l ls ih =>
    rw [List.forall_mem_cons] at whole
    have first : unlineChars (l :: ls) = l ++ '\n' :: unlineChars ls := by simp [unlineChars]
    rw [first, lines_append whole.1, ih whole.2]

theorem lines_eq_nil_iff {cs : List Char} : lines cs = [] ↔ cs = [] := by
  cases cs with
  | nil => simp [lines]
  | cons c cs =>
    rw [lines]
    split
    · simp
    · cases lines cs <;> simp [extendLine]

theorem unlineChars_lines (front : List Char) :
    unlineChars (lines (front ++ ['\n'])) = front ++ ['\n'] := by
  induction front with
  | nil => rfl
  | cons c front ih =>
    rw [List.cons_append, lines]
    split
    · rename_i feed
      rw [feed]
      exact congrArg (List.cons '\n') ih
    · cases rest : lines (front ++ ['\n']) with
      | nil => simp [lines_eq_nil_iff] at rest
      | cons l ls =>
        rw [rest] at ih
        exact congrArg (List.cons c) ih

/-- Cutting at line feeds only adds an empty line at the end. -/
theorem splitLines_eq_lines (cs : List Char) :
    splitLines cs = lines cs ∨ splitLines cs = lines cs ++ [[]] := by
  induction cs with
  | nil => exact .inr rfl
  | cons c cs ih =>
    rw [splitLines, lines]
    split
    · exact ih.imp (congrArg _) (congrArg _)
    · rcases ih with same | more
      · exact .inl (congrArg _ same)
      · cases rest : lines cs with
        | nil => exact .inl (by rw [more, rest]; rfl)
        | cons l ls => exact .inr (by rw [more, rest]; rfl)

theorem lineFeed_not_mem_lines {cs : List Char} : ∀ l ∈ lines cs, '\n' ∉ l := by
  intro l member
  apply lineFeed_not_mem_of_mem_splitLines
  rcases splitLines_eq_lines cs with same | more
  · rwa [same]
  · rw [more]
    exact List.mem_append_left _ member

/-! ### Blank lines -/

@[simp] theorem isBlankLine_nil : isBlankLine [] = true := rfl

theorem isBlankLine_eq_false {line : List Char} (tidy : IsTidyLine line) :
    isBlankLine line = false := by
  obtain ⟨front, c, rfl, shown⟩ := tidy
  simp [isBlankLine, shown]

/-- Whether a line is left alone when blanks are cut off its end. -/
def IsTrimmed (line : List Char) : Prop := line = [] ∨ IsTidyLine line

theorem isTrimmed_iff {line : List Char} :
    IsTrimmed line ↔ ∀ c ∈ line.getLast?, isBlank c = false := by
  induction line using List.reverseRecOn with
  | nil => simp [IsTrimmed]
  | append_singleton line c => simp [IsTrimmed, IsTidyLine]

theorem isBlankLine_rdropWhile (line : List Char) :
    isBlankLine (line.rdropWhile isBlank) = isBlankLine line := by
  induction line using List.reverseRecOn with
  | nil => rfl
  | append_singleton line c ih =>
    rw [List.rdropWhile_concat]
    split
    · rename_i blank
      rw [ih]
      simp [isBlankLine, blank]
    · rfl

theorem isTrimmed_trimEnd (line : List Char) : IsTrimmed (trimEnd line) := by
  refine isTrimmed_iff.mpr fun c last => ?_
  obtain ⟨given, rfl⟩ := List.mem_getLast?_eq_getLast last
  exact (Bool.not_eq_true _).mp (List.rdropWhile_last_not isBlank line given)

/-! ### Gaps -/

section Gaps

variable {line next : List Char} {rest : List (List Char)}

theorem gaps_blank (blank : isBlankLine line) : gaps (line :: rest) = gaps rest := by
  simp [gaps, blank]

theorem gaps_shown (shown : isBlankLine line = false) :
    gaps (line :: rest) =
      if rest.all isBlankLine then gaps rest else rest.head?.any isBlankLine :: gaps rest := by
  simp [gaps, shown]

theorem gaps_next (shown : isBlankLine line = false) (shown' : isBlankLine next = false) :
    gaps (line :: next :: rest) = false :: gaps (next :: rest) := by
  rw [gaps_shown shown]
  simp [shown']

theorem gaps_apart (shown : isBlankLine line = false) (shown' : isBlankLine next = false) :
    gaps (line :: [] :: next :: rest) = true :: gaps (next :: rest) := by
  rw [gaps_shown shown, gaps_blank isBlankLine_nil]
  simp [shown']

/-- It does not matter of how many blank lines a gap is made. -/
theorem gaps_gap (shown : isBlankLine line = false) (blank : isBlankLine next) :
    gaps (line :: next :: rest) = gaps (line :: [] :: next :: rest) := by
  rw [gaps_shown shown, gaps_shown shown, gaps_blank isBlankLine_nil]
  simp [blank]

end Gaps

/-! ## Tidy lines -/

/-- Lines with something in them and no blanks at their ends, some of which have one empty line
between them. -/
inductive AreTidy : List (List Char) → Prop where
  | nil : AreTidy []
  | next {line : List Char} {rest : List (List Char)} :
    IsTidyLine line → AreTidy rest → AreTidy (line :: rest)
  | apart {line next : List Char} {rest : List (List Char)} :
    IsTidyLine line → AreTidy (next :: rest) → AreTidy (line :: [] :: next :: rest)

theorem shownOf_cons {line : List Char} (shown : isBlankLine line = false)
    (rest : List (List Char)) : shownOf (line :: rest) = line :: shownOf rest :=
  List.filter_cons_of_pos (by simp [shown])

theorem shownOf_blank {line : List Char} (blank : isBlankLine line)
    (rest : List (List Char)) : shownOf (line :: rest) = shownOf rest :=
  List.filter_cons_of_neg (by simp [blank])

/-- Lines with empty ones put into the gaps between them. -/
def spaced : List (List Char) → List Bool → List (List Char)
  | line :: rest, gap :: gaps =>
    if gap then line :: [] :: spaced rest gaps else line :: spaced rest gaps
  | ls, _ => ls

namespace AreTidy

variable {line : List Char} {ls : List (List Char)}

theorem head (tidy : AreTidy (line :: ls)) : IsTidyLine line := by
  cases tidy with
  | next first _ => exact first
  | apart first _ => exact first

/-- Tidy lines can be told from those with something in them and the gaps between these. -/
theorem spaced_eq (tidy : AreTidy ls) : spaced (shownOf ls) (gaps ls) = ls := by
  induction tidy with
  | nil => rfl
  | @next line rest first tidy ih =>
    have shown := isBlankLine_eq_false first
    cases rest with
    | nil =>
      rw [gaps_shown shown, shownOf_cons shown]
      rfl
    | cons next rest =>
      rw [gaps_next shown (isBlankLine_eq_false tidy.head), shownOf_cons shown]
      exact congrArg (List.cons line) ih
  | @apart line next rest first tidy ih =>
    have shown := isBlankLine_eq_false first
    rw [gaps_apart shown (isBlankLine_eq_false tidy.head), shownOf_cons shown, shownOf_blank rfl]
    exact congrArg (fun ls => line :: [] :: ls) ih

end AreTidy

/-! ## Squeezing -/

theorem areTidy_squeeze {line : List Char} (first : IsTidyLine line) {ls : List (List Char)}
    (trimmed : ∀ l ∈ ls, IsTrimmed l) (gap : Bool) : AreTidy (line :: squeeze gap ls) := by
  -- The line in front is the last one with something in it.  An empty line only begins a gap, which
  -- shows when the next line comes.
  induction ls generalizing line gap with
  | nil => exact .next first .nil
  | cons l ls ih =>
    obtain ⟨here, later⟩ := List.forall_mem_cons.mp trimmed
    rw [squeeze]
    rcases here with rfl | tidy
    · exact ih first later true
    · have rest := ih tidy later false
      rw [(trimEnd_of_isTidyLine tidy).2]
      cases gap with
      | false => exact .next first rest
      | true => exact .apart first rest

/-- Squeezing keeps the gaps.  If one has been begun in front of the lines, it is kept as well. -/
theorem gaps_squeeze {line : List Char} (first : IsTidyLine line) {ls : List (List Char)}
    (trimmed : ∀ l ∈ ls, IsTrimmed l) (gap : Bool) :
    gaps (line :: squeeze gap ls) = gaps (if gap then line :: [] :: ls else line :: ls) := by
  have shown := isBlankLine_eq_false first
  induction ls generalizing line gap with
  | nil => cases gap <;> simp [squeeze, gaps, isBlankLine]
  | cons l ls ih =>
    obtain ⟨here, later⟩ := List.forall_mem_cons.mp trimmed
    rw [squeeze]
    rcases here with rfl | tidy
    · refine (ih first later true shown).trans ?_
      cases gap with
      | false => rfl
      | true => exact gaps_gap shown rfl
    · have shown' := isBlankLine_eq_false tidy
      have rest : gaps (l :: squeeze false ls) = gaps (l :: ls) := ih tidy later false shown'
      rw [(trimEnd_of_isTidyLine tidy).2]
      cases gap with
      | false =>
        show gaps (line :: l :: squeeze false ls) = gaps (line :: l :: ls)
        rw [gaps_next shown shown', gaps_next shown shown', rest]
      | true =>
        show gaps (line :: [] :: l :: squeeze false ls) = gaps (line :: [] :: l :: ls)
        rw [gaps_apart shown shown', gaps_apart shown shown', rest]

/-! ## Tidying -/

theorem shownOf_map_trimEnd (ls : List (List Char)) :
    shownOf (ls.map trimEnd) = (shownOf ls).map trimEnd := by
  have same : (fun line => !isBlankLine line) ∘ trimEnd = fun line => !isBlankLine line :=
    funext fun line => congrArg not (isBlankLine_rdropWhile line)
  rw [shownOf, List.filter_map, same, shownOf]

/-- Gaps can be told from which of the lines are blank. -/
theorem gaps_congr {ls ls' : List (List Char)} (same : ls.map isBlankLine = ls'.map isBlankLine) :
    gaps ls = gaps ls' := by
  induction ls generalizing ls' with
  | nil => rw [List.map_eq_nil_iff.mp same.symm]
  | cons line rest ih =>
    obtain ⟨line', rest', rfl, here, later⟩ := List.map_eq_cons_iff.mp same.symm
    have all : rest.all isBlankLine = rest'.all isBlankLine := by
      simpa [List.all_map] using congrArg (List.all · id) later.symm
    have head : rest.head?.any isBlankLine = rest'.head?.any isBlankLine := by
      simpa [Option.any_map] using congrArg (fun blanks => (List.head? blanks).any id) later.symm
    rw [gaps, gaps, here, all, head, ih later.symm]

theorem gaps_map_trimEnd (ls : List (List Char)) : gaps (ls.map trimEnd) = gaps ls := by
  refine gaps_congr ?_
  rw [List.map_map]
  exact List.map_congr_left fun line _ => isBlankLine_rdropWhile line

theorem shownOf_tidyLines (ls : List (List Char)) :
    shownOf (tidyLines ls) = (shownOf ls).map trimEnd := by
  have nothing : Option.guard (fun line => !isBlankLine line) [] = none := rfl
  have same := filterMap_tidyLines nothing ls
  rw [List.filterMap_eq_filter] at same
  exact same.trans (shownOf_map_trimEnd ls)

/-- Empty lines at the start are no gap. -/
theorem gaps_dropWhile (ls : List (List Char)) : gaps (ls.dropWhile List.isEmpty) = gaps ls := by
  induction ls with
  | nil => rfl
  | cons line rest ih =>
    cases line with
    | nil => exact ih.trans (gaps_blank rfl).symm
    | cons c cs => rfl

/-- What is left when the empty lines at the start are gone begins with a line that is shown. -/
theorem dropWhile_trimmed {ls : List (List Char)} (trimmed : ∀ l ∈ ls, IsTrimmed l) :
    ls.dropWhile List.isEmpty = [] ∨ ∃ line rest, ls.dropWhile List.isEmpty = line :: rest ∧
      IsTidyLine line ∧ ∀ l ∈ rest, IsTrimmed l := by
  induction ls with
  | nil => exact .inl rfl
  | cons l ls ih =>
    obtain ⟨here, later⟩ := List.forall_mem_cons.mp trimmed
    rcases here with rfl | tidy
    · exact ih later
    · refine .inr ⟨l, ls, ?_, tidy, later⟩
      rw [List.dropWhile_cons, (trimEnd_of_isTidyLine tidy).2]
      rfl

theorem areTidy_tidyLines (ls : List (List Char)) :
    AreTidy (tidyLines ls) ∧ gaps (tidyLines ls) = gaps ls := by
  have trimmed : ∀ l ∈ ls.map trimEnd, IsTrimmed l :=
    List.forall_mem_map.mpr fun l _ => isTrimmed_trimEnd l
  have apart := (gaps_dropWhile (ls.map trimEnd)).trans (gaps_map_trimEnd ls)
  rw [tidyLines, ← apart]
  rcases dropWhile_trimmed trimmed with nothing | ⟨line, rest, given, first, later⟩
  · rw [nothing]
    exact ⟨.nil, rfl⟩
  · have start : squeeze false (line :: rest) = line :: squeeze false rest := by
      rw [squeeze, (trimEnd_of_isTidyLine first).2]
      rfl
    rw [given, start]
    exact ⟨areTidy_squeeze first later false, gaps_squeeze first later false⟩

theorem squeeze_concat_nil (gap : Bool) (ls : List (List Char)) :
    squeeze gap (ls ++ [[]]) = squeeze gap ls := by
  induction ls generalizing gap with
  | nil => rfl
  | cons l ls ih => rw [List.cons_append, squeeze, squeeze, ih, ih]

theorem tidyLines_concat_nil (ls : List (List Char)) : tidyLines (ls ++ [[]]) = tidyLines ls := by
  rw [tidyLines, List.map_append, List.dropWhile_append]
  split
  · rename_i nothing
    rw [tidyLines, List.isEmpty_iff.mp nothing]
    rfl
  · exact squeeze_concat_nil false _

theorem tidyChars_eq (cs : List Char) : tidyChars cs = unlineChars (tidyLines (lines cs)) := by
  rw [tidyChars]
  rcases splitLines_eq_lines cs with same | more
  · rw [same]
  · rw [more, tidyLines_concat_nil]

theorem lines_tidyChars (cs : List Char) : lines (tidyChars cs) = tidyLines (lines cs) := by
  rw [tidyChars_eq, lines_unlineChars]
  exact fun l member => lineFeed_not_mem_of_mem_tidyLines lineFeed_not_mem_lines member

/-! ## The tidy form -/

namespace AreTidy

variable {line : List Char} {ls : List (List Char)}

theorem trimmed (tidy : AreTidy ls) : ∀ l ∈ ls, IsTrimmed l := by
  induction tidy with
  | nil => simp
  | next first _ ih => exact List.forall_mem_cons.mpr ⟨.inr first, ih⟩
  | apart first _ ih =>
    exact List.forall_mem_cons.mpr ⟨.inr first, List.forall_mem_cons.mpr ⟨.inl rfl, ih⟩⟩

theorem start (tidy : AreTidy ls) : ∀ l ∈ ls.head?, isBlankLine l = false := by
  cases tidy with
  | nil => simp
  | next first _ => simpa using isBlankLine_eq_false first
  | apart first _ => simpa using isBlankLine_eq_false first

theorem isChain (tidy : AreTidy ls) :
    ls.IsChain (fun line next => ¬ (isBlankLine line ∧ isBlankLine next)) := by
  induction tidy with
  | nil => exact .nil
  | @next line rest first tidy ih =>
    refine List.isChain_cons.mpr ⟨fun next _ blank => ?_, ih⟩
    simp [isBlankLine_eq_false first] at blank
  | @apart line next rest first tidy ih =>
    refine List.isChain_cons_cons.mpr ⟨fun blank => ?_, List.isChain_cons_cons.mpr ⟨?_, ih⟩⟩
    · simp [isBlankLine_eq_false first] at blank
    · simp [isBlankLine_eq_false tidy.head]

theorem ending (tidy : AreTidy ls) : unlineChars ls = [] ∨
    ∃ front c, unlineChars ls = front ++ [c, '\n'] ∧ isBlank c = false := by
  induction tidy with
  | nil => exact .inl rfl
  | @next line rest first tidy ih =>
    right
    rcases ih with nothing | ⟨front, c, ends, shown⟩
    · obtain ⟨front, c, rfl, shown⟩ := first
      refine ⟨front, c, ?_, shown⟩
      show (front ++ [c]) ++ ['\n'] ++ unlineChars rest = _
      simp [nothing]
    · refine ⟨line ++ '\n' :: front, c, ?_, shown⟩
      show line ++ ['\n'] ++ unlineChars rest = _
      simp [ends]
  | @apart line next rest first tidy ih =>
    right
    rcases ih with nothing | ⟨front, c, ends, shown⟩
    · simp [unlineChars] at nothing
    · refine ⟨line ++ '\n' :: '\n' :: front, c, ?_, shown⟩
      show line ++ ['\n'] ++ (['\n'] ++ unlineChars (next :: rest)) = _
      simp [ends]

/-- Lines are tidy if none has blanks at its end, the first and the last have something in them,
and of two neighbours one has. -/
theorem of_trimmed : {ls : List (List Char)} → (∀ l ∈ ls, IsTrimmed l) →
    (∀ l ∈ ls.head?, isBlankLine l = false) →
    ls.IsChain (fun line next => ¬ (isBlankLine line ∧ isBlankLine next)) →
    ls.getLast? ≠ some [] → AreTidy ls
  | [], _, _, _, _ => .nil
  | l :: ls, trimmed, start, single, last => by
    obtain ⟨here, later⟩ := List.forall_mem_cons.mp trimmed
    have first : IsTidyLine l := here.resolve_left fun empty => by simp [empty] at start
    -- Behind an empty line there has to be one with something in it, as neither the last line nor
    -- two in a row are empty.
    match ls with
    | [] => exact .next first .nil
    | [[]] => exact absurd rfl last
    | [] :: m :: ms =>
      obtain ⟨apart, rest⟩ := List.isChain_cons_cons.mp (List.isChain_cons_cons.mp single).2
      have shown : ∀ m' ∈ (m :: ms).head?, isBlankLine m' = false := by simpa using apart
      exact .apart first (of_trimmed (List.forall_mem_cons.mp later).2 shown rest last)
    | (c :: cs) :: ms =>
      have given : IsTidyLine (c :: cs) := (later _ List.mem_cons_self).resolve_left (by simp)
      have shown : ∀ m ∈ ((c :: cs) :: ms).head?, isBlankLine m = false := by
        simpa using isBlankLine_eq_false given
      exact .next first (of_trimmed later shown (List.isChain_cons_cons.mp single).2 last)

end AreTidy

namespace IsTidyForm

variable {text tidied : List Char}

/-- A tidy form ends where its last line ends. -/
theorem unlineChars_lines (form : IsTidyForm text tidied) :
    unlineChars (lines tidied) = tidied := by
  rcases form.ending with rfl | ⟨front, c, rfl, _⟩
  · rfl
  · rw [List.append_cons, Text.unlineChars_lines]

theorem areTidy (form : IsTidyForm text tidied) : AreTidy (lines tidied) := by
  refine .of_trimmed (fun l member => isTrimmed_iff.mpr (form.trimmed l member)) form.start
    form.single fun last => ?_
  -- An empty last line would be a second line feed at the end.
  obtain ⟨before, ends⟩ := List.getLast?_eq_some_iff.mp last
  have feeds : tidied = unlineChars before ++ ['\n'] := by
    rw [← form.unlineChars_lines, ends]
    simp [unlineChars]
  rcases form.ending with nothing | ⟨front, c, ending, other⟩
  · simp [nothing] at feeds
  · have same : unlineChars before = front ++ [c] := by
      rw [ending, List.append_cons] at feeds
      exact (List.append_cancel_right feeds).symm
    rcases List.eq_nil_or_concat before with rfl | ⟨earlier, l, rfl⟩
    · simp [unlineChars] at same
    · have last : unlineChars (earlier ++ [l]) = unlineChars earlier ++ l ++ ['\n'] := by
        simp [unlineChars]
      rw [List.concat_eq_append, last] at same
      obtain ⟨_, feed⟩ := List.append_inj' same rfl
      exact other (List.singleton_inj.mp feed).symm

/-- A tidy form is a tidy form of itself. -/
theorem self (form : IsTidyForm text tidied) : IsTidyForm tidied tidied where
  ending := form.ending
  trimmed := form.trimmed
  start := form.start
  single := form.single
  shown := by
    have each : ∀ l ∈ shownOf (lines tidied), trimEnd l = l := fun l member => by
      rcases form.areTidy.trimmed l (List.mem_of_mem_filter member) with rfl | tidy
      · rfl
      · exact (trimEnd_of_isTidyLine tidy).1
    exact (List.map_id' _).symm.trans (List.map_congr_left each).symm
  gaps := rfl

end IsTidyForm

theorem isTidyForm_tidyChars (cs : List Char) : IsTidyForm cs (tidyChars cs) := by
  obtain ⟨tidy, gaps⟩ := areTidy_tidyLines (lines cs)
  have cut := lines_tidyChars cs
  constructor
  case ending =>
    rw [tidyChars_eq]
    refine tidy.ending.imp id ?_
    rintro ⟨front, c, ends, shown⟩
    exact ⟨front, c, ends, by rintro rfl; exact absurd shown (by decide)⟩
  case trimmed =>
    rw [cut]
    exact fun l member => isTrimmed_iff.mp (tidy.trimmed l member)
  case start =>
    rw [cut]
    exact tidy.start
  case single =>
    rw [cut]
    exact tidy.isChain
  case shown =>
    rw [cut]
    exact shownOf_tidyLines (lines cs)
  case gaps =>
    rw [cut]
    exact gaps

/-- A text has just one tidy form, and tidying finds it. -/
theorem isTidyForm_iff {text tidied : List Char} :
    IsTidyForm text tidied ↔ tidied = tidyChars text := by
  refine ⟨fun form => ?_, fun found => found ▸ isTidyForm_tidyChars text⟩
  have made := isTidyForm_tidyChars text
  -- The lines with something in them and the gaps leave no choice for the other lines.
  have same : lines tidied = lines (tidyChars text) := by
    rw [← form.areTidy.spaced_eq, ← made.areTidy.spaced_eq, form.shown, made.shown, form.gaps,
      made.gaps]
  rw [← form.unlineChars_lines, same, made.unlineChars_lines]

example : tidyChars "\n a \r\n \n\nb".toList = " a\n\nb\n".toList := by decide

/-- Tidying twice is tidying once. -/
theorem tidyChars_tidyChars (cs : List Char) : tidyChars (tidyChars cs) = tidyChars cs :=
  (isTidyForm_iff.mp (isTidyForm_tidyChars cs).self).symm

end DesignTokens.Text
