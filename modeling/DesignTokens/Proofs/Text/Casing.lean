import DesignTokens.Text.Casing
import Mathlib

/-!
# Small forms

Putting a text into lower case leaves characters that a second time leaves as
they are.  The tables are the reason: no run of capitals contains an image of
another one.  A hyphen cuts a text into parts that do not see each other, so
that lower case may be taken part by part.
-/

namespace DesignTokens.Text

/-! ## Runs that have nothing in common -/

/-- Whether the members of a run are all even or all odd. -/
def Run.hasParity (r : Run) : Bool := r.step == 2 || r.first == r.last

/-- Whether one run ends before the other starts, or one has even members and
the other odd ones. -/
def Run.isApartFrom (r s : Run) : Bool :=
  Nat.blt r.last s.first || Nat.blt s.last r.first
    || (r.hasParity && s.hasParity && (r.first + s.first) % 2 == 1)

theorem Run.covers_iff {r : Run} {n : Nat} :
    r.covers n = true ↔ r.first ≤ n ∧ n ≤ r.last ∧ (n - r.first) % r.step = 0 := by
  simp only [covers, Bool.and_eq_true, decide_eq_true_eq, beq_iff_eq, and_assoc]

theorem Run.mod_two_of_covers {r : Run} {n : Nat} (parity : r.hasParity = true)
    (member : r.covers n = true) : n % 2 = r.first % 2 := by
  simp only [hasParity, Bool.or_eq_true, beq_iff_eq] at parity
  obtain ⟨low, high, even⟩ := covers_iff.mp member
  rcases parity with step | single
  · rw [step] at even
    omega
  · have same : n = r.first := by omega
    rw [same]

theorem Run.covers_eq_false_of_isApartFrom {r s : Run} {n : Nat} (apart : r.isApartFrom s = true)
    (member : r.covers n = true) : s.covers n = false := by
  rw [Bool.eq_false_iff]
  intro other
  obtain ⟨low, high, _⟩ := covers_iff.mp member
  obtain ⟨low', high', _⟩ := covers_iff.mp other
  simp only [isApartFrom, Bool.or_eq_true, Bool.and_eq_true, Nat.blt_eq, beq_iff_eq] at apart
  rcases apart with (before | after) | ⟨⟨even, odd⟩, differ⟩
  · omega
  · omega
  · have := mod_two_of_covers even member
    have := mod_two_of_covers odd other
    omega

/-- Where the members of a run go. -/
def ShiftRun.image (r : ShiftRun) : Run := ⟨r.target, r.target + (r.last - r.first), r.step⟩

theorem ShiftRun.covers_image {r : ShiftRun} {n : Nat} (member : r.source.covers n = true) :
    r.image.covers (r.target + (n - r.first)) = true := by
  obtain ⟨low, high, even⟩ := Run.covers_iff.mp member
  refine Run.covers_iff.mpr ⟨Nat.le_add_right _ _, ?_, ?_⟩
  · exact Nat.add_le_add_left (Nat.sub_le_sub_right high r.first) _
  · show (r.target + (n - r.first) - r.target) % r.step = 0
    rw [Nat.add_sub_cancel_left]
    exact even

theorem exists_of_shifted {n m : Nat} {rs : List ShiftRun} (moved : shifted n rs = some m) :
    ∃ r ∈ rs, r.source.covers n = true ∧ m = r.target + (n - r.first) := by
  induction rs with
  | nil => cases moved
  | cons r rs ih =>
    rw [shifted] at moved
    split at moved
    · cases moved
    · split at moved
      · rename_i here
        exact ⟨r, List.mem_cons_self, here, (Option.some.inj moved).symm⟩
      · obtain ⟨s, member, found⟩ := ih moved
        exact ⟨s, List.mem_cons_of_mem r member, found⟩

/-- Whether a run has nothing in common with the runs of a sorted list. -/
def Run.avoids (r : Run) : List Run → Bool
  | [] => true
  | s :: rs => Nat.blt r.last s.first || (r.isApartFrom s && Run.avoids r rs)

theorem inRuns_eq_false_of_avoids {r : Run} {n : Nat} {rs : List Run}
    (avoids : r.avoids rs = true) (member : r.covers n = true) : inRuns n rs = false := by
  induction rs with
  | nil => rfl
  | cons s rs ih =>
    rw [Run.avoids, Bool.or_eq_true, Bool.and_eq_true, Nat.blt_eq] at avoids
    obtain ⟨_, high, _⟩ := Run.covers_iff.mp member
    rw [inRuns]
    rcases avoids with before | ⟨apart, later⟩
    · rw [if_pos (Nat.lt_of_le_of_lt high before)]
    · rw [Run.covers_eq_false_of_isApartFrom apart member, ih later]
      simp

theorem shifted_eq_none {n : Nat} {rs : List ShiftRun}
    (outside : inRuns n (rs.map ShiftRun.source) = false) : shifted n rs = none := by
  induction rs with
  | nil => rfl
  | cons r rs ih =>
    rw [List.map_cons, inRuns] at outside
    rw [shifted]
    split at outside
    · rename_i early
      exact if_pos early
    · rename_i start
      rw [Bool.or_eq_false_iff] at outside
      rw [outside.1, ih outside.2]
      exact if_neg start

/-! ## Small characters -/

/-- Whether lower case leaves a character as it is, whatever stands around it. -/
def IsSmall (c : Char) : Prop := c ≠ 'Σ' ∧ lowercaseChar c = [c]

instance (c : Char) : Decidable (IsSmall c) := inferInstanceAs (Decidable (_ ∧ _))

/-- No capital is a small form, and the dotted capital I is none either. -/
theorem avoids_lowercaseShifts : lowercaseShifts.all (fun r =>
    r.image.isApartFrom ⟨0x130, 0x130, 1⟩ &&
      r.image.avoids (lowercaseShifts.map ShiftRun.source)) = true := by
  decide +kernel

theorem shifted_sigma : shifted 0x3A3 lowercaseShifts = some 0x3C3 := by decide

theorem isSmall_of_unmoved {c : Char} {n : Nat} (code : c.toNat = n) (plain : n ≠ 0x130)
    (unmoved : shifted n lowercaseShifts = none) : IsSmall c := by
  refine ⟨?_, by rw [lowercaseChar, code, if_neg plain, unmoved]⟩
  rintro rfl
  have here : n = 0x3A3 := code.symm
  rw [here, shifted_sigma] at unmoved
  cases unmoved

theorem isSmall_of_image {r : ShiftRun} (member : r ∈ lowercaseShifts) {n : Nat}
    (inside : r.image.covers n = true) : IsSmall (Char.ofNat n) := by
  have apart := List.all_eq_true.mp avoids_lowercaseShifts r member
  rw [Bool.and_eq_true] at apart
  obtain ⟨dotted, capitals⟩ := apart
  have code := Char.toNat_ofNat n
  split at code
  · refine isSmall_of_unmoved code ?_ (shifted_eq_none (inRuns_eq_false_of_avoids capitals inside))
    rintro rfl
    have outside := Run.covers_eq_false_of_isApartFrom dotted inside
    simp [Run.covers] at outside
  · -- What is no code point becomes the null character, which has no other form.
    exact isSmall_of_unmoved code (by decide) (by decide)

/-- A small form is one of the two that the dotted capital I has, the image of a capital,
or a character that no run moves. -/
theorem lowercaseChar_cases {c d : Char} (member : d ∈ lowercaseChar c) :
    (d = Char.ofNat 0x69 ∨ d = Char.ofNat 0x307) ∨
    (∃ r ∈ lowercaseShifts, r.source.covers c.toNat = true ∧
      d = Char.ofNat (r.target + (c.toNat - r.first))) ∨
    (d = c ∧ c.toNat ≠ 0x130 ∧ shifted c.toNat lowercaseShifts = none) := by
  rw [lowercaseChar] at member
  split at member
  · exact .inl (by simpa using member)
  · rename_i plain
    split at member
    · rename_i n moved
      obtain ⟨r, run, inside, rfl⟩ := exists_of_shifted moved
      exact .inr (.inl ⟨r, run, inside, List.mem_singleton.mp member⟩)
    · rename_i unmoved
      exact .inr (.inr ⟨List.mem_singleton.mp member, plain, unmoved⟩)

/-- A capital form is one of several, the image of a small letter, or the character
itself. -/
theorem uppercaseChar_cases {c d : Char} (member : d ∈ uppercaseChar c) :
    (∃ e ∈ uppercaseExpansions, ∃ n ∈ e.2, d = Char.ofNat n) ∨
    (∃ r ∈ uppercaseShifts, r.source.covers c.toNat = true ∧
      d = Char.ofNat (r.target + (c.toNat - r.first))) ∨
    d = c := by
  rw [uppercaseChar] at member
  split at member
  · rename_i ns found
    obtain ⟨n, form, rfl⟩ := List.mem_map.mp member
    obtain ⟨front, back, whole, _⟩ := List.lookup_eq_some_iff.mp found
    refine .inl ⟨(c.toNat, ns), ?_, n, form, rfl⟩
    rw [whole]
    exact List.mem_append_right front List.mem_cons_self
  · split at member
    · rename_i n moved
      obtain ⟨r, run, inside, rfl⟩ := exists_of_shifted moved
      exact .inr (.inl ⟨r, run, inside, List.mem_singleton.mp member⟩)
    · exact .inr (.inr (List.mem_singleton.mp member))

/-- Small forms are small. -/
theorem isSmall_of_mem_lowercaseChar {c d : Char} (member : d ∈ lowercaseChar c) : IsSmall d := by
  rcases lowercaseChar_cases member with (rfl | rfl) | ⟨r, run, inside, rfl⟩ | ⟨rfl, plain, unmoved⟩
  · exact isSmall_of_unmoved rfl (by decide) (by decide)
  · exact isSmall_of_unmoved rfl (by decide) (by decide)
  · exact isSmall_of_image run (ShiftRun.covers_image inside)
  · exact isSmall_of_unmoved rfl plain unmoved

theorem lowercaseChar_ne_nil (c : Char) : lowercaseChar c ≠ [] := by
  rw [lowercaseChar]
  split
  · simp
  · split <;> simp

/-! ## Lower case of texts -/

/-- The forms that a character may take in lower case. -/
def smallForms (c : Char) : List Char := if c = 'Σ' then ['ς', 'σ'] else lowercaseChar c

theorem smallForms_cases {c d : Char} (member : d ∈ smallForms c) :
    d = 'ς' ∨ d = 'σ' ∨ d ∈ lowercaseChar c := by
  rw [smallForms] at member
  split at member
  · rw [List.mem_cons, List.mem_singleton] at member
    exact member.imp_right .inl
  · exact .inr (.inr member)

theorem isSmall_of_mem_smallForms {c d : Char} (member : d ∈ smallForms c) : IsSmall d := by
  rcases smallForms_cases member with rfl | rfl | plain
  · exact isSmall_of_unmoved rfl (by decide) (by decide)
  · exact isSmall_of_unmoved rfl (by decide) (by decide)
  · exact isSmall_of_mem_lowercaseChar plain

/-- Lower case of a text has nothing but small forms of its characters. -/
theorem exists_of_mem_lowercaseAfter {before cs : List Char} {d : Char}
    (member : d ∈ lowercaseAfter before cs) : ∃ c ∈ cs, d ∈ smallForms c := by
  induction cs generalizing before with
  | nil => simp [lowercaseAfter] at member
  | cons c cs ih =>
    rw [lowercaseAfter, List.mem_append] at member
    rcases member with here | later
    · refine ⟨c, List.mem_cons_self, ?_⟩
      rw [smallForms]
      split at here
      · rename_i sigma
        rw [if_pos sigma]
        split at here <;> simp_all
      · rename_i other
        rw [if_neg other]
        exact here
    · obtain ⟨x, inside, form⟩ := ih later
      exact ⟨x, List.mem_cons_of_mem c inside, form⟩

theorem lowercaseAfter_ne_nil {before cs : List Char} (nonempty : cs ≠ []) :
    lowercaseAfter before cs ≠ [] := by
  cases cs with
  | nil => exact absurd rfl nonempty
  | cons c cs =>
    rw [lowercaseAfter]
    simp only [ne_eq, List.append_eq_nil_iff, not_and]
    intro nothing
    split at nothing
    · split at nothing <;> cases nothing
    · exact absurd nothing (lowercaseChar_ne_nil c)

/-- A text of small characters is in lower case. -/
theorem lowercaseAfter_eq_self {cs : List Char} (small : ∀ c ∈ cs, IsSmall c) (before : List Char) :
    lowercaseAfter before cs = cs := by
  induction cs generalizing before with
  | nil => rfl
  | cons c cs ih =>
    obtain ⟨other, same⟩ := small c List.mem_cons_self
    rw [lowercaseAfter, ih (fun d later => small d (List.mem_cons_of_mem c later))]
    simp only [if_neg other, same]
    rfl

/-! ## Hyphens -/

/-- A hyphen hides what is behind it from the search for a cased character. -/
theorem meetsCased_append_hyphen (cs ds : List Char) :
    meetsCased (cs ++ '-' :: ds) = meetsCased cs := by
  have ignored : isCaseIgnorable '-' = false := by decide
  have cased : isCased '-' = false := by decide
  rw [meetsCased, meetsCased, List.dropWhile_append]
  cases rest : cs.dropWhile isCaseIgnorable with
  | nil => simp [ignored, cased]
  | cons c cs => simp

theorem endsWord_append_hyphen (near far cs ds : List Char) :
    endsWord (near ++ '-' :: far) cs = endsWord near cs ∧
      endsWord near (cs ++ '-' :: ds) = endsWord near cs := by
  simp only [endsWord, meetsCased_append_hyphen, and_self]

/-- What stands in front of a hyphen has no say in the text behind it. -/
theorem lowercaseAfter_append_hyphen (near far cs : List Char) :
    lowercaseAfter (near ++ '-' :: far) cs = lowercaseAfter near cs := by
  induction cs generalizing near with
  | nil => rfl
  | cons c cs ih =>
    have rest := ih (c :: near)
    rw [List.cons_append] at rest
    rw [lowercaseAfter, lowercaseAfter, (endsWord_append_hyphen near far cs []).1, rest]

theorem lowercaseAfter_hyphen (before cs ds : List Char) :
    lowercaseAfter before (cs ++ '-' :: ds) = lowercaseAfter before cs ++ '-' :: lowercase ds := by
  induction cs generalizing before with
  | nil =>
    have hyphen : IsSmall '-' := by decide
    have rest : lowercaseAfter ('-' :: before) ds = lowercase ds :=
      lowercaseAfter_append_hyphen [] before ds
    show (if '-' = 'Σ' then _ else lowercaseChar '-') ++ lowercaseAfter ('-' :: before) ds = _
    rw [if_neg hyphen.1, hyphen.2, rest]
    rfl
  | cons c cs ih =>
    rw [List.cons_append, lowercaseAfter, lowercaseAfter, ih (c :: before),
      (endsWord_append_hyphen before [] cs ds).2, List.append_assoc]

/-- Lower case of a text with a hyphen is taken on either side of it. -/
theorem lowercase_hyphen (cs ds : List Char) :
    lowercase (cs ++ '-' :: ds) = lowercase cs ++ '-' :: lowercase ds :=
  lowercaseAfter_hyphen [] cs ds

end DesignTokens.Text
