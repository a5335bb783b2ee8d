import DesignTokens.Proofs.Decimal.Digits
import DesignTokens.Proofs.Decimal.Nearest
import DesignTokens.Proofs.Decimal.Shortest

/-!
# Number literals

The text of a double is a number literal, and the double nearest to what this
literal denotes is the double itself.  So numbers survive being written and
read.
-/

namespace DesignTokens.Decimal

/-! ## Runs of digits -/

/-- Whether a text starts with something else than a digit. -/
def StopsDigits (cs : List Char) : Prop := ∀ c ∈ cs.head?, c.isDigit = false

theorem stopsDigits_nil : StopsDigits [] := by
  intro c member
  cases member

theorem stopsDigits_cons {c : Char} (other : c.isDigit = false) (cs : List Char) :
    StopsDigits (c :: cs) := by
  intro d member
  cases member
  exact other

theorem takeDigits_append {ds rest : List Char} (run : ∀ c ∈ ds, c.isDigit = true)
    (stop : StopsDigits rest) : takeDigits (ds ++ rest) = (ds, rest) := by
  have nothing : rest.takeWhile Char.isDigit = [] ∧ rest.dropWhile Char.isDigit = rest := by
    cases rest with
    | nil => exact ⟨rfl, rfl⟩
    | cons c cs =>
      have other := stop c rfl
      rw [List.takeWhile_cons, List.dropWhile_cons, other]
      exact ⟨rfl, rfl⟩
  rw [takeDigits, List.takeWhile_append_of_pos run, List.dropWhile_append_of_pos run,
    nothing.1, nothing.2, List.append_nil]

theorem isDigit_of_mem_zeros (n : Nat) : ∀ c ∈ List.replicate n '0', c.isDigit = true := by
  intro c member
  rw [List.eq_of_mem_replicate member]
  rfl

/-! ## The parts of a literal -/

theorem wholeDigits?_append {ds rest : List Char} (run : ∀ c ∈ ds, c.isDigit = true)
    (stop : StopsDigits rest) (given : ds ≠ []) (leading : ds.head? = some '0' → ds = ['0']) :
    wholeDigits? (ds ++ rest) = some (ds, rest) := by
  rw [wholeDigits?, takeDigits_append run stop]
  split
  · rename_i same
    cases same
    exact absurd rfl given
  · rename_i same
    cases same
    cases leading rfl
  · rfl

theorem placeDigits?_point {ds rest : List Char} (run : ∀ c ∈ ds, c.isDigit = true)
    (stop : StopsDigits rest) (given : ds ≠ []) :
    placeDigits? ('.' :: (ds ++ rest)) = some (ds, rest) := by
  rw [placeDigits?, takeDigits_append run stop]
  cases ds with
  | nil => exact absurd rfl given
  | cons c cs => rfl

theorem exponentPart?_exponentText (e : Int) :
    exponentPart? (exponentText e).toList = some (some e) := by
  cases e with
  | ofNat n =>
    have run : takeDigits (digits n ++ []) = (digits n, []) :=
      takeDigits_append (fun _ => isDigit_of_mem_digits) stopsDigits_nil
    rw [List.append_nil] at run
    have text : (exponentText (.ofNat n)).toList = 'e' :: '+' :: digits n := by
      simp [exponentText]
    rw [text]
    simp only [exponentPart?, signedDigits?, run]
    cases parts : digits n with
    | nil => exact absurd parts (digits_ne_nil n)
    | cons c cs =>
      simp only [← parts, digitsValue_digits]
      rfl
  | negSucc n =>
    have run : takeDigits (digits (n + 1) ++ []) = (digits (n + 1), []) :=
      takeDigits_append (fun _ => isDigit_of_mem_digits) stopsDigits_nil
    rw [List.append_nil] at run
    have text : (exponentText (.negSucc n)).toList = 'e' :: '-' :: digits (n + 1) := by
      simp [exponentText]
    rw [text]
    simp only [exponentPart?, signedDigits?, run]
    cases parts : digits (n + 1) with
    | nil => exact absurd parts (digits_ne_nil (n + 1))
    | cons c cs =>
      simp only [← parts, digitsValue_digits]
      rfl

/-! ## Texts of decimals -/

/-- Whether a text is a literal with a point or an exponent that denotes a
rational number. -/
def Denotes (cs : List Char) (negative : Bool) (q : ℚ) : Prop :=
  ∃ l, Literal.ofChars? cs = some l ∧ l.negative = negative ∧ l.isWhole = false ∧
    (l.coefficient : ℚ) * 10 ^ l.scale = q

/-- The sign of a number. -/
def signChars (negative : Bool) : List Char := if negative then ['-'] else []

theorem ofChars?_sign (negative : Bool) {c : Char} (digit : c.isDigit = true) (cs : List Char) :
    Literal.ofChars? (signChars negative ++ c :: cs) =
      (do
        let (whole, afterWhole) ← wholeDigits? (c :: cs)
        let (places, afterPlaces) ← placeDigits? afterWhole
        let exponent ← exponentPart? afterPlaces
        return { negative, whole, places, exponent }) := by
  cases negative with
  | true => rfl
  | false =>
    have unsigned : c ≠ '-' := by
      rintro rfl
      cases digit
    simp only [signChars, Literal.ofChars?]
    split
    · rename_i same
      cases same
      exact absurd rfl unsigned
    · rfl

/-- A number with a point and no exponent. -/
theorem denotes_point (negative : Bool) (ds fs : List Char) (whole : ∀ c ∈ ds, c.isDigit = true)
    (places : ∀ c ∈ fs, c.isDigit = true) (givenWhole : ds ≠ []) (givenPlaces : fs ≠ [])
    (leading : ds.head? = some '0' → ds = ['0']) :
    Denotes (signChars negative ++ (ds ++ '.' :: fs)) negative
      (digitsValue (ds ++ fs) * 10 ^ (-fs.length : Int)) := by
  have first := wholeDigits?_append whole (stopsDigits_cons (c := '.') rfl fs) givenWhole leading
  have second := placeDigits?_point places stopsDigits_nil givenPlaces
  rw [List.append_nil] at second
  cases ds with
  | nil => exact absurd rfl givenWhole
  | cons c cs =>
    rw [List.cons_append] at first
    rw [Denotes, List.cons_append, ofChars?_sign negative (whole c List.mem_cons_self), first]
    simp only [Option.bind_eq_bind, Option.bind_some, second]
    refine ⟨_, rfl, rfl, ?_, ?_⟩
    · simp [Literal.isWhole, List.isEmpty_eq_false_iff.mpr givenPlaces]
    · simp [Literal.coefficient, Literal.scale]

/-- A number with an exponent, which has a point if it has several digits. -/
theorem denotes_exponent (negative : Bool) {c : Char} {cs : List Char} (digit : c.isDigit = true)
    (places : ∀ d ∈ cs, d.isDigit = true) (e : Int) :
    Denotes (signChars negative ++ ((if cs.isEmpty then [c] else c :: '.' :: cs)
        ++ (exponentText e).toList)) negative
      (digitsValue (c :: cs) * 10 ^ (e - cs.length)) := by
  -- The letter ends the digits before it.
  have letter : ∃ rest, (exponentText e).toList = 'e' :: rest := by
    cases e <;> simp [exponentText]
  obtain ⟨rest, text⟩ := letter
  have last := exponentPart?_exponentText e
  have single : ∀ d ∈ [c], d.isDigit = true := by
    intro d member
    rw [List.mem_singleton.mp member]
    exact digit
  rw [text] at last ⊢
  cases cs with
  | nil =>
    have first := wholeDigits?_append single (stopsDigits_cons (c := 'e') rfl rest)
      (List.cons_ne_nil c []) (fun zero => by cases zero; rfl)
    have second : placeDigits? ('e' :: rest) = some ([], 'e' :: rest) := rfl
    rw [List.cons_append, List.nil_append] at first
    rw [Denotes, List.isEmpty_nil, if_pos rfl, List.cons_append, List.nil_append,
      ofChars?_sign negative digit, first]
    simp only [Option.bind_eq_bind, Option.bind_some, second, last]
    exact ⟨_, rfl, rfl, rfl, rfl⟩
  | cons d ds =>
    have first := wholeDigits?_append single
      (stopsDigits_cons (c := '.') rfl (d :: ds ++ 'e' :: rest)) (List.cons_ne_nil c [])
      (fun zero => by cases zero; rfl)
    have second := placeDigits?_point places (stopsDigits_cons (c := 'e') rfl rest)
      (List.cons_ne_nil d ds)
    rw [List.cons_append, List.nil_append] at first
    rw [Denotes, List.isEmpty_cons, if_neg (by decide), List.cons_append, List.cons_append,
      ofChars?_sign negative digit, first]
    simp only [Option.bind_eq_bind, Option.bind_some, second, last]
    exact ⟨_, rfl, rfl, rfl, rfl⟩

/-- A number without point and exponent. -/
theorem ofChars?_digits (negative : Bool) (n : Nat) :
    Literal.ofChars? (signChars negative ++ digits n) = some ⟨negative, digits n, [], none⟩ := by
  have run : ∀ c ∈ digits n, c.isDigit = true := fun _ => isDigit_of_mem_digits
  have first := wholeDigits?_append run stopsDigits_nil (digits_ne_nil n) (by
    intro start
    rcases Nat.eq_zero_or_pos n with rfl | positive
    · rfl
    · cases parts : digits n with
      | nil => exact absurd parts (digits_ne_nil n)
      | cons c cs =>
        rw [parts] at start
        cases start
        exact absurd rfl (head_digits_ne_zero positive parts))
  rw [List.append_nil] at first
  cases parts : digits n with
  | nil => exact absurd parts (digits_ne_nil n)
  | cons c cs =>
    rw [parts] at first run
    rw [ofChars?_sign negative (run c List.mem_cons_self), first]
    rfl

/-! ## Texts of doubles -/

theorem toList_sign (negative : Bool) :
    (if negative then "-" else "").toList = signChars negative := by
  cases negative <;> rfl

section Positions

variable (negative : Bool) {cs : List Char} (run : ∀ c ∈ cs, c.isDigit = true)
include run

/-- Zeros after the digits stand for a power of ten. -/
theorem denotes_zeros_after (given : cs ≠ []) (leading : cs.head? ≠ some '0') (e : Nat) :
    Denotes (signChars negative ++ (cs ++ List.replicate e '0' ++ ['.', '0'])) negative
      (digitsValue cs * 10 ^ (e : Int)) := by
  have literal := denotes_point negative (cs ++ List.replicate e '0') ['0']
    (fun c member => (List.mem_append.mp member).elim (run c) (isDigit_of_mem_zeros e c))
    (isDigit_of_mem_zeros 1) (by simp [given]) (by simp)
    (fun start => absurd (by rwa [List.head?_append_of_ne_nil _ given] at start) leading)
  have value : (digitsValue (cs ++ List.replicate e '0' ++ ['0']) : ℚ)
      * 10 ^ (-['0'].length : Int) = digitsValue cs * 10 ^ (e : Int) := by
    have zero : digitsValue ['0'] = 0 := rfl
    rw [digitsValue_append, digitsValue_append, digitsValue_replicate_zero, zero,
      List.length_replicate]
    simp only [List.length_singleton, zpow_natCast]
    push_cast
    norm_num
    ring
  rw [value] at literal
  exact literal

/-- A point among the digits. -/
theorem denotes_point_among (leading : cs.head? ≠ some '0') {places : Nat} (some : 0 < places)
    (inside : places < cs.length) :
    Denotes (signChars negative
        ++ (cs.take (cs.length - places) ++ '.' :: cs.drop (cs.length - places))) negative
      (digitsValue cs * 10 ^ (-places : Int)) := by
  have literal := denotes_point negative (cs.take (cs.length - places))
    (cs.drop (cs.length - places))
    (fun c member => run c (List.mem_of_mem_take member))
    (fun c member => run c (List.mem_of_mem_drop member))
    (by rw [← List.length_pos_iff, List.length_take]; omega)
    (by rw [← List.length_pos_iff, List.length_drop]; omega)
    (fun start => absurd (by rwa [List.head?_take, if_neg (by omega)] at start) leading)
  have length : (cs.drop (cs.length - places)).length = places := by
    rw [List.length_drop]
    omega
  rw [List.take_append_drop, length] at literal
  exact literal

/-- Zeros between the point and the digits. -/
theorem denotes_zeros_before (given : cs ≠ []) {places : Nat} (outside : cs.length ≤ places) :
    Denotes (signChars negative
        ++ (['0'] ++ '.' :: (List.replicate (places - cs.length) '0' ++ cs))) negative
      (digitsValue cs * 10 ^ (-places : Int)) := by
  have literal := denotes_point negative ['0'] (List.replicate (places - cs.length) '0' ++ cs)
    (isDigit_of_mem_zeros 1)
    (fun c member => (List.mem_append.mp member).elim (isDigit_of_mem_zeros _ c) (run c))
    (by simp) (by simp [given]) (fun _ => rfl)
  have zero : digitsValue ['0'] = 0 := rfl
  have value : digitsValue (['0'] ++ (List.replicate (places - cs.length) '0' ++ cs))
      = digitsValue cs := by
    rw [digitsValue_append, digitsValue_append, digitsValue_replicate_zero, zero, Nat.zero_mul,
      Nat.zero_mul, Nat.zero_add, Nat.zero_add]
  have length : (List.replicate (places - cs.length) '0' ++ cs).length = places := by
    rw [List.length_append, List.length_replicate, Nat.sub_add_cancel outside]
  rw [value, length] at literal
  exact literal

end Positions

theorem denotes_positionalText (negative : Bool) {layout : Layout} (point : layout.wholeEnd = ".0")
    {d : Scientific} (positive : 0 < d.coefficient) :
    Denotes (signChars negative ++ (positionalText layout d).toList) negative d.value := by
  have run : ∀ c ∈ digits d.coefficient, c.isDigit = true := fun _ => isDigit_of_mem_digits
  have given := digits_ne_nil d.coefficient
  have leading : (digits d.coefficient).head? ≠ some '0' := by
    intro start
    cases parts : digits d.coefficient with
    | nil => exact given parts
    | cons c cs =>
      rw [parts] at start
      cases start
      exact head_digits_ne_zero positive parts rfl
  rw [positionalText, Scientific.value, ← digitsValue_digits d.coefficient]
  cases d.exponent with
  | ofNat e =>
    -- A whole number is written with a point and a zero behind it.
    have literal := denotes_zeros_after negative run given leading e
    have text :
        (String.ofList (digits d.coefficient ++ List.replicate e '0') ++ layout.wholeEnd).toList
          = digits d.coefficient ++ List.replicate e '0' ++ ['.', '0'] := by
      rw [point]
      simp
    simp only [digitsValue_digits] at literal ⊢
    rw [text]
    exact literal
  | negSucc e =>
    simp only [digitsValue_digits]
    split
    · rename_i inside
      have literal := denotes_point_among negative run leading (Nat.succ_pos e) inside
      rw [digitsValue_digits] at literal
      simp only [String.toList_append, String.toList_ofList, List.append_assoc]
      exact literal
    · rename_i outside
      have literal := denotes_zeros_before negative run given (Nat.le_of_not_lt outside)
      rw [digitsValue_digits] at literal
      simp only [String.toList_append, String.toList_ofList]
      exact literal

theorem denotes_exponentialText (negative : Bool) (d : Scientific) :
    Denotes (signChars negative ++ (exponentialText d).toList) negative d.value := by
  rw [exponentialText]
  cases parts : digits d.coefficient with
  | nil => exact absurd parts (digits_ne_nil d.coefficient)
  | cons c cs =>
    have run : ∀ x ∈ c :: cs, x.isDigit = true := by
      intro x member
      rw [← parts] at member
      exact isDigit_of_mem_digits member
    have literal := denotes_exponent negative (run c List.mem_cons_self)
      (fun x member => run x (List.mem_cons_of_mem c member)) (d.exponent + cs.length)
    have value : (digitsValue (c :: cs) : ℚ) * 10 ^ (d.exponent + cs.length - cs.length : Int)
        = d.value := by
      rw [← parts, digitsValue_digits, add_sub_cancel_right]
      rfl
    rw [value] at literal
    simp only [String.toList_append, String.toList_ofList]
    exact literal

theorem denotes_magnitudeText (negative : Bool) {layout : Layout} (point : layout.wholeEnd = ".0")
    {d : Scientific} (positive : 0 < d.coefficient) :
    Denotes (signChars negative ++ (layout.magnitudeText d).toList) negative d.value := by
  rw [Layout.magnitudeText]
  split
  · exact denotes_positionalText negative point positive
  · exact denotes_exponentialText negative d

/-- The text of a finite double with a point behind whole numbers is read as this double. -/
theorem exists_literal_text {layout : Layout} (point : layout.wholeEnd = ".0") {x : Float}
    (finite : isFinite x = true) :
    ∃ l, Literal.ofChars? (layout.text x).toList = some l ∧ l.isWhole = false ∧ l.toFloat = x := by
  cases parts : Double.ofFloat x with
  | notANumber => simp [isFinite, parts] at finite
  | infinite negative => simp [isFinite, parts] at finite
  | finite negative c e =>
    obtain ⟨double, bits⟩ := ofFloat_eq_finite parts
    have back : Float.ofBits (UInt64.ofNat x.toBits.toNat) = x := by
      rw [UInt64.ofNat_toNat, ofBits_toBits finite]
    rw [Layout.text, parts]
    rcases double with double | ⟨zero, least⟩
    · -- What is written is near the double, whatever the layout, and so it is read as the double.
      have near := isNear_shortest layout.tie double.positive double.short e
      obtain ⟨l, read, sign, whole, value⟩ := denotes_magnitudeText negative point
        (coefficient_shortest_pos layout.tie double.positive double.short e)
      rw [← value] at near
      refine ⟨l, ?_, whole, ?_⟩
      · simp only [if_neg double.positive.ne']
        rw [String.toList_append, toList_sign]
        exact read
      · rw [Literal.toFloat, sign, nearest_eq negative double near, ← bits, back]
    · -- Zero keeps its sign.
      have nothing : doubleBits c e = 0 := by
        rw [zero, least, doubleBits, Int.sub_self]
        rfl
      have text : ((if negative then "-" else "") ++ "0" ++ layout.wholeEnd).toList
          = signChars negative ++ '0' :: ['.', '0'] := by
        rw [String.toList_append, String.toList_append, toList_sign, point, List.append_assoc]
        rfl
      refine ⟨⟨negative, ['0'], ['0'], none⟩, ?_, rfl, ?_⟩
      · simp only [if_pos zero]
        rw [text, ofChars?_sign negative rfl]
        rfl
      · rw [nothing] at bits
        have none : Literal.coefficient ⟨negative, ['0'], ['0'], .none⟩ = 0 := rfl
        rw [Literal.toFloat, none, nearest_zero, ← bits, back]

end DesignTokens.Decimal
