import DesignTokens.Json.Lexeme
import DesignTokens.Json.Writer
import DesignTokens.Proofs.Decimal.Literal

/-!
# Scanning

A word or a number only ends with the character behind it, so a scanner that
has gone over one may still be inside it.  `Scans` allows for this, and
`Closes` does not.
-/

namespace DesignTokens.Json

/-! ## Characters of numbers -/

theorem isNumberChar_of_isDigit {c : Char} (digit : c.isDigit = true) : isNumberChar c = true := by
  rw [isNumberChar, digit]
  rfl

theorem numberChars_of_takeDigits {cs ds rest : List Char}
    (taken : Decimal.takeDigits cs = (ds, rest)) :
    cs = ds ++ rest ∧ ∀ c ∈ ds, isNumberChar c = true := by
  cases taken
  exact ⟨List.takeWhile_append_dropWhile.symm,
    fun c member => isNumberChar_of_isDigit (List.mem_takeWhile_imp member)⟩

theorem numberChars_of_wholeDigits? {cs ds rest : List Char}
    (read : Decimal.wholeDigits? cs = some (ds, rest)) :
    cs = ds ++ rest ∧ ds ≠ [] ∧ ∀ c ∈ ds, isNumberChar c = true := by
  unfold Decimal.wholeDigits? at read
  split at read
  · cases read
  · cases read
  · rename_i nonempty _
    have taken : Decimal.takeDigits cs = (ds, rest) := Option.some.inj read
    obtain ⟨parts, chars⟩ := numberChars_of_takeDigits taken
    exact ⟨parts, fun none => nonempty rest (by rw [taken, none]), chars⟩

theorem numberChars_of_placeDigits? {cs fs rest : List Char}
    (read : Decimal.placeDigits? cs = some (fs, rest)) :
    ∃ part, cs = part ++ rest ∧ ∀ c ∈ part, isNumberChar c = true := by
  unfold Decimal.placeDigits? at read
  split at read
  · split at read
    · cases read
    · have taken := Option.some.inj read
      obtain ⟨parts, chars⟩ := numberChars_of_takeDigits taken
      refine ⟨'.' :: fs, by rw [parts]; rfl, fun c member => ?_⟩
      rcases List.mem_cons.mp member with rfl | later
      · rfl
      · exact chars c later
  · cases read
    exact ⟨[], rfl, by simp⟩

theorem numberChars_of_signedDigits? {cs : List Char} {e : Int}
    (read : Decimal.signedDigits? cs = some e) : ∀ c ∈ cs, isNumberChar c = true := by
  unfold Decimal.signedDigits? at read
  split at read
  rename_i negative ds sign
  have rest : ∀ c ∈ ds, isNumberChar c = true := by
    split at read
    · cases read
    · rename_i taken
      obtain ⟨parts, chars⟩ := numberChars_of_takeDigits taken
      rw [List.append_nil] at parts
      rwa [parts]
    · cases read
  split at sign
  · cases sign
    exact List.forall_mem_cons.mpr ⟨rfl, rest⟩
  · cases sign
    exact List.forall_mem_cons.mpr ⟨rfl, rest⟩
  · cases sign
    exact rest

theorem numberChars_of_exponentPart? {cs : List Char} {e : Option Int}
    (read : Decimal.exponentPart? cs = some e) : ∀ c ∈ cs, isNumberChar c = true := by
  unfold Decimal.exponentPart? at read
  split at read
  · simp
  · split at read
    · rename_i letter
      obtain ⟨_, digits, _⟩ := Option.map_eq_some_iff.mp read
      refine List.forall_mem_cons.mpr ⟨?_, numberChars_of_signedDigits? digits⟩
      simp only [Bool.or_eq_true, decide_eq_true_eq] at letter
      rcases letter with rfl | rfl <;> rfl
    · cases read

theorem isDigit_head_of_wholeDigits? {c : Char} {cs ds rest : List Char}
    (read : Decimal.wholeDigits? cs = some (c :: ds, rest)) : c.isDigit = true := by
  unfold Decimal.wholeDigits? at read
  split at read
  · cases read
  · cases read
  · have taken : (cs.takeWhile Char.isDigit, _) = _ := Option.some.inj read
    have member : c ∈ cs.takeWhile Char.isDigit := by
      rw [(Prod.mk.inj taken).1]
      exact List.mem_cons_self
    exact List.mem_takeWhile_imp member

/-- A number literal starts with a sign or a digit, and all its characters are characters of
numbers. -/
theorem numberChars_of_ofChars? {cs : List Char} {l : Decimal.Literal}
    (read : Decimal.Literal.ofChars? cs = some l) :
    (∃ c rest, cs = c :: rest ∧ (c.isDigit || c == '-') = true) ∧
      ∀ c ∈ cs, isNumberChar c = true := by
  unfold Decimal.Literal.ofChars? at read
  split at read
  rename_i negative unsigned sign
  obtain ⟨⟨ds, afterWhole⟩, whole, read⟩ := Option.bind_eq_some_iff.mp read
  obtain ⟨⟨fs, afterPlaces⟩, places, read⟩ := Option.bind_eq_some_iff.mp read
  obtain ⟨e, exponent, _⟩ := Option.bind_eq_some_iff.mp read
  obtain ⟨wholeParts, given, wholeChars⟩ := numberChars_of_wholeDigits? whole
  obtain ⟨part, placeParts, placeChars⟩ := numberChars_of_placeDigits? places
  have unsignedChars : ∀ c ∈ unsigned, isNumberChar c = true := by
    intro c member
    rw [wholeParts, placeParts, List.mem_append, List.mem_append] at member
    rcases member with member | member | member
    · exact wholeChars c member
    · exact placeChars c member
    · exact numberChars_of_exponentPart? exponent c member
  -- Without a sign, the first character is the first digit.
  have start : ∃ c rest, unsigned = c :: rest ∧ c.isDigit = true := by
    cases ds with
    | nil => exact absurd rfl given
    | cons c cs => exact ⟨c, cs ++ afterWhole, wholeParts, isDigit_head_of_wholeDigits? whole⟩
  split at sign
  · cases sign
    exact ⟨⟨_, _, rfl, rfl⟩, List.forall_mem_cons.mpr ⟨rfl, unsignedChars⟩⟩
  · cases sign
    obtain ⟨c, rest, parts, digit⟩ := start
    exact ⟨⟨c, rest, parts, by rw [digit]; rfl⟩, unsignedChars⟩

/-! ## Scanning -/

/-- Goes over a text. -/
def scan (s : Scanner) (cs : List Char) : Option Scanner := cs.foldlM Scanner.step s

theorem scan_cons (s : Scanner) (c : Char) (cs : List Char) :
    scan s (c :: cs) = (s.step c).bind (scan · cs) := List.foldlM_cons

theorem scan_append (s : Scanner) (cs ds : List Char) :
    scan s (cs ++ ds) = (scan s cs).bind (scan · ds) := List.foldlM_append

/-- Characters that end a word and a number. -/
def Breaks (c : Char) : Prop := c.isLower = false ∧ isNumberChar c = false

/-- A scanner that has found the lexemes, or does so with the next character or the end. -/
structure Settles (s : Scanner) (found : List Lexeme) : Prop where
  finish : s.finish = some found.reverse
  step {c : Char} : Breaks c → s.step c = Scanner.start? found c

theorem settles_between (found : List Lexeme) : Settles ⟨found, .between⟩ found where
  finish := rfl
  step _ := rfl

theorem settles_inWord {found : List Lexeme} {seen : List Char} {l : Lexeme}
    (word : Lexeme.ofWord? seen.reverse = some l) : Settles ⟨found, .inWord seen⟩ (l :: found) where
  finish := by simp only [Scanner.finish, word, Option.map_some]
  step breaks := by
    simp only [Scanner.step, breaks.1, word]
    rfl

theorem settles_inNumber {found : List Lexeme} {seen : List Char} {l : Lexeme}
    (number : Lexeme.ofNumber? seen.reverse = some l) :
    Settles ⟨found, .inNumber seen⟩ (l :: found) where
  finish := by simp only [Scanner.finish, number, Option.map_some]
  step breaks := by
    simp only [Scanner.step, breaks.2, number]
    rfl

/-- A text that is cut into lexemes without being left open at its end. -/
def Closes (cs : List Char) (ls : List Lexeme) : Prop :=
  ∀ found, scan ⟨found, .between⟩ cs = some ⟨ls.reverse ++ found, .between⟩

/-- A text that is cut into lexemes once its end is known. -/
def Scans (cs : List Char) (ls : List Lexeme) : Prop :=
  ∀ found, ∃ s, scan ⟨found, .between⟩ cs = some s ∧ Settles s (ls.reverse ++ found)

theorem Closes.scans {cs : List Char} {ls : List Lexeme} (closes : Closes cs ls) : Scans cs ls :=
  fun found => ⟨_, closes found, settles_between _⟩

theorem Closes.append {cs ds : List Char} {ls ms : List Lexeme} (first : Closes cs ls)
    (second : Closes ds ms) : Closes (cs ++ ds) (ls ++ ms) := by
  intro found
  rw [scan_append, first found, Option.bind_some, second, List.reverse_append, List.append_assoc]

/-- A character that breaks off what is open is read as if nothing were open. -/
theorem scan_of_settles {s : Scanner} {found : List Lexeme} (settles : Settles s found) {c : Char}
    (breaks : Breaks c) (cs : List Char) : scan s (c :: cs) = scan ⟨found, .between⟩ (c :: cs) := by
  rw [scan_cons, scan_cons, settles.step breaks]
  rfl

/-- A text that closes, and whose first character breaks off what is open before it. -/
def Ends (cs : List Char) (ls : List Lexeme) : Prop :=
  (∃ c ds, cs = c :: ds ∧ Breaks c) ∧ Closes cs ls

theorem Ends.append {cs ds : List Char} {ls ms : List Lexeme} (first : Ends cs ls)
    (second : Closes ds ms) : Ends (cs ++ ds) (ls ++ ms) := by
  obtain ⟨⟨c, rest, rfl, breaks⟩, closes⟩ := first
  exact ⟨⟨c, rest ++ ds, rfl, breaks⟩, closes.append second⟩

theorem Scans.append_ends {cs ds : List Char} {ls ms : List Lexeme} (first : Scans cs ls)
    (second : Ends ds ms) : Closes (cs ++ ds) (ls ++ ms) := by
  obtain ⟨⟨c, rest, rfl, breaks⟩, closes⟩ := second
  intro found
  obtain ⟨s, run, settles⟩ := first found
  -- The first character of the second text finds the last lexeme of the first.
  rw [scan_append, run, Option.bind_some, scan_of_settles settles breaks, closes,
    List.reverse_append, List.append_assoc]

theorem lexemes?_of_scans {cs : List Char} {ls : List Lexeme} (scans : Scans cs ls) :
    lexemes? cs = some ls := by
  obtain ⟨s, run, settles⟩ := scans []
  rw [List.append_nil] at settles
  show (scan ⟨[], .between⟩ cs).bind Scanner.finish = some ls
  rw [run, Option.bind_some, settles.finish, List.reverse_reverse]

/-! ## Single lexemes -/

/-- A mark is neither a blank, a quote nor the start of anything longer. -/
theorem ends_mark {c : Char} {l : Lexeme} (mark : Lexeme.ofMark? c = some l) : Ends [c] [l] := by
  unfold Lexeme.ofMark? at mark
  split at mark <;> cases mark <;> exact ⟨⟨_, [], rfl, rfl, rfl⟩, fun _ => rfl⟩

/-- A scanner that is inside a number stays there as long as it goes on. -/
theorem scan_inNumber (found : List Lexeme) {ds : List Char} (seen : List Char)
    (more : ∀ d ∈ ds, isNumberChar d = true) :
    scan ⟨found, .inNumber seen⟩ ds = some ⟨found, .inNumber (ds.reverse ++ seen)⟩ := by
  induction ds generalizing seen with
  | nil => rfl
  | cons d ds ih =>
    obtain ⟨here, later⟩ := List.forall_mem_cons.mp more
    rw [scan_cons]
    simp only [Scanner.step, here, if_true, Option.bind_some]
    rw [ih _ later, List.reverse_cons, List.append_assoc]
    rfl

theorem isSpace_eq_false_of_isNumberChar {c : Char} (char : isNumberChar c = true) :
    isSpace c = false := by
  cases space : isSpace c with
  | false => rfl
  | true =>
    simp only [isSpace, Bool.or_eq_true, beq_iff_eq] at space
    rcases space with ((rfl | rfl) | rfl) | rfl <;> cases char

theorem scans_number {cs : List Char} {l : Lexeme} (number : Lexeme.ofNumber? cs = some l) :
    Scans cs [l] := by
  obtain ⟨literal, read, _⟩ := Option.map_eq_some_iff.mp number
  obtain ⟨⟨c, rest, rfl, start⟩, chars⟩ := numberChars_of_ofChars? read
  have first := chars c List.mem_cons_self
  have blank := isSpace_eq_false_of_isNumberChar first
  have quote : (c == '"') = false := by
    rw [beq_eq_false_iff_ne]
    rintro rfl
    cases first
  intro found
  refine ⟨⟨found, .inNumber (rest.reverse ++ [c])⟩, ?_, settles_inNumber ?_⟩
  · rw [scan_cons]
    simp only [Scanner.step, Scanner.start?, blank, quote, start, if_true, Bool.false_eq_true,
      if_false, Option.bind_some]
    exact scan_inNumber found [c] (fun d member => chars d (List.mem_cons_of_mem c member))
  · rw [← List.reverse_cons, List.reverse_reverse]
    exact number

theorem scans_word {cs : List Char} {l : Lexeme}
    (known : cs = ['n', 'u', 'l', 'l'] ∨ cs = ['t', 'r', 'u', 'e'] ∨ cs = ['f', 'a', 'l', 's', 'e'])
    (word : Lexeme.ofWord? cs = some l) : Scans cs [l] := by
  intro found
  refine ⟨⟨found, .inWord cs.reverse⟩, ?_, settles_inWord ?_⟩
  · rcases known with rfl | rfl | rfl <;> rfl
  · rw [List.reverse_reverse]
    exact word

/-! ## Strings -/

/-- A string in which nothing is wrong so far. -/
def soundQuoted (seen : List Char) : Quoted := ⟨seen, true, none⟩

theorem hexValue?_hexDigit : ∀ n < 16, hexValue? (hexDigit n) = some n := by decide

theorem pushUnit_of_lt {n : Nat} (small : n < 0x20) (seen : List Char) :
    (soundQuoted seen).pushUnit n = soundQuoted (Char.ofNat n :: seen) := by
  -- A small unit is no half of a pair.
  have low : (decide (0xDC00 ≤ n) && decide (n ≤ 0xDFFF)) = false := by
    rw [decide_eq_false (by omega), Bool.false_and]
  have high : (decide (0xD800 ≤ n) && decide (n ≤ 0xDBFF)) = false := by
    rw [decide_eq_false (by omega), Bool.false_and]
  simp only [Quoted.pushUnit, soundQuoted, low, high, Bool.false_eq_true, if_false]

/-- The four hexadecimal digits of a control character. -/
theorem scan_inUnit (found : List Lexeme) (seen : List Char) {c : Char}
    (control : c.toNat < 0x20) :
    scan ⟨found, .inUnit (soundQuoted seen) 4 0⟩
        ['0', '0', hexDigit (c.toNat / 16), hexDigit (c.toNat % 16)]
      = some ⟨found, .inString (soundQuoted (c :: seen))⟩ := by
  have first := hexValue?_hexDigit (c.toNat / 16) (by omega)
  have second := hexValue?_hexDigit (c.toNat % 16) (by omega)
  have zero : hexValue? '0' = some 0 := rfl
  have unit : 16 * (16 * (16 * (16 * 0 + 0) + 0) + c.toNat / 16) + c.toNat % 16 = c.toNat := by
    omega
  have back : Char.ofNat c.toNat = c := Char.ofNat_toNat c
  simp only [scan_cons, Scanner.step, zero, first, second, Option.map_some, Option.bind_some,
    Nat.reduceLeDiff, if_false, if_true, Nat.reduceSub, Nat.le_refl, unit, pushUnit_of_lt control,
    back]
  rfl

/-- The form of a character inside quotes is read as the character. -/
theorem scan_escapeChar (found : List Lexeme) (seen : List Char) (c : Char) :
    scan ⟨found, .inString (soundQuoted seen)⟩ (escapeChar c)
      = some ⟨found, .inString (soundQuoted (c :: seen))⟩ := by
  unfold escapeChar
  split
  · rfl
  · rfl
  · rfl
  · rfl
  · rfl
  · rfl
  · rfl
  · rename_i quote backslash _ _ _ _ _
    split
    · rename_i control
      exact scan_inUnit found seen control
    · rename_i visible
      -- Everything else stands for itself, which a quote or a backslash would not.
      have notQuote : (c == '"') = false := by
        rw [beq_eq_false_iff_ne]
        rintro rfl
        exact quote rfl
      have notBackslash : (c == '\\') = false := by
        rw [beq_eq_false_iff_ne]
        rintro rfl
        exact backslash rfl
      rw [scan_cons]
      simp only [Scanner.step, notQuote, notBackslash, visible, Bool.false_eq_true, if_false]
      rfl

theorem scan_escape (found : List Lexeme) (seen cs : List Char) :
    scan ⟨found, .inString (soundQuoted seen)⟩ (escape cs)
      = some ⟨found, .inString (soundQuoted (cs.reverse ++ seen))⟩ := by
  induction cs generalizing seen with
  | nil => rfl
  | cons c cs ih =>
    rw [escape, List.flatMap_cons, scan_append, scan_escapeChar, Option.bind_some, ← escape, ih,
      List.reverse_cons, List.append_assoc]
    rfl

/-- A string literal is read as the string. -/
theorem closes_quote (s : String) : Closes (quote s).toList [.str (some s)] := by
  intro found
  have text : (quote s).toList = '"' :: (escape s.toList ++ ['"']) := by simp [quote]
  have opens : (Scanner.mk found .between).step '"'
      = some ⟨found, .inString (soundQuoted [])⟩ := rfl
  have closes : (Scanner.mk found (.inString (soundQuoted (s.toList.reverse ++ [])))).step '"'
      = some ⟨.str (some s) :: found, .between⟩ := by
    have whole : (soundQuoted (s.toList.reverse ++ [])).close = some s := by
      simp [soundQuoted, Quoted.close]
    simp only [Scanner.step, whole]
    rfl
  rw [text, scan_cons, opens, Option.bind_some, scan_append, scan_escape, Option.bind_some,
    scan_cons, closes]
  rfl

end DesignTokens.Json
