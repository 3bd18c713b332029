/-!
# Blank characters

Which characters count as white space at the ends of a text and between the words of a text, and
the two operations that rest on it: `strip` drops the blanks at both ends, `words` cuts a text at
its runs of blanks.

`strip_eq_empty_iff` says that a text strips to nothing exactly when it holds blanks only, and
`wordsFrom_all_solid` that a word is never empty and never holds a blank.
-/

namespace Walkthrough.Text

/-- White space: the control characters from tab to carriage return and from file separator to unit
separator, next line, and the space separators and line separators of Unicode. -/
def isBlank (c : Char) : Bool :=
  let n := c.toNat
  (9 ≤ n && n ≤ 13) || (28 ≤ n && n ≤ 32) || n == 0x85 || n == 0xA0 || n == 0x1680 ||
    (0x2000 ≤ n && n ≤ 0x200A) || n == 0x2028 || n == 0x2029 || n == 0x202F || n == 0x205F ||
    n == 0x3000

/-- The characters without the blanks in front. -/
def dropBlanks (cs : List Char) : List Char := cs.dropWhile isBlank

/-- The characters without the blanks at both ends. -/
def stripChars (cs : List Char) : List Char := (dropBlanks (dropBlanks cs).reverse).reverse

/-- The text without the blanks at both ends. -/
def strip (s : String) : String := String.ofList (stripChars s.toList)

/-- A text is blank when nothing is left of it without its blanks. -/
def blank (s : String) : Bool := s.toList.all isBlank

/-- The runs of solid characters, where `word` holds the run under way in reverse. -/
def wordsFrom (word : List Char) : List Char → List (List Char)
  | [] => if word.isEmpty then [] else [word.reverse]
  | c :: cs =>
    if isBlank c then
      if word.isEmpty then wordsFrom [] cs else word.reverse :: wordsFrom [] cs
    else wordsFrom (c :: word) cs

/-- The words of a text: its maximal runs of characters that are not blank. -/
def words (s : String) : List String := (wordsFrom [] s.toList).map String.ofList

/-! ## Laws -/

theorem dropBlanks_eq_nil_iff {cs : List Char} : dropBlanks cs = [] ↔ cs.all isBlank = true := by
  induction cs with
  | nil => simp [dropBlanks]
  | cons c r ih => by_cases h : isBlank c = true <;> simp_all [dropBlanks]

/-- Dropping blanks leaves a text that does not start with one. -/
theorem head_dropBlanks {cs : List Char} {c : Char} (h : (dropBlanks cs).head? = some c) :
    isBlank c = false := by
  have := List.head?_dropWhile_not isBlank cs
  unfold dropBlanks at h
  rw [h] at this
  simpa using this

theorem stripChars_eq_nil_iff {cs : List Char} : stripChars cs = [] ↔ cs.all isBlank = true := by
  constructor
  · intro h
    have h₁ : (dropBlanks cs).reverse.all isBlank = true := by
      rw [← dropBlanks_eq_nil_iff]; simpa [stripChars] using h
    cases hd : dropBlanks cs with
    | nil => exact dropBlanks_eq_nil_iff.1 hd
    | cons c r =>
      have hc := @head_dropBlanks cs c (by simp [hd])
      rw [hd] at h₁
      simp [hc] at h₁
  · intro h
    rw [stripChars, dropBlanks_eq_nil_iff.2 h]
    rfl

/-- A text is blank exactly when it strips to nothing. -/
theorem strip_eq_empty_iff {s : String} : strip s = "" ↔ blank s = true := by
  unfold strip blank
  rw [← stripChars_eq_nil_iff]
  constructor
  · intro h
    have := congrArg String.toList h
    simpa using this
  · intro h
    simp [h]

/-- A word is never empty and never holds a blank. -/
theorem wordsFrom_all_solid {word cs : List Char} (hw : ∀ c ∈ word, isBlank c = false) :
    ∀ w ∈ wordsFrom word cs, w ≠ [] ∧ ∀ c ∈ w, isBlank c = false := by
  induction cs generalizing word with
  | nil =>
    intro w hmem
    cases word with
    | nil => simp [wordsFrom] at hmem
    | cons a t =>
      simp only [wordsFrom, List.isEmpty_cons, Bool.false_eq_true, if_false,
        List.mem_singleton] at hmem
      subst hmem
      refine ⟨by simp, fun c hc => hw c (List.mem_reverse.1 hc)⟩
  | cons a t ih =>
    intro w hmem
    by_cases ha : isBlank a = true
    · cases word with
      | nil =>
        simp only [wordsFrom, ha, if_true, List.isEmpty_nil] at hmem
        exact ih (by simp) w hmem
      | cons b u =>
        simp only [wordsFrom, ha, if_true, List.isEmpty_cons, Bool.false_eq_true, if_false,
          List.mem_cons] at hmem
        rcases hmem with rfl | hmem
        · refine ⟨by simp, fun c hc => hw c (List.mem_reverse.1 hc)⟩
        · exact ih (by simp) w hmem
    · simp only [wordsFrom, ha] at hmem
      refine ih (fun c hc => ?_) w hmem
      rcases List.mem_cons.1 hc with rfl | hc
      · simpa using ha
      · exact hw c hc

end Walkthrough.Text
