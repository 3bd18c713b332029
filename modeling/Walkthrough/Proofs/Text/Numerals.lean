import Mathlib.Data.List.Induction
import Mathlib.Data.List.TakeWhile
import Mathlib.Data.Nat.Digits.Defs
import Walkthrough.Text.Blank
import Walkthrough.Text.Digit

/-!
# Numerals

`Text.Numeral` is a whole number as it is written, in decimal digits of any script after at most one
minus sign; its value is that of its digits in base ten. A text is one numeral at most
(`Numeral.Spells.unique`).

`Text.LooksWhole` is wider: any number of minus signs, and after them characters that stand for a
digit, such as superscripts. `readInt` gives the number of a numeral that is not too long
(`readInt_of_spells`), and refuses what only looks like one (`readInt_of_unspelled`).
-/

namespace Walkthrough

namespace Text

/-! ## Numerals -/

/-- A whole number as it is written. -/
structure Numeral where
  negative : Bool
  /-- The values of the digits, the most significant one first. -/
  digits : List Nat
  digits_ne_nil : digits ≠ []

namespace Numeral

/-- The number that the digits make in base ten. -/
def magnitude (n : Numeral) : Nat := Nat.ofDigits 10 n.digits.reverse

/-- The number that is written. -/
def value (n : Numeral) : Int := if n.negative then -(n.magnitude : Int) else n.magnitude

/-- A text is the numeral: a minus sign if it is negative, and its digits in any script. -/
def Spells (n : Numeral) (cs : List Char) : Prop :=
  ∃ body, cs = (if n.negative then '-' :: body else body) ∧
    body.map digitValue? = n.digits.map some

end Numeral

/-- Minus signs, and after them characters that stand for a digit. -/
def LooksWhole (cs : List Char) : Prop :=
  ∃ signs digits, cs = List.replicate signs '-' ++ digits ∧ digits ≠ [] ∧
    ∀ c ∈ digits, isDigit c = true

/-! ## Reading -/

/-- The value of some digits, the first of them counting most. -/
theorem ofDigits_eq (ds : List Nat) : ofDigits ds = Nat.ofDigits 10 ds.reverse := by
  induction ds using List.reverseRecOn with
  | nil => rfl
  | append_singleton ds d ih =>
    have hstep : ofDigits (ds ++ [d]) = 10 * ofDigits ds + d := by simp [ofDigits]
    rw [hstep, ih, List.reverse_append, List.reverse_singleton, List.singleton_append,
      Nat.ofDigits_cons]
    exact Nat.add_comm ..

/-- What has a value as a digit is a digit. -/
theorem isDigit_of_digitValue? {c : Char} {d : Nat} (h : digitValue? c = some d) :
    isDigit c = true := by
  simp [isDigit, h]

/-- Digits without underscores are read one by one. -/
theorem digitRun_eq_some_iff {cs : List Char} (h : '_' ∉ cs) {ds : List Nat} :
    digitRun true cs = some ds ↔ cs.map digitValue? = ds.map some := by
  induction cs generalizing ds with
  | nil =>
    cases ds <;> simp [digitRun]
  | cons c cs ih =>
    have hc : c ≠ '_' := fun e => h (e ▸ List.mem_cons_self)
    have hcs : '_' ∉ cs := fun hmem => h (List.mem_cons_of_mem c hmem)
    simp only [digitRun, if_neg hc, List.map_cons]
    cases hd : digitValue? c with
    | none => cases ds <;> simp
    | some d =>
      cases ds with
      | nil => simp
      | cons e es =>
        simp [← ih hcs, and_comm]

/-- Where no underscores stand, it does not matter whether one may come first. -/
theorem digitRun_false {cs : List Char} (h : '_' ∉ cs) (hne : cs ≠ []) :
    digitRun false cs = digitRun true cs := by
  cases cs with
  | nil => exact absurd rfl hne
  | cons c cs =>
    have hc : c ≠ '_' := fun e => h (e ▸ List.mem_cons_self)
    simp only [digitRun, if_neg hc]

/-- Whether a text looks like a whole number can be computed. -/
theorem looksWhole_iff {cs : List Char} :
    LooksWhole cs ↔
      (!(cs.dropWhile (· = '-')).isEmpty && (cs.dropWhile (· = '-')).all isDigit) = true := by
  constructor
  · rintro ⟨signs, digits, rfl, hne, hdigits⟩
    obtain ⟨d, ds, rfl⟩ := List.exists_cons_of_ne_nil hne
    have hd : d ≠ '-' := by
      rintro rfl
      cases hdigits '-' List.mem_cons_self
    have hdrop : (List.replicate signs '-' ++ d :: ds).dropWhile (· = '-') = d :: ds := by
      rw [List.dropWhile_append_of_pos fun c hc => by simp [List.eq_of_mem_replicate hc]]
      simp [hd]
    rw [hdrop]
    simpa using hdigits
  · intro h
    rw [Bool.and_eq_true] at h
    refine ⟨(cs.takeWhile (· = '-')).length, cs.dropWhile (· = '-'), ?_, ?_, ?_⟩
    · have hsigns : cs.takeWhile (· = '-') =
          List.replicate (cs.takeWhile (· = '-')).length '-' := by
        refine List.eq_replicate_of_mem fun c hc => ?_
        simpa using List.mem_takeWhile_imp hc
      rw [← hsigns, List.takeWhile_append_dropWhile]
    · simpa using h.1
    · exact List.all_eq_true.mp h.2

/-! ### Stripping -/

/-- A text that does not begin with a blank loses nothing. -/
theorem dropBlanks_eq_self {cs : List Char} (h : ∀ c, cs.head? = some c → isBlank c = false) :
    dropBlanks cs = cs := by
  cases cs with
  | nil => rfl
  | cons c cs => simp [dropBlanks, h c rfl]

/-- A stripped text has no blank in front. -/
theorem head_stripChars {cs : List Char} {c : Char} (h : (stripChars cs).head? = some c) :
    isBlank c = false := by
  -- what is dropped at the end stands behind the rest of the text
  have hends : dropBlanks cs =
      stripChars cs ++ ((dropBlanks cs).reverse.takeWhile isBlank).reverse := by
    rw [stripChars, ← List.reverse_append]
    exact List.reverse_eq_iff.mp List.takeWhile_append_dropWhile.symm
  have hhead : (dropBlanks cs).head? = some c := by
    rw [hends, List.head?_append, h]
    rfl
  exact head_dropBlanks hhead

/-- Stripping twice is stripping once. -/
theorem stripChars_stripChars (cs : List Char) : stripChars (stripChars cs) = stripChars cs := by
  have hfront : dropBlanks (stripChars cs) = stripChars cs :=
    dropBlanks_eq_self fun _ h => head_stripChars h
  have hback : dropBlanks (stripChars cs).reverse = (stripChars cs).reverse := by
    refine dropBlanks_eq_self fun c h => ?_
    rw [stripChars, List.reverse_reverse] at h
    exact head_dropBlanks h
  conv_lhs => rw [stripChars]
  rw [hfront, hback, List.reverse_reverse]

/-! ### Texts that look like numbers -/

/-- Where all characters are digits, there is no other one. -/
theorem not_mem_of_isDigit {cs : List Char} (h : ∀ c ∈ cs, isDigit c = true) {c : Char}
    (hc : isDigit c = false) : c ∉ cs := by
  intro hmem
  rw [h c hmem] at hc
  cases hc

/-- Characters that have values as digits are digits. -/
theorem isDigit_of_map_digitValue? {cs : List Char} {ds : List Nat}
    (h : cs.map digitValue? = ds.map some) : ∀ c ∈ cs, isDigit c = true := by
  intro c hc
  have hmem : digitValue? c ∈ ds.map some := h ▸ List.mem_map_of_mem hc
  obtain ⟨d, -, hd⟩ := List.mem_map.mp hmem
  exact isDigit_of_digitValue? hd.symm

namespace Numeral

variable {n : Numeral} {body : List Char}

/-- A numeral has a digit. -/
theorem body_ne_nil (h : body.map digitValue? = n.digits.map some) : body ≠ [] := by
  rintro rfl
  exact n.digits_ne_nil (List.map_eq_nil_iff.mp h.symm)

/-- A numeral looks like a number. -/
theorem Spells.looksWhole {cs : List Char} (h : n.Spells cs) : LooksWhole cs := by
  obtain ⟨body, hcs, hbody⟩ := h
  refine ⟨if n.negative then 1 else 0, body, ?_, body_ne_nil hbody,
    isDigit_of_map_digitValue? hbody⟩
  rw [hcs]
  cases n.negative <;> rfl

end Numeral

/-- The digits of a text after its sign, if it has one. -/
def unsigned : List Char → Bool × List Char
  | '-' :: cs => (true, cs)
  | '+' :: cs => (false, cs)
  | cs => (false, cs)

/-- Digits alone have no sign. -/
theorem unsigned_of_isDigit {cs : List Char} (h : ∀ c ∈ cs, isDigit c = true) :
    unsigned cs = (false, cs) := by
  unfold unsigned
  split
  · cases h '-' List.mem_cons_self
  · cases h '+' List.mem_cons_self
  · rfl

namespace Numeral

/-- The sign and the digits of a numeral are those of its text. -/
theorem Spells.unsigned_eq {n : Numeral} {cs : List Char} (h : n.Spells cs) :
    (unsigned cs).1 = n.negative ∧ (unsigned cs).2.map digitValue? = n.digits.map some ∧
      (unsigned cs).2 ≠ [] := by
  obtain ⟨body, hcs, hbody⟩ := h
  have hunsigned : unsigned cs = (n.negative, body) := by
    rw [hcs]
    cases n.negative with
    | true => rfl
    | false => exact unsigned_of_isDigit (isDigit_of_map_digitValue? hbody)
  rw [hunsigned]
  exact ⟨rfl, hbody, body_ne_nil hbody⟩

/-- A text is one numeral at most. -/
theorem Spells.unique {m n : Numeral} {cs : List Char} (hm : m.Spells cs) (hn : n.Spells cs) :
    m = n := by
  obtain ⟨hmsign, hmdigits, -⟩ := hm.unsigned_eq
  obtain ⟨hnsign, hndigits, -⟩ := hn.unsigned_eq
  have hdigits : m.digits = n.digits :=
    (List.map_inj_right fun _ _ => Option.some.inj).mp (hmdigits.symm.trans hndigits)
  have hsign : m.negative = n.negative := hmsign.symm.trans hnsign
  cases m
  cases n
  cases hdigits
  cases hsign
  rfl

end Numeral

/-- What is read of a text without blanks around it. -/
theorem readInt_of_stripped {cs : List Char} (h : stripChars cs = cs) :
    readInt (String.ofList cs) =
      match digitRun false (unsigned cs).2 with
      | none => .error (.malformed (String.ofList cs))
      | some ds =>
        if ds.length > digitLimit then .error (.tooLong ds.length)
        else .ok (if (unsigned cs).1 then -(ofDigits ds : Int) else ofDigits ds) := by
  simp only [readInt, String.toList_ofList, h]
  rfl

/-- A numeral is read as its number, unless it has too many digits. -/
theorem readInt_of_spells {n : Numeral} {cs : List Char} (hstrip : stripChars cs = cs)
    (h : n.Spells cs) :
    readInt (String.ofList cs) =
      if n.digits.length > digitLimit then .error (.tooLong n.digits.length)
      else .ok n.value := by
  obtain ⟨hsign, hdigits, hne⟩ := h.unsigned_eq
  have hunder : '_' ∉ (unsigned cs).2 :=
    not_mem_of_isDigit (isDigit_of_map_digitValue? hdigits) rfl
  have hrun : digitRun false (unsigned cs).2 = some n.digits := by
    rw [digitRun_false hunder hne]
    exact (digitRun_eq_some_iff hunder).mpr hdigits
  rw [readInt_of_stripped hstrip, hrun, hsign]
  simp only [ofDigits_eq, Numeral.value, Numeral.magnitude]

/-- Two minus signs are no sign and no digits. -/
theorem digitRun_minus (cs : List Char) : digitRun false ('-' :: cs) = none := rfl

/-- What looks like a number and is no numeral cannot be read. -/
theorem readInt_of_unspelled {cs : List Char} (hstrip : stripChars cs = cs) (h : LooksWhole cs)
    (hnone : ∀ n : Numeral, ¬n.Spells cs) :
    readInt (String.ofList cs) = .error (.malformed (String.ofList cs)) := by
  obtain ⟨signs, digits, hcs, hne, hdigits⟩ := h
  have hunder : '_' ∉ digits := not_mem_of_isDigit hdigits rfl
  -- with one minus sign at most, digits that can be read would make it a numeral
  have hunread (negative : Bool) (hsign : cs = if negative then '-' :: digits else digits) :
      digitRun false digits = none := by
    rw [digitRun_false hunder hne]
    by_contra hsome
    obtain ⟨ds, hds⟩ := Option.ne_none_iff_exists'.mp hsome
    rw [digitRun_eq_some_iff hunder] at hds
    have hdsne : ds ≠ [] := by
      rintro rfl
      exact hne (List.map_eq_nil_iff.mp hds)
    exact hnone ⟨negative, ds, hdsne⟩ ⟨digits, hsign, hds⟩
  have hrun : digitRun false (unsigned cs).2 = none := by
    match signs, hcs with
    | 0, hcs =>
      have hcs : cs = digits := hcs
      rw [hcs, unsigned_of_isDigit hdigits]
      exact hunread false hcs
    | 1, hcs =>
      rw [hcs]
      exact hunread true hcs
    | k + 2, hcs =>
      rw [hcs]
      exact digitRun_minus _
  rw [readInt_of_stripped hstrip, hrun]

end Text

end Walkthrough
