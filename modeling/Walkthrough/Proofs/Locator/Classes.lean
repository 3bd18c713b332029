import Walkthrough.Proofs.Locator.Css

/-!
# Classes in CSS selectors

How a selector is read that asks for classes: a full stop and a name, once for each class
(`Css.classes?`). A name is made of letters, digits, hyphens, underscores and characters beyond
ASCII, and it does not begin with a digit. A backslash escapes the character after it, or stands
for a character by its number, and then the character may be any.

A locator by class names writes each word of the value after a full stop and escapes nothing.
`Locator.className_reads` states what becomes of this for every value. The words come back exactly
when each of them is a name as it stands. A full stop inside a word is read as the beginning of
another class, and two values have one locator exactly when their words agree after they have been
cut at their full stops: `a.b` and `a b` (`Locator.className_reads_dotted`).
-/

namespace Walkthrough

namespace Css

open JsonText (hexValue?)

/-! ## Reading classes -/

/-- A character of a selector, and whether it was escaped. -/
inductive Symbol where
  | bare (c : Char)
  | escaped (c : Char)
  deriving DecidableEq, Repr

/-- The character that a symbol stands for. -/
def Symbol.char : Symbol → Char
  | bare c => c
  | escaped c => c

/-- A character after one that is complete. -/
def readPlain (c : Char) : List Symbol × Mode :=
  if c = '\\' then ([], .escape) else ([.bare c], .plain)

/-- The symbols that a character completes, where what it does is no mistake. -/
def read : Mode → Char → Option (List Symbol × Mode)
  | .plain, c => some (readPlain c)
  | .escape, c =>
    if c = '\n' then none
    else
      match hexValue? c with
      | some d => some ([], .code d 1)
      | none => some ([.escaped c], .plain)
  | .code n digits, c =>
    match hexValue? c with
    | some d =>
      if digits < 6 then some ([], .code (16 * n + d) (digits + 1))
      else some (.escaped (numbered n) :: (readPlain c).1, (readPlain c).2)
    | none =>
      if c = ' ' || c = '\t' || c = '\n' then some ([.escaped (numbered n)], .plain)
      else some (.escaped (numbered n) :: (readPlain c).1, (readPlain c).2)

/-- The symbols of a text. A backslash at its end stands for the replacement character. -/
def symbols : Mode → List Char → Option (List Symbol)
  | .plain, [] => some []
  | .escape, [] => some [.escaped '\ufffd']
  | .code n _, [] => some [.escaped (numbered n)]
  | m, c :: cs =>
    match read m c with
    | some (ss, m) => (symbols m cs).map (ss ++ ·)
    | none => none

/-- The characters that begin a name. -/
def isNameStart (c : Char) : Bool := c.isAlpha || c = '_' || 0x80 ≤ c.toNat

/-- The characters of a name. -/
def isNameChar (c : Char) : Bool := isNameStart c || c.isDigit || c = '-'

/-- A symbol that begins a name. -/
def Symbol.beginsName : Symbol → Bool
  | bare c => isNameStart c
  | escaped _ => true

/-- A symbol that belongs to a name. -/
def Symbol.inName : Symbol → Bool
  | bare c => isNameChar c
  | escaped _ => true

/-- Whether symbols begin as a name does. After a hyphen comes a beginning or another hyphen. -/
def opensName : List Symbol → Bool
  | .bare '-' :: s :: _ => s.beginsName || s = .bare '-'
  | s :: _ => s.beginsName
  | [] => false

/-- Whether symbols are a name. -/
def isName (ss : List Symbol) : Bool := opensName ss && ss.all Symbol.inName

/-- The classes that a selector asks for, where it asks for nothing else. -/
def classes? (cs : List Char) : Option (List (List Char)) :=
  match symbols .plain cs with
  | some (.bare '.' :: ss) =>
    if (ss.splitOn (.bare '.')).all isName then
      some ((ss.splitOn (.bare '.')).map (List.map Symbol.char))
    else none
  | _ => none

/-- Texts that are names as they stand, with nothing escaped. -/
def IsIdentifier (cs : List Char) : Prop := isName (cs.map .bare) = true

instance : DecidablePred IsIdentifier := fun _ => inferInstanceAs (Decidable (_ = true))

/-! ## Laws -/

/-- A selector of classes is a dot and names, with dots between them that are not escaped. -/
theorem classes?_eq_some_iff {cs : List Char} {names : List (List Char)} :
    classes? cs = some names ↔
      ∃ ss, symbols .plain cs = some (.bare '.' :: ss) ∧
        (∀ name ∈ ss.splitOn (.bare '.'), isName name = true) ∧
        (ss.splitOn (.bare '.')).map (List.map Symbol.char) = names := by
  unfold classes?
  split
  · rename_i ss hss
    rw [hss]
    constructor
    · intro h
      split at h
      · rename_i hall
        exact ⟨ss, rfl, List.all_eq_true.mp hall, Option.some.inj h⟩
      · cases h
    · rintro ⟨ts, hts, hall, rfl⟩
      cases hts
      exact if_pos (List.all_eq_true.mpr hall)
  · rename_i hother
    constructor
    · intro h
      cases h
    · rintro ⟨ss, hss, -⟩
      exact absurd hss (hother ss)

/-- Characters that stand for themselves are read as themselves. -/
theorem map_char_bare (cs : List Char) : (cs.map Symbol.bare).map Symbol.char = cs := by
  rw [List.map_map]
  exact List.map_id cs

/-- An identifier has none of the characters that selectors give a meaning to. -/
theorem isNameChar_of_mem {cs : List Char} (h : IsIdentifier cs) {c : Char} (hc : c ∈ cs) :
    isNameChar c = true := by
  have hall : (cs.map Symbol.bare).all Symbol.inName = true := (Bool.and_eq_true_iff.mp h).2
  exact List.all_eq_true.mp hall (.bare c) (List.mem_map_of_mem hc)

/-- A character of a name is none that no name has. -/
theorem isNameChar_ne {c d : Char} (hc : isNameChar c = true) (hd : isNameChar d = false) :
    c ≠ d := by
  rintro rfl
  rw [hc] at hd
  cases hd

/-- Reading goes character by character, in the mode that the last one left. -/
theorem symbols_cons (m : Mode) (c : Char) (cs : List Char) :
    symbols m (c :: cs) =
      match read m c with
      | some (ss, m) => (symbols m cs).map (ss ++ ·)
      | none => none := by
  cases m <;> rfl

/-- Outside of escapes a character stands for itself. -/
theorem symbols_plain_cons {c : Char} (h : c ≠ '\\') (cs : List Char) :
    symbols .plain (c :: cs) = (symbols .plain cs).map (.bare c :: ·) := by
  rw [symbols_cons]
  simp [read, readPlain, h]

/-- A text without backslashes is read character by character. -/
theorem symbols_of_bare {cs : List Char} (h : '\\' ∉ cs) :
    symbols .plain cs = some (cs.map .bare) := by
  induction cs with
  | nil => rfl
  | cons c cs ih =>
    have hc : c ≠ '\\' := fun e => h (e ▸ List.mem_cons_self)
    have hcs : '\\' ∉ cs := fun hmem => h (List.mem_cons_of_mem c hmem)
    rw [symbols_plain_cons hc, ih hcs]
    rfl

/-- The symbols that are still to come of what is being read. -/
def Mode.pending : Mode → Nat
  | .plain => 0
  | .escape => 1
  | .code _ _ => 1

@[simp] theorem Mode.pending_plain : Mode.plain.pending = 0 := rfl

@[simp] theorem Mode.pending_escape : Mode.escape.pending = 1 := rfl

@[simp] theorem Mode.pending_code (n digits : Nat) : (Mode.code n digits).pending = 1 := rfl

/-- A character makes a symbol, or begins an escape that will. -/
theorem readPlain_length (c : Char) :
    (readPlain c).1.length + (readPlain c).2.pending = 1 := by
  unfold readPlain
  split <;> rfl

/-- After a backslash the next character completes what the backslash began, or less. -/
theorem read_escape_length {n : Mode} {c : Char} {ss : List Symbol}
    (h : read .escape c = some (ss, n)) : ss.length + n.pending ≤ 1 := by
  simp only [read] at h
  split at h
  · cases h
  · split at h <;> cases h <;> simp

/-- A character completes one symbol at most, next to the one that was being read. -/
theorem read_length {m n : Mode} {c : Char} {ss : List Symbol} (h : read m c = some (ss, n)) :
    ss.length + n.pending ≤ m.pending + 1 := by
  have hplain := readPlain_length c
  cases m with
  | plain =>
    have hread : readPlain c = (ss, n) := Option.some.inj h
    have hone : ss.length + n.pending = 1 := by rw [hread] at hplain; exact hplain
    rw [Mode.pending_plain]
    omega
  | escape =>
    have hescape := read_escape_length h
    rw [Mode.pending_escape]
    omega
  | code number digits =>
    rw [Mode.pending_code]
    simp only [read] at h
    split at h <;> split at h <;> cases h
    all_goals simp only [Mode.pending_plain, Mode.pending_code, List.length_cons, List.length_nil]
    all_goals omega

/-- A text has no more symbols than characters, next to the one that was being read. -/
theorem symbols_length {m : Mode} {cs : List Char} {ss : List Symbol}
    (h : symbols m cs = some ss) : ss.length ≤ m.pending + cs.length := by
  induction cs generalizing m ss with
  | nil => cases m <;> cases h <;> simp
  | cons c cs ih =>
    rw [symbols_cons] at h
    split at h
    · rename_i before n hread
      obtain ⟨after, hafter, rfl⟩ := Option.map_eq_some_iff.mp h
      have hstep := read_length hread
      have hrest := ih hafter
      rw [List.length_append, List.length_cons]
      omega
    · cases h

/-- Escapes lose characters: what is written after a backslash is at most as many symbols as it has
characters, so that together with the backslash they cannot all come back. -/
theorem symbols_escape_length {c : Char} {cs : List Char} {ss : List Symbol}
    (h : symbols .escape (c :: cs) = some ss) : ss.length ≤ (c :: cs).length := by
  rw [symbols_cons] at h
  split at h
  · rename_i before n hread
    obtain ⟨after, hafter, rfl⟩ := Option.map_eq_some_iff.mp h
    have hstep := read_escape_length hread
    have hrest := symbols_length hafter
    rw [List.length_append, List.length_cons]
    omega
  · cases h

/-- A character as it is read where no line breaks. -/
def clean (c : Char) : Char := if c = '\x00' then '\ufffd' else c

/-- Preprocessing makes no backslash and takes none away. -/
theorem clean_eq_backslash {c : Char} : clean c = '\\' ↔ c = '\\' := by
  unfold clean
  split
  · rename_i h
    subst h
    decide
  · rfl

/-- Without line breaks preprocessing goes character by character. -/
theorem preprocess_of_unbroken {cs : List Char} (h : ∀ c ∈ cs, isBreak c = false) :
    preprocess cs = cs.map clean := by
  induction cs with
  | nil => rfl
  | cons c cs ih =>
    have hc : isBreak c = false := h c List.mem_cons_self
    have hreturn : c ≠ '\r' := by
      rintro rfl
      cases hc
    rw [preprocess.eq_3 c cs fun _ hc _ => hreturn hc,
      ih fun d hd => h d (List.mem_cons_of_mem c hd)]
    simp [hc, clean]

/-- A text whose characters all come back was read character by character. -/
theorem symbols_eq_of_char {cs : List Char} {ss : List Symbol}
    (h : symbols .plain (cs.map clean) = some ss) (hchar : ss.map Symbol.char = cs) :
    ss = cs.map .bare := by
  induction cs generalizing ss with
  | nil =>
    cases h
    rfl
  | cons c cs ih =>
    have hlength : ss.length = cs.length + 1 := by
      have hmap := congrArg List.length hchar
      rwa [List.length_map, List.length_cons] at hmap
    by_cases hc : c = '\\'
    · subst hc
      -- the backslash is lost, or it has become another character
      rw [List.map_cons, symbols_cons] at h
      obtain ⟨after, hafter, rfl⟩ := Option.map_eq_some_iff.mp h
      cases cs with
      | nil =>
        cases hafter
        cases hchar
      | cons d ds =>
        have hle : after.length ≤ ds.length + 1 := by
          simpa using symbols_escape_length hafter
        have hlength : after.length = ds.length + 1 + 1 := hlength
        omega
    · rw [List.map_cons, symbols_plain_cons (mt clean_eq_backslash.mp hc)] at h
      obtain ⟨after, hafter, rfl⟩ := Option.map_eq_some_iff.mp h
      obtain ⟨hhead, htail⟩ : clean c = c ∧ after.map Symbol.char = cs := by
        simpa [Symbol.char] using hchar
      rw [List.map_cons, ih hafter htail, hhead]

end Css

namespace Locator

open Css

/-! ## Locators of classes -/

section Pieces

variable {α : Type} {mark x : α} {piece : List α} {pieces : List (List α)}

/-- What stands in a piece stands in the whole. -/
theorem mem_intercalate (hpiece : piece ∈ pieces) (hx : x ∈ piece) :
    x ∈ [mark].intercalate pieces := by
  induction pieces with
  | nil => cases hpiece
  | cons p ps ih =>
    cases ps with
    | nil =>
      rw [List.mem_singleton.mp hpiece] at hx
      simpa [List.intercalate] using hx
    | cons q qs =>
      rw [List.intercalate_cons_cons, List.append_assoc, List.mem_append, List.mem_append]
      rcases List.mem_cons.mp hpiece with rfl | hpiece
      · exact .inl hx
      · exact .inr (.inr (ih hpiece))

/-- The characters may be changed before the pieces are put together or after it. -/
theorem map_intercalate {β : Type} (f : α → β) (mark : α) (pieces : List (List α)) :
    ([mark].intercalate pieces).map f = [f mark].intercalate (pieces.map (List.map f)) := by
  induction pieces with
  | nil => rfl
  | cons p ps ih =>
    cases ps with
    | nil => simp [List.intercalate]
    | cons q qs =>
      rw [List.intercalate_cons_cons, List.map_append, List.map_append, ih]
      exact List.intercalate_cons_cons.symm

/-- What stands in the whole is the mark, or stands in a piece. -/
theorem of_mem_intercalate (h : x ∈ [mark].intercalate pieces) :
    x = mark ∨ ∃ p ∈ pieces, x ∈ p := by
  induction pieces with
  | nil => cases h
  | cons p ps ih =>
    cases ps with
    | nil => exact .inr ⟨p, List.mem_cons_self, by simpa [List.intercalate] using h⟩
    | cons q qs =>
      rw [List.intercalate_cons_cons, List.append_assoc, List.mem_append, List.mem_append] at h
      rcases h with h | h | h
      · exact .inr ⟨p, List.mem_cons_self, h⟩
      · exact .inl (List.mem_singleton.mp h)
      · exact (ih h).imp_right fun ⟨r, hr, hx⟩ => ⟨r, List.mem_cons_of_mem p hr, hx⟩

/-- Only no pieces at all leave nothing, where every piece holds something. -/
theorem eq_nil_of_intercalate_eq_nil (h : [mark].intercalate pieces = [])
    (hpieces : ∀ p ∈ pieces, p ≠ []) : pieces = [] := by
  cases pieces with
  | nil => rfl
  | cons p ps =>
    obtain ⟨y, hy⟩ := List.exists_mem_of_ne_nil p (hpieces p List.mem_cons_self)
    have hmem : y ∈ [mark].intercalate (p :: ps) := mem_intercalate List.mem_cons_self hy
    rw [h] at hmem
    cases hmem

variable [BEq α] [LawfulBEq α]

/-- Cutting a text that was put together cuts every piece of it. -/
theorem splitOn_intercalate_pieces (hne : pieces ≠ []) :
    ([mark].intercalate pieces).splitOn mark = pieces.flatMap (List.splitOn mark) := by
  induction pieces with
  | nil => exact absurd rfl hne
  | cons p ps ih =>
    cases ps with
    | nil => simp [List.intercalate]
    | cons q qs =>
      rw [List.intercalate_cons_cons, List.append_assoc, List.singleton_append,
        List.splitOn_append_cons_self, ih (List.cons_ne_nil q qs)]
      rfl

/-- Pieces that are cut at the mark and put together again are the same whole. -/
theorem intercalate_splitOn_pieces :
    [mark].intercalate (pieces.flatMap (List.splitOn mark)) = [mark].intercalate pieces := by
  by_cases hne : pieces = []
  · rw [hne]
    rfl
  · rw [← splitOn_intercalate_pieces hne, List.intercalate_splitOn]

/-- Texts put together with a mark are the same exactly when their pieces, cut at the marks in
them, are the same. -/
theorem intercalate_eq_iff {others : List (List α)} (hpieces : ∀ p ∈ pieces, p ≠ [])
    (hothers : ∀ p ∈ others, p ≠ []) :
    [mark].intercalate pieces = [mark].intercalate others ↔
      pieces.flatMap (List.splitOn mark) = others.flatMap (List.splitOn mark) := by
  constructor
  · intro h
    by_cases hp : pieces = []
    · subst hp
      rw [eq_nil_of_intercalate_eq_nil h.symm hothers]
    by_cases ho : others = []
    · subst ho
      rw [eq_nil_of_intercalate_eq_nil h hpieces]
    rw [← splitOn_intercalate_pieces hp, h, splitOn_intercalate_pieces ho]
  · intro h
    rw [← intercalate_splitOn_pieces, h, intercalate_splitOn_pieces]

end Pieces

/-- The words of a value, as characters. -/
def tokens (value : String) : List (List Char) := (Text.words value).map String.toList

/-- The words of a text are not empty and hold no blank. -/
theorem tokens_solid {value : String} {token : List Char} (h : token ∈ tokens value) :
    token ≠ [] ∧ ∀ c ∈ token, Text.isBlank c = false := by
  have hwords : tokens value = Text.wordsFrom [] value.toList := by
    simp [tokens, Text.words]
  rw [hwords] at h
  exact Text.wordsFrom_all_solid (fun c hc => by cases hc) token h

/-- The locator of a class name is its words, with a dot in front of each. -/
theorem locator_className (value : String) :
    (Criterion.mk .className value).locator.toList =
      '.' :: ['.'].intercalate (tokens value) := by
  simp [Criterion.locator, ofClasses, tokens, String.toList_intercalate]

/-- No line breaks in the locator of classes, since every line break is a blank. -/
theorem isBreak_locator_className (value : String) :
    ∀ c ∈ (Criterion.mk .className value).locator.toList, isBreak c = false := by
  intro c hc
  rw [locator_className] at hc
  rcases List.mem_cons.mp hc with rfl | hc
  · rfl
  rcases of_mem_intercalate hc with rfl | ⟨token, htoken, hc⟩
  · rfl
  have hsolid : Text.isBlank c = false := (tokens_solid htoken).2 c hc
  simp only [isBreak, Bool.or_eq_false_iff, decide_eq_false_iff_not]
  refine ⟨⟨?_, ?_⟩, ?_⟩ <;> rintro rfl <;> cases hsolid

/-- Two class names have one locator exactly when their words, cut at dots, are the same. -/
theorem locator_className_inj {v w : String} :
    (Criterion.mk .className v).locator = (Criterion.mk .className w).locator ↔
      (tokens v).flatMap (List.splitOn '.') = (tokens w).flatMap (List.splitOn '.') := by
  rw [← String.toList_inj, locator_className, locator_className, List.cons.injEq,
    intercalate_eq_iff (fun _ h => (tokens_solid h).1) (fun _ h => (tokens_solid h).1)]
  exact and_iff_right rfl

/-- Words without dots are not cut. -/
theorem flatMap_splitOn_of_not_mem {names : List (List Char)} (h : ∀ name ∈ names, '.' ∉ name) :
    names.flatMap (List.splitOn '.') = names := by
  induction names with
  | nil => rfl
  | cons name names ih =>
    rw [List.flatMap_cons, List.splitOn_eq_singleton (h name List.mem_cons_self),
      ih fun n hn => h n (List.mem_cons_of_mem name hn), List.singleton_append]

/-! ## Names that come back -/

/-- Names that need no escapes are read as they were written. -/
theorem classes?_of_identifiers {names : List (List Char)} (hne : names ≠ [])
    (h : ∀ name ∈ names, IsIdentifier name) :
    classes? (preprocess ('.' :: ['.'].intercalate names)) = some names := by
  have hchar {c : Char} (hc : c ∈ '.' :: ['.'].intercalate names) :
      c = '.' ∨ isNameChar c = true := by
    rcases List.mem_cons.mp hc with hc | hc
    · exact .inl hc
    · exact (of_mem_intercalate hc).imp_right fun ⟨name, hname, hc⟩ =>
        isNameChar_of_mem (h name hname) hc
  have hplain : IsPlain ('.' :: ['.'].intercalate names) := by
    intro c hc
    rcases hchar hc with rfl | hname
    · decide
    · refine ⟨?_, isNameChar_ne hname rfl⟩
      have hfeed : c ≠ '\n' := isNameChar_ne hname rfl
      have hreturn : c ≠ '\r' := isNameChar_ne hname rfl
      have hpage : c ≠ '\x0c' := isNameChar_ne hname rfl
      simp [isBreak, hfeed, hreturn, hpage]
  have hback : '\\' ∉ ['.'].intercalate names := by
    intro hc
    rcases hchar (List.mem_cons_of_mem '.' hc) with hdot | hname
    · cases hdot
    · cases hname
  have hread : preprocess ('.' :: ['.'].intercalate names) = '.' :: ['.'].intercalate names := by
    simpa [preprocess] using preprocess_append_of_plain hplain []
  -- no bare full stop stands inside a name
  have hmark : ∀ piece ∈ names.map (List.map Symbol.bare), Symbol.bare '.' ∉ piece := by
    intro piece hpiece hmem
    obtain ⟨name, hname, rfl⟩ := List.mem_map.mp hpiece
    obtain ⟨c, hc, hdot⟩ := List.mem_map.mp hmem
    cases hdot
    cases isNameChar_of_mem (h name hname) hc
  have hsplit : ((['.'].intercalate names).map Symbol.bare).splitOn (.bare '.') =
      names.map (List.map Symbol.bare) := by
    rw [map_intercalate, List.splitOn_intercalate _ hmark (by simpa using hne)]
  rw [hread, classes?_eq_some_iff]
  refine ⟨(['.'].intercalate names).map .bare, ?_, ?_, ?_⟩
  · rw [symbols_plain_cons (by decide), symbols_of_bare hback]
    rfl
  · rw [hsplit]
    intro piece hpiece
    obtain ⟨name, hname, rfl⟩ := List.mem_map.mp hpiece
    exact h name hname
  · rw [hsplit, List.map_map]
    exact List.map_id'' map_char_bare names

/-- Names that come back needed no escapes. -/
theorem identifiers_of_classes? {names : List (List Char)}
    (h : classes? ('.' :: (['.'].intercalate names).map clean) = some names) :
    names ≠ [] ∧ ∀ name ∈ names, IsIdentifier name := by
  obtain ⟨ss, hss, hall, hnames⟩ := classes?_eq_some_iff.mp h
  rw [symbols_plain_cons (by decide)] at hss
  obtain ⟨after, hafter, hdot⟩ := Option.map_eq_some_iff.mp hss
  obtain ⟨-, rfl⟩ := List.cons.inj hdot
  -- all characters have come back, so every one of them was read as it stands
  have hchar : after.map Symbol.char = ['.'].intercalate names := by
    have hmap := map_intercalate Symbol.char (.bare '.') (after.splitOn (.bare '.'))
    rw [List.intercalate_splitOn, hnames] at hmap
    exact hmap
  have hbare : after = (['.'].intercalate names).map .bare := symbols_eq_of_char hafter hchar
  constructor
  · rintro rfl
    exact List.splitOn_ne_nil _ _ (List.map_eq_nil_iff.mp hnames)
  · intro name hname
    rw [← hnames] at hname
    obtain ⟨piece, hpiece, rfl⟩ := List.mem_map.mp hname
    have hself : ∀ s ∈ piece, Symbol.bare s.char = s := by
      intro s hs
      have hmem : s ∈ [.bare '.'].intercalate (after.splitOn (.bare '.')) :=
        mem_intercalate hpiece hs
      rw [List.intercalate_splitOn, hbare] at hmem
      obtain ⟨c, -, rfl⟩ := List.mem_map.mp hmem
      rfl
    have hpieceBare : (piece.map Symbol.char).map Symbol.bare = piece := by
      rw [List.map_map]
      exact (List.map_congr_left hself).trans (List.map_id piece)
    show isName _ = true
    rw [hpieceBare]
    exact hall piece hpiece

/-- What becomes of the words of a value in the locator by class names. Two values have the same
locator exactly when their words are the same after they have been cut at their full stops; for
words without full stops that is when the words are the same. The words come back from the locator
exactly when there are any and each of them is a name as it stands. -/
theorem className_reads (v w : String) :
    ((Criterion.mk .className v).locator = (Criterion.mk .className w).locator ↔
        (tokens v).flatMap (List.splitOn '.') = (tokens w).flatMap (List.splitOn '.')) ∧
      ((∀ token ∈ tokens v ++ tokens w, '.' ∉ token) →
        ((Criterion.mk .className v).locator = (Criterion.mk .className w).locator ↔
          Text.words v = Text.words w)) ∧
      (classes? (preprocess (Criterion.mk .className v).locator.toList) = some (tokens v) ↔
        tokens v ≠ [] ∧ ∀ token ∈ tokens v, IsIdentifier token) := by
  refine ⟨locator_className_inj, ?_, ?_⟩
  · intro h
    have hv : ∀ token ∈ tokens v, '.' ∉ token := fun t ht => h t (List.mem_append_left _ ht)
    have hw : ∀ token ∈ tokens w, '.' ∉ token := fun t ht => h t (List.mem_append_right _ ht)
    rw [locator_className_inj, flatMap_splitOn_of_not_mem hv, flatMap_splitOn_of_not_mem hw]
    exact List.map_inj_right fun _ _ => String.toList_inj.mp
  · constructor
    · intro h
      rw [preprocess_of_unbroken (isBreak_locator_className v), locator_className,
        List.map_cons] at h
      exact identifiers_of_classes? h
    · rintro ⟨hne, hidentifiers⟩
      rw [locator_className]
      exact classes?_of_identifiers hne hidentifiers

/-- Words of letters beyond ASCII, and with hyphens in front. -/
theorem className_reads_names :
    (∀ token ∈ tokens "btn --größe" ++ tokens "btn größe", '.' ∉ token) ∧
      (Criterion.mk .className "btn --größe").locator ≠
        (Criterion.mk .className "btn größe").locator ∧
      classes? (preprocess (Criterion.mk .className "btn --größe").locator.toList) =
        some ["btn".toList, "--größe".toList] := by
  have hdot : ∀ token ∈ tokens "btn --größe" ++ tokens "btn größe", '.' ∉ token := by decide
  obtain ⟨-, hsame, hread⟩ := className_reads "btn --größe" "btn größe"
  refine ⟨hdot, fun h => ?_, hread.mpr (by decide)⟩
  exact absurd ((hsame hdot).mp h) (by decide)

/-- A full stop inside a class is read as the beginning of another one: two values with different
words have one locator, and neither the word nor an escaped form of it comes back. -/
theorem className_reads_dotted :
    Text.words "a.b" = ["a.b"] ∧ Text.words "a b" = ["a", "b"] ∧
      (Criterion.mk .className "a.b").locator = (Criterion.mk .className "a b").locator ∧
      classes? (preprocess (Criterion.mk .className "a.b").locator.toList) =
        some [['a'], ['b']] ∧
      classes? (preprocess ".a\\.b".toList) = some [['a', '.', 'b']] := by
  decide

end Locator

end Walkthrough
