import Walkthrough.Session.Locator
import Walkthrough.Settings.JsonText

/-!
# Texts in CSS selectors

How a string is read in CSS: every line break becomes a line feed before anything is read
(`Css.preprocess`), and then the string goes on from its opening quotation mark to the next one
(`Css.scan`). A backslash escapes the character after it, stands for a character by its number, or
takes a line break away; a line break that is not escaped makes the whole string a bad one.

A value that is written as a string has its backslashes and double quotes escaped and nothing else.
`Locator.attribute_reads` states what becomes of this for every value without a null: a value
without line breaks is read as one string for it, so a locator by id or name selects the elements
whose attribute has just this value. A value with a line break is read as a bad string, and its
locator is no selector at all (`Locator.attribute_reads_broken`).
-/

namespace Walkthrough

namespace Css

open JsonText (hexValue?)

/-! ## Reading strings -/

/-- The characters that break a line. -/
def isBreak (c : Char) : Bool := c = '\n' || c = '\r' || c = '\x0c'

/-- A text as it is read: every line break is a line feed, and no character is null. -/
def preprocess : List Char → List Char
  | [] => []
  | '\r' :: '\n' :: cs => '\n' :: preprocess cs
  | c :: cs =>
    (if isBreak c then '\n' else if c = '\x00' then '\ufffd' else c) :: preprocess cs

/-- The character with a number, or the replacement character when there is none. -/
def numbered (n : Nat) : Char :=
  if n = 0 then '\ufffd' else if n.isValidChar then Char.ofNat n else '\ufffd'

/-- What is being read of a string. -/
inductive Mode where
  | plain
  /-- The character before was a backslash. -/
  | escape
  /-- The number of a character, of so many hexadecimal digits up to here. -/
  | code (number digits : Nat)
  deriving DecidableEq, Repr

/-- What a character does to the string that it stands in. -/
inductive Step where
  /-- The string goes on, with these characters added to its value. -/
  | goes (text : List Char) (m : Mode)
  | closes (text : List Char)
  /-- The string is a bad one. -/
  | breaks

/-- The same, with a character added to the value before. -/
def Step.after (c : Char) : Step → Step
  | goes text m => goes (c :: text) m
  | closes text => closes (c :: text)
  | breaks => breaks

/-- What a character does where nothing is escaped. -/
def stepPlain (quote c : Char) : Step :=
  if c = quote then .closes []
  else if c = '\n' then .breaks
  else if c = '\\' then .goes [] .escape
  else .goes [c] .plain

/-- What a character does. -/
def step (quote : Char) : Mode → Char → Step
  | .plain, c => stepPlain quote c
  | .escape, c =>
    if c = '\n' then .goes [] .plain
    else
      match hexValue? c with
      | some d => .goes [] (.code d 1)
      | none => .goes [c] .plain
  | .code n digits, c =>
    match hexValue? c with
    | some d =>
      if digits < 6 then .goes [] (.code (16 * n + d) (digits + 1))
      else (stepPlain quote c).after (numbered n)
    | none =>
      if c = ' ' || c = '\t' || c = '\n' then .goes [numbered n] .plain
      else (stepPlain quote c).after (numbered n)

/-- A string that was read, and what comes after it. -/
inductive StringToken where
  | closed (value rest : List Char)
  /-- The text ended before the string did. -/
  | unclosed (value : List Char)
  /-- The string is a bad one: its line ended before it did. -/
  | bad (rest : List Char)
  deriving DecidableEq, Repr

/-- The same string, with some characters added to its value before. -/
def StringToken.after (text : List Char) : StringToken → StringToken
  | closed value rest => closed (text ++ value) rest
  | unclosed value => unclosed (text ++ value)
  | bad rest => bad rest

/-- The rest of a string. -/
def scan (quote : Char) : Mode → List Char → StringToken
  | .code n _, [] => .unclosed [numbered n]
  | _, [] => .unclosed []
  | m, c :: cs =>
    match step quote m c with
    | .goes text m => (scan quote m cs).after text
    | .closes text => .closed text cs
    | .breaks => .bad (c :: cs)

/-- The string that a text begins with. -/
def string? : List Char → Option StringToken
  | [] => none
  | c :: cs => if c = '"' || c = '\'' then some (scan c .plain cs) else none

/-- The name and the value that a selector asks of an attribute, where its value is a string. -/
def attribute? (cs : List Char) : Option (List Char × List Char) :=
  match cs with
  | '[' :: cs =>
    match cs.dropWhile Char.isAlpha with
    | '=' :: rest =>
      match string? rest with
      | some (.closed value [']']) => some (cs.takeWhile Char.isAlpha, value)
      | _ => none
    | _ => none
  | _ => none

/-- Whether a selector for an attribute selects an element with these attributes. -/
def selects (selector : String) (attributes : List (String × String)) : Bool :=
  match attribute? (preprocess selector.toList) with
  | some (name, value) =>
    attributes.lookup (String.ofList name) == some (String.ofList value)
  | none => false

/-! ## Laws -/

/-- Characters that are read as they are. -/
def IsPlain (cs : List Char) : Prop := ∀ c ∈ cs, isBreak c = false ∧ c ≠ '\x00'

theorem isPlain_singleton {c : Char} (hbreak : isBreak c = false) (hnull : c ≠ '\x00') :
    IsPlain [c] := by
  intro d hd
  rw [List.mem_singleton.mp hd]
  exact ⟨hbreak, hnull⟩

theorem isPlain_of_letters {cs : List Char} (h : ∀ c ∈ cs, c.isAlpha = true) : IsPlain cs := by
  intro c hc
  have hletter := h c hc
  refine ⟨?_, ?_⟩
  · simp only [isBreak, Bool.or_eq_false_iff, decide_eq_false_iff_not]
    refine ⟨⟨?_, ?_⟩, ?_⟩ <;> rintro rfl <;> cases hletter
  · rintro rfl
    cases hletter

theorem IsPlain.append {xs ys : List Char} (hxs : IsPlain xs) (hys : IsPlain ys) :
    IsPlain (xs ++ ys) := fun c hc => (List.mem_append.mp hc).elim (hxs c) (hys c)

theorem preprocess_cons_of_plain {c : Char} (hbreak : isBreak c = false) (hnull : c ≠ '\x00')
    (cs : List Char) : preprocess (c :: cs) = c :: preprocess cs := by
  -- only a carriage return is read together with the character after it
  have hreturn : c ≠ '\r' := by
    rintro rfl
    cases hbreak
  rw [preprocess.eq_3 c cs fun _ hc _ => hreturn hc]
  simp [hbreak, hnull]

theorem preprocess_append_of_plain {xs : List Char} (h : IsPlain xs) (ys : List Char) :
    preprocess (xs ++ ys) = xs ++ preprocess ys := by
  induction xs with
  | nil => rfl
  | cons c cs ih =>
    obtain ⟨hbreak, hnull⟩ := h c List.mem_cons_self
    rw [List.cons_append, preprocess_cons_of_plain hbreak hnull, ih fun d hd =>
      h d (List.mem_cons_of_mem c hd), List.cons_append]

/-- Every line break is read as a line feed. -/
theorem preprocess_cons_of_break {c : Char} (h : isBreak c = true) (cs : List Char) :
    ∃ rest, preprocess (c :: cs) = '\n' :: rest := by
  by_cases hpair : c = '\r' ∧ ∃ rest, cs = '\n' :: rest
  · obtain ⟨rfl, rest, rfl⟩ := hpair
    exact ⟨preprocess rest, rfl⟩
  · rw [preprocess.eq_3 c cs fun rest hc hcs => hpair ⟨hc, rest, hcs⟩, if_pos h]
    exact ⟨preprocess cs, rfl⟩

theorem StringToken.after_after (xs ys : List Char) (t : StringToken) :
    (t.after ys).after xs = t.after (xs ++ ys) := by
  cases t <;> simp [StringToken.after]

end Css

namespace Locator

open Css

/-! ## Values as strings -/

/-- A character as it is written in a string adds itself to the value that is read. -/
theorem scan_cssEscape {c : Char} (h : c ≠ '\n') (rest : List Char) :
    scan '"' .plain (cssEscape c ++ rest) = (scan '"' .plain rest).after [c] := by
  by_cases hback : c = '\\'
  · subst hback
    -- the backslash that was written in front adds nothing
    show ((scan '"' .plain rest).after ['\\']).after [] = _
    rw [StringToken.after_after]
    rfl
  by_cases hquote : c = '"'
  · subst hquote
    show ((scan '"' .plain rest).after ['"']).after [] = _
    rw [StringToken.after_after]
    rfl
  have hplain : cssEscape c = [c] := by simp [cssEscape, hback, hquote]
  rw [hplain, List.singleton_append]
  simp [scan, step, stepPlain, h, hback, hquote]

theorem scan_flatMap_cssEscape {cs : List Char} (h : '\n' ∉ cs) (rest : List Char) :
    scan '"' .plain (cs.flatMap cssEscape ++ rest) = (scan '"' .plain rest).after cs := by
  induction cs with
  | nil =>
    show scan '"' .plain rest = _
    cases scan '"' .plain rest <;> rfl
  | cons c cs ih =>
    obtain ⟨hc, hcs⟩ : c ≠ '\n' ∧ '\n' ∉ cs := by
      simp only [List.mem_cons, not_or] at h
      exact ⟨fun e => h.1 e.symm, h.2⟩
    rw [List.flatMap_cons, List.append_assoc, scan_cssEscape hc, ih hcs,
      StringToken.after_after, List.singleton_append]

/-- Escaping adds backslashes only, which are read as they are. -/
theorem isPlain_flatMap_cssEscape {cs : List Char} (h : IsPlain cs) :
    IsPlain (cs.flatMap cssEscape) := by
  intro d hd
  obtain ⟨c, hc, hd⟩ := List.mem_flatMap.mp hd
  unfold cssEscape at hd
  split at hd
  · rcases List.mem_cons.mp hd with rfl | hd
    · exact ⟨rfl, by decide⟩
    · exact (List.mem_singleton.mp hd) ▸ h c hc
  · exact (List.mem_singleton.mp hd) ▸ h c hc

/-- A value without line breaks is read as one string for it, whatever comes after it. -/
theorem string?_cssString {cs : List Char} (h : IsPlain cs) (rest : List Char) :
    string? (preprocess (cssString cs ++ rest)) = some (.closed cs (preprocess rest)) := by
  have hquotes : cssString cs ++ rest = ['"'] ++ (cs.flatMap cssEscape ++ (['"'] ++ rest)) := by
    simp [cssString]
  have hmark : IsPlain ['"'] := isPlain_singleton rfl (by decide)
  have hfeed : '\n' ∉ cs := fun hmem => by cases (h _ hmem).1
  rw [hquotes, preprocess_append_of_plain hmark,
    preprocess_append_of_plain (isPlain_flatMap_cssEscape h), preprocess_append_of_plain hmark]
  show some (scan '"' .plain (cs.flatMap cssEscape ++ '"' :: preprocess rest)) = _
  rw [scan_flatMap_cssEscape hfeed]
  simp [scan, step, stepPlain, StringToken.after]

/-- A text with a line break up to the first one. -/
theorem exists_firstBreak {cs : List Char} (h : ∃ c ∈ cs, isBreak c = true) :
    ∃ before c after, cs = before ++ c :: after ∧ (∀ d ∈ before, isBreak d = false) ∧
      isBreak c = true := by
  obtain ⟨c, hc⟩ := Option.isSome_iff_exists.mp (List.find?_isSome.mpr h)
  obtain ⟨hbreak, before, after, hcs, hbefore⟩ := List.find?_eq_some_iff_append.mp hc
  exact ⟨before, c, after, hcs, fun d hd => by simpa using hbefore d hd, hbreak⟩

/-- A value with a line break is read as a bad string. -/
theorem string?_cssString_of_break {before after : List Char} {c : Char} (h : IsPlain before)
    (hc : isBreak c = true) (rest : List Char) :
    ∃ unread, string? (preprocess (cssString (before ++ c :: after) ++ rest)) =
      some (.bad unread) := by
  have hescape : cssEscape c = [c] := by
    have hback : c ≠ '\\' := by rintro rfl; cases hc
    have hquote : c ≠ '"' := by rintro rfl; cases hc
    simp [cssEscape, hback, hquote]
  have hquotes : cssString (before ++ c :: after) ++ rest =
      ['"'] ++ (before.flatMap cssEscape ++ c :: (after.flatMap cssEscape ++ (['"'] ++ rest))) := by
    simp [cssString, hescape]
  have hmark : IsPlain ['"'] := isPlain_singleton rfl (by decide)
  have hfeed : '\n' ∉ before := fun hmem => by cases (h _ hmem).1
  obtain ⟨unread, hbreak⟩ :=
    preprocess_cons_of_break hc (after.flatMap cssEscape ++ (['"'] ++ rest))
  refine ⟨'\n' :: unread, ?_⟩
  rw [hquotes, preprocess_append_of_plain hmark,
    preprocess_append_of_plain (isPlain_flatMap_cssEscape h), hbreak]
  show some (scan '"' .plain (before.flatMap cssEscape ++ '\n' :: unread)) = _
  rw [scan_flatMap_cssEscape hfeed]
  rfl

/-! ## Locators of attributes -/

theorem attribute?_of_name {word : List Char} (h : ∀ c ∈ word, c.isAlpha = true)
    (rest : List Char) :
    attribute? ('[' :: (word ++ '=' :: rest)) =
      match string? rest with
      | some (.closed value [']']) => some (word, value)
      | _ => none := by
  have hname : (word ++ '=' :: rest).takeWhile Char.isAlpha = word := by
    rw [List.takeWhile_append_of_pos h]
    simp
  have hrest : (word ++ '=' :: rest).dropWhile Char.isAlpha = '=' :: rest := by
    rw [List.dropWhile_append_of_pos h]
    simp
  simp only [attribute?, hname, hrest]

/-- The locator for an attribute, as it is read. -/
theorem attribute?_ofAttribute {name : String}
    (hname : ∀ c ∈ name.toList, c.isAlpha = true)
    (value : String) :
    attribute? (preprocess (ofAttribute name value).toList) =
      match string? (preprocess (cssString value.toList ++ [']'])) with
      | some (.closed value [']']) => some (name.toList, value)
      | _ => none := by
  have hopen : IsPlain ['['] := isPlain_singleton rfl (by decide)
  have hequals : IsPlain ['='] := isPlain_singleton rfl (by decide)
  have hbefore : IsPlain (['['] ++ name.toList ++ ['=']) :=
    (hopen.append (isPlain_of_letters hname)).append hequals
  have hlocator : (ofAttribute name value).toList =
      ['['] ++ name.toList ++ ['='] ++ (cssString value.toList ++ [']']) := by
    simp [ofAttribute]
  rw [hlocator, preprocess_append_of_plain hbefore, List.append_assoc, List.append_assoc]
  exact attribute?_of_name hname _

/-- What becomes of a value without line breaks in a locator for an attribute. -/
theorem selects_ofAttribute {name value : String}
    (hname : ∀ c ∈ name.toList, c.isAlpha = true)
    (h : IsPlain value.toList) (attributes : List (String × String)) :
    selects (ofAttribute name value) attributes = (attributes.lookup name == some value) := by
  have hread := attribute?_ofAttribute hname value
  rw [string?_cssString h] at hread
  unfold selects
  rw [hread]
  show (attributes.lookup (String.ofList name.toList) == some (String.ofList value.toList)) = _
  rw [String.ofList_toList, String.ofList_toList]

/-- A value that is not null anywhere, as it is read in the locators by id and by name. Without line
breaks it is read as one string, up to its end, whose value it is; the locators then select the
elements whose attribute has this value. With a line break it is a bad string, and the locators
are no selectors. -/
theorem attribute_reads (value : String) (hnull : '\x00' ∉ value.toList) :
    ((∀ c ∈ value.toList, isBreak c = false) ∧
      string? (preprocess (cssString value.toList)) = some (.closed value.toList []) ∧
      ∀ attributes : List (String × String),
        selects (Criterion.mk .id value).locator attributes =
            (attributes.lookup "id" == some value) ∧
          selects (Criterion.mk .name value).locator attributes =
            (attributes.lookup "name" == some value)) ∨
    ((∃ c ∈ value.toList, isBreak c = true) ∧
      (∃ unread, string? (preprocess (cssString value.toList)) = some (.bad unread)) ∧
      attribute? (preprocess (Criterion.mk .id value).locator.toList) = none ∧
      attribute? (preprocess (Criterion.mk .name value).locator.toList) = none) := by
  have hid : ∀ c ∈ "id".toList, c.isAlpha = true := List.all_eq_true.mp rfl
  have hname : ∀ c ∈ "name".toList, c.isAlpha = true := List.all_eq_true.mp rfl
  by_cases hbreaks : ∃ c ∈ value.toList, isBreak c = true
  · right
    obtain ⟨before, c, after, hvalue, hbefore, hc⟩ := exists_firstBreak hbreaks
    have hplain : IsPlain before := fun d hd =>
      ⟨hbefore d hd, fun e => hnull (e ▸ hvalue ▸ List.mem_append_left _ hd)⟩
    have hbad (rest : List Char) : ∃ unread,
        string? (preprocess (cssString value.toList ++ rest)) = some (.bad unread) :=
      hvalue ▸ string?_cssString_of_break hplain hc rest
    obtain ⟨unread, hlocator⟩ := hbad [']']
    refine ⟨hbreaks, ?_, ?_, ?_⟩
    · simpa using hbad []
    · rw [Criterion.locator, attribute?_ofAttribute hid, hlocator]
    · rw [Criterion.locator, attribute?_ofAttribute hname, hlocator]
  · left
    have hplain : IsPlain value.toList := fun c hc =>
      ⟨by simpa using fun hbreak => hbreaks ⟨c, hc, hbreak⟩, fun e => hnull (e ▸ hc)⟩
    refine ⟨fun c hc => (hplain c hc).1, ?_, fun attributes => ⟨?_, ?_⟩⟩
    · simpa [preprocess] using string?_cssString hplain []
    · exact selects_ofAttribute hid hplain attributes
    · exact selects_ofAttribute hname hplain attributes

/-- A value with a quotation mark, and with a backslash in front of what looks like a number. -/
theorem attribute_reads_escaped :
    '\x00' ∉ "a\"b\\41 c".toList ∧
      string? (preprocess (cssString "a\"b\\41 c".toList)) =
        some (.closed "a\"b\\41 c".toList []) ∧
      selects (Criterion.mk .id "a\"b\\41 c").locator [("class", "x"), ("id", "a\"b\\41 c")] =
        true := by
  have hnull : '\x00' ∉ "a\"b\\41 c".toList := by decide
  obtain ⟨-, hread, hselects⟩ | ⟨⟨c, hc, hbreak⟩, -⟩ := attribute_reads "a\"b\\41 c" hnull
  · exact ⟨hnull, hread, (hselects [("class", "x"), ("id", "a\"b\\41 c")]).1⟩
  · have hany : "a\"b\\41 c".toList.any isBreak = true := List.any_eq_true.mpr ⟨c, hc, hbreak⟩
    cases hany

/-- A value of two lines is read as a bad string, and its locator does not select the element with
this value. -/
theorem attribute_reads_broken :
    '\x00' ∉ "a\nb".toList ∧
      string? (preprocess (cssString "a\nb".toList)) = some (.bad ['\n', 'b', '"']) ∧
      selects (Criterion.mk .id "a\nb").locator [("id", "a\nb")] = false := by
  decide

end Locator

end Walkthrough
