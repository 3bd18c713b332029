import Walkthrough.Session.Locator

/-!
# Texts in XPath expressions

How an XPath expression is read, as far as the locators of links go: a text is cut into tokens, one
character after the other (`XPath.scan`), and some tokens are an expression for a text, which is a
literal or a call of `concat` with two literals or more (`XPath.TextExpr`). A literal begins and
ends with the same quotation mark, has no escapes, and may hold any other character.

`Locator.linkText_reads` states that the expression that is written for a text is read as exactly
one such expression, whose value is this text, whatever quotation marks are in it; and that in the
locator of a link it stands between the same tokens for every text, so that no text can break the
locator or add anything to it.
-/

namespace Walkthrough

namespace XPath

/-! ## Tokens -/

/-- A token of an expression. -/
inductive Token where
  | literal (text : List Char)
  | name (word : List Char)
  | mark (c : Char)
  deriving DecidableEq, Repr

/-- White space between tokens. -/
def isBlank (c : Char) : Bool := c = ' ' || c = '\t' || c = '\r' || c = '\n'

/-- The characters that are tokens; a pair of them such as `//` is two. -/
def marks : List Char :=
  ['(', ')', '[', ']', '.', ',', '/', '@', '=', '<', '>', '!', '|', '+', '-', '*', ':']

/-- A character that a name may begin with; only names in plain letters are read. -/
def beginsName (c : Char) : Bool := c.isAlpha || c = '_'

/-- A character that a name may go on with. -/
def continuesName (c : Char) : Bool := c.isAlphanum || c = '_' || c = '-' || c = '.'

/-- What is being read; what has been read of it is kept in reverse. -/
inductive Mode where
  | between
  | literal (quote : Char) (read : List Char)
  | name (read : List Char)
  deriving DecidableEq, Repr

/-- The tokens that a character completes between two tokens, and what is being read after it. -/
def begin? (c : Char) : Option (List Token × Mode) :=
  if isBlank c then some ([], .between)
  else if c = '"' || c = '\'' then some ([], .literal c [])
  else if beginsName c then some ([], .name [c])
  else if marks.contains c then some ([.mark c], .between)
  else none

/-- The tokens that a character completes, and what is being read after it. -/
def step? : Mode → Char → Option (List Token × Mode)
  | .between, c => begin? c
  | .literal quote read, c =>
    if c = quote then some ([.literal read.reverse], .between)
    else some ([], .literal quote (c :: read))
  | .name read, c =>
    if continuesName c then some ([], .name (c :: read))
    else (begin? c).map fun (ts, m) => (.name read.reverse :: ts, m)

/-- The tokens that a text completes, and what is being read at its end. -/
def scan : Mode → List Char → Option (List Token × Mode)
  | m, [] => some ([], m)
  | m, c :: cs =>
    match step? m c with
    | none => none
    | some (ts, m) => (scan m cs).map fun (us, m) => (ts ++ us, m)

/-- The tokens of a text; a literal has to end. -/
def tokens? (cs : List Char) : Option (List Token) :=
  match scan .between cs with
  | some (ts, .between) => some ts
  | some (ts, .name read) => some (ts ++ [.name read.reverse])
  | _ => none

/-! ## Expressions for texts -/

/-- An expression for a text. -/
inductive TextExpr where
  | literal (text : List Char)
  /-- A call of `concat`, which takes two arguments at least. -/
  | concat (first second : List Char) (more : List (List Char))
  deriving DecidableEq, Repr

/-- The text that an expression stands for. -/
def TextExpr.value : TextExpr → List Char
  | literal text => text
  | concat first second more => first ++ second ++ more.flatten

/-- The name of the function that puts texts together. -/
def concatName : List Char := ['c', 'o', 'n', 'c', 'a', 't']

/-- The arguments of a call after the first one, and the tokens after the call. -/
def arguments? : List Token → Option (List (List Char) × List Token)
  | .mark ')' :: rest => some ([], rest)
  | .mark ',' :: .literal text :: rest =>
    (arguments? rest).map fun (texts, rest) => (text :: texts, rest)
  | _ => none

/-- The expression that some tokens begin with, and the tokens after it. -/
def expression? : List Token → Option (TextExpr × List Token)
  | .literal text :: rest => some (.literal text, rest)
  | .name word :: .mark '(' :: .literal first :: rest =>
    if word = concatName then
      match arguments? rest with
      | some (second :: more, rest) => some (.concat first second more, rest)
      | _ => none
    else none
  | _ => none

/-- The tokens of an expression. -/
def TextExpr.tokens : TextExpr → List Token
  | literal text => [.literal text]
  | concat first second more =>
    [.name concatName, .mark '(', .literal first] ++
      (second :: more).flatMap (fun text => [.mark ',', .literal text]) ++ [.mark ')']

/-! ## Laws -/

theorem scan_append {m m' m'' : Mode} {xs ys : List Char} {ts us : List Token}
    (hxs : scan m xs = some (ts, m')) (hys : scan m' ys = some (us, m'')) :
    scan m (xs ++ ys) = some (ts ++ us, m'') := by
  induction xs generalizing m ts with
  | nil =>
    cases hxs
    exact hys
  | cons c cs ih =>
    simp only [scan, List.cons_append] at hxs ⊢
    cases hstep : step? m c with
    | none => simp [hstep] at hxs
    | some p =>
      simp only [hstep, Option.map_eq_some_iff] at hxs
      obtain ⟨⟨later, m₁⟩, hrest, heq⟩ := hxs
      cases heq
      simp [ih hrest]

/-- A literal goes on up to its quotation mark. -/
theorem scan_literal {quote : Char} {read text : List Char} (h : quote ∉ text) :
    scan (.literal quote read) (text ++ [quote]) =
      some ([.literal (read.reverse ++ text)], .between) := by
  induction text generalizing read with
  | nil => simp [scan, step?]
  | cons c cs ih =>
    obtain ⟨hc, hcs⟩ : c ≠ quote ∧ quote ∉ cs := by
      simp only [List.mem_cons, not_or] at h
      exact ⟨fun e => h.1 e.symm, h.2⟩
    simp [scan, step?, hc, ih hcs]

/-- A text between two quotation marks that are not in it is a literal for it. -/
theorem scan_between {quote : Char} (hquote : quote = '"' ∨ quote = '\'') {text : List Char}
    (h : quote ∉ text) :
    scan .between (Locator.between quote text) = some ([.literal text], .between) := by
  have hbegin : begin? quote = some ([], .literal quote []) := by
    rcases hquote with rfl | rfl <;> rfl
  simp [Locator.between, scan, step?, hbegin, scan_literal h]

theorem arguments?_tokens (texts : List (List Char)) (rest : List Token) :
    arguments? (texts.flatMap (fun text => [.mark ',', .literal text]) ++ .mark ')' :: rest) =
      some (texts, rest) := by
  induction texts with
  | nil => rfl
  | cons text texts ih => simp [arguments?, ih]

/-- The tokens of an expression are read as this expression, whatever comes after them. -/
theorem expression?_tokens (e : TextExpr) (rest : List Token) :
    expression? (e.tokens ++ rest) = some (e, rest) := by
  cases e with
  | literal text => rfl
  | concat first second more =>
    have h := arguments?_tokens (second :: more) rest
    simp only [TextExpr.tokens, List.append_assoc, List.cons_append, List.nil_append, expression?,
      if_true, h]

end XPath

namespace Locator

open XPath (Token TextExpr)

/-! ## Texts as expressions -/

theorem not_mem_pieces (mark : Char) (cs : List Char) : ∀ p ∈ pieces mark cs, mark ∉ p := by
  induction cs with
  | nil => simp [pieces]
  | cons c cs ih =>
    unfold pieces
    split
    · intro p hp
      rcases List.mem_cons.mp hp with rfl | hp
      · exact List.not_mem_nil
      · exact ih p hp
    · rename_i hc
      cases hpieces : pieces mark cs with
      | nil => exact absurd hpieces (pieces_ne_nil mark cs)
      | cons first rest =>
        rw [hpieces] at ih
        intro p hp
        rcases List.mem_cons.mp hp with rfl | hp
        · rw [List.mem_cons, not_or]
          exact ⟨fun e => hc e.symm, ih first List.mem_cons_self⟩
        · exact ih p (List.mem_cons_of_mem _ hp)

/-- A text with a mark in it falls into two pieces or more. -/
theorem exists_pieces {mark : Char} {cs : List Char} (h : mark ∈ cs) :
    ∃ first second more, pieces mark cs = first :: second :: more := by
  rcases hpieces : pieces mark cs with _ | ⟨first, _ | ⟨second, more⟩⟩
  · exact absurd hpieces (pieces_ne_nil mark cs)
  · -- a single piece is the whole text, and the mark is in no piece
    have hwhole : [mark].intercalate [first] = cs := hpieces ▸ intercalate_pieces mark cs
    rw [List.intercalate_singleton] at hwhole
    exact absurd (hwhole ▸ h) (not_mem_pieces mark cs first (by simp [hpieces]))
  · exact ⟨first, second, more, rfl⟩

/-- The pieces after the first one, with a double quote in front of each. -/
def quotedPieces (ps : List (List Char)) : List (List Char) := ps.flatMap fun p => [['"'], p]

theorem flatten_quotedPieces (first : List Char) (ps : List (List Char)) :
    first ++ (quotedPieces ps).flatten = ['"'].intercalate (first :: ps) := by
  induction ps generalizing first with
  | nil => simp [quotedPieces]
  | cons p ps ih =>
    rw [List.intercalate_cons_cons, ← ih p]
    simp [quotedPieces]

/-- The arguments between the brackets of a call are read as literals with commas between them. -/
theorem scan_arguments (first : List Char) (ps : List (List Char))
    (h : ∀ p ∈ first :: ps, '"' ∉ p) :
    XPath.scan .between (quoteArgument.intercalate ((first :: ps).map (between '"'))) =
      some (.literal first ::
        (quotedPieces ps).flatMap (fun text => [Token.mark ',', .literal text]), .between) := by
  have hfirst := XPath.scan_between (.inl rfl) (h first List.mem_cons_self)
  induction ps generalizing first with
  | nil => simpa [quotedPieces] using hfirst
  | cons p ps ih =>
    -- between two pieces stands the literal for the double quote that was cut out
    have hp := fun q hq => h q (List.mem_cons_of_mem first hq)
    have hquote : XPath.scan .between quoteArgument =
        some ([.mark ',', .literal ['"'], .mark ','], .between) := rfl
    have hrest := ih p hp (XPath.scan_between (.inl rfl) (hp p List.mem_cons_self))
    rw [List.map_cons, List.map_cons, List.intercalate_cons_cons]
    simpa [quotedPieces] using XPath.scan_append (XPath.scan_append hfirst hquote) hrest

/-- What is written for a text is read as one expression, whose value is the text. -/
theorem scan_xpathString (cs : List Char) :
    ∃ e : TextExpr, XPath.scan .between (xpathString cs) = some (e.tokens, .between) ∧
      e.value = cs := by
  unfold xpathString
  by_cases hdouble : '"' ∈ cs
  · by_cases hsingle : '\'' ∈ cs
    · -- both quotation marks occur: the text is cut at its double quotes
      obtain ⟨first, second, more, hpieces⟩ := exists_pieces hdouble
      refine ⟨.concat first ['"'] (second :: quotedPieces more), ?_, ?_⟩
      · have hcall : XPath.scan .between "concat(".toList =
            some ([.name XPath.concatName, .mark '('], .between) := rfl
        have hclose : XPath.scan .between [')'] = some ([.mark ')'], .between) := rfl
        have harguments := scan_arguments first (second :: more)
          (hpieces ▸ not_mem_pieces '"' cs)
        have hscan := XPath.scan_append (XPath.scan_append hcall harguments) hclose
        simpa [hdouble, hsingle, hpieces, TextExpr.tokens, quotedPieces] using hscan
      · have hjoined := intercalate_pieces '"' cs
        rw [hpieces, ← flatten_quotedPieces] at hjoined
        simpa [TextExpr.value, quotedPieces] using hjoined
    · refine ⟨.literal cs, ?_, rfl⟩
      simpa [hdouble, hsingle, TextExpr.tokens] using XPath.scan_between (.inr rfl) hsingle
  · refine ⟨.literal cs, ?_, rfl⟩
    simpa [hdouble, TextExpr.tokens] using XPath.scan_between (.inl rfl) hdouble

/-! ## Links -/

/-- The tokens in front of the test of a link. -/
def linkStep : List Token := [.mark '.', .mark '/', .mark '/', .name ['a'], .mark '[']

/-- The tokens for the text of a link without the blanks around it. -/
def linkValue : List Token :=
  [.name "normalize-space".toList, .mark '(', .mark '.', .mark ')']

theorem tokens?_of_scan {before after : List Char} {cs : List Char} {ts us vs : List Token}
    (hbefore : XPath.scan .between before = some (ts, .between))
    (hcs : XPath.scan .between cs = some (us, .between))
    (hafter : XPath.scan .between after = some (vs, .between)) :
    XPath.tokens? (before ++ cs ++ after) = some (ts ++ us ++ vs) := by
  unfold XPath.tokens?
  rw [XPath.scan_append (XPath.scan_append hbefore hcs) hafter]

/-- The expression that is written for a text is one literal or one call of `concat`, and its value
is the text. In the locators of links its tokens stand between others that are the same for every
text. -/
theorem linkText_reads (value : String) :
    ∃ e : TextExpr, XPath.tokens? (xpathString value.toList) = some e.tokens ∧
      XPath.expression? e.tokens = some (e, []) ∧ e.value = value.toList ∧
      (∃ path, (Criterion.mk .linkText value).locator = "xpath=" ++ path ∧
        XPath.tokens? path.toList =
          some (linkStep ++ linkValue ++ [.mark '='] ++ e.tokens ++ [.mark ']'])) ∧
      ∃ path, (Criterion.mk .partialLinkText value).locator = "xpath=" ++ path ∧
        XPath.tokens? path.toList =
          some (linkStep ++ [.name "contains".toList, .mark '('] ++ linkValue ++ [.mark ','] ++
            e.tokens ++ [.mark ')', .mark ']']) := by
  obtain ⟨e, hscan, hvalue⟩ := scan_xpathString value.toList
  have hequals : XPath.scan .between ".//a[normalize-space(.)=".toList =
      some (linkStep ++ linkValue ++ [.mark '='], .between) := rfl
  have hcontains : XPath.scan .between ".//a[contains(normalize-space(.), ".toList =
      some (linkStep ++ [.name "contains".toList, .mark '('] ++ linkValue ++ [.mark ','],
        .between) := rfl
  have hclose : XPath.scan .between "]".toList = some ([.mark ']'], .between) := rfl
  have hcloseBoth : XPath.scan .between ")]".toList = some ([.mark ')', .mark ']'], .between) := rfl
  refine ⟨e, ?_, ?_, hvalue, ⟨".//a[normalize-space(.)=" ++
    String.ofList (xpathString value.toList) ++ "]", ?_, ?_⟩,
    ⟨".//a[contains(normalize-space(.), " ++ String.ofList (xpathString value.toList) ++ ")]",
      ?_, ?_⟩⟩
  · unfold XPath.tokens?
    rw [hscan]
  · simpa using XPath.expression?_tokens e []
  · simp [Criterion.locator, ofLink, ← String.toList_inj]
  · rw [String.toList_append, String.toList_append]
    exact tokens?_of_scan hequals (by rw [String.toList_ofList, hscan]) hclose
  · simp [Criterion.locator, ofLink, ← String.toList_inj]
  · rw [String.toList_append, String.toList_append]
    exact tokens?_of_scan hcontains (by rw [String.toList_ofList, hscan]) hcloseBoth

end Locator

end Walkthrough
