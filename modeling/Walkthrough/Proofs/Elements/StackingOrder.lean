import Walkthrough.Action
import Walkthrough.Proofs.Run.Ends
import Walkthrough.Proofs.Run.Keeps
import Walkthrough.Proofs.Text.Numerals

/-!
# Stacking orders

The computed stacking order of an element is a text that should show a whole number, or a word for
none (`auto`). What is taken for a number before it is read is wider than what is one: any number of
minus signs, and characters that only stand for a digit (`Text.LooksWhole`).

`Action.zIndex_reads` says what becomes of every text that a session can answer with. A numeral
gives its number and a text that does not look like one gives none. What looks like a number and is
none, or has more digits than can be read, raises: `²` is such a text
(`Action.zIndex_reads_superscript`).
-/

namespace Walkthrough

namespace Action

open Text

/-! ## Reading the text -/

theorem parseZIndex_of_looksWhole {raw : String} (h : LooksWhole (strip raw).toList) :
    parseZIndex raw = (readInt (strip raw)).map some := by
  simp only [parseZIndex]
  rw [if_pos (looksWhole_iff.mp h)]

theorem parseZIndex_of_not_looksWhole {raw : String} (h : ¬LooksWhole (strip raw).toList) :
    parseZIndex raw = .ok none := by
  simp only [parseZIndex]
  rw [if_neg (mt looksWhole_iff.mpr h)]

/-- What a computed stacking order is read as: the number of a numeral that is not too long, or none
for a text that does not look like a number. Everything else cannot be read. -/
theorem parseZIndex_cases (raw : String) :
    (∃ n : Numeral, n.Spells (strip raw).toList ∧ n.digits.length ≤ digitLimit ∧
        parseZIndex raw = .ok (some n.value)) ∨
      ((∀ n : Numeral, ¬n.Spells (strip raw).toList) ∧ ¬LooksWhole (strip raw).toList ∧
        parseZIndex raw = .ok none) ∨
      (LooksWhole (strip raw).toList ∧ (∀ n : Numeral, ¬n.Spells (strip raw).toList) ∧
        parseZIndex raw = .error (.malformed (strip raw))) ∨
      (∃ n : Numeral, n.Spells (strip raw).toList ∧ digitLimit < n.digits.length ∧
        parseZIndex raw = .error (.tooLong n.digits.length)) := by
  have hstrip : stripChars (strip raw).toList = (strip raw).toList := by
    rw [strip, String.toList_ofList, stripChars_stripChars]
  by_cases hlooks : LooksWhole (strip raw).toList
  · by_cases hspells : ∃ n : Numeral, n.Spells (strip raw).toList
    · obtain ⟨n, hn⟩ := hspells
      have hvalue := readInt_of_spells hstrip hn
      rw [String.ofList_toList] at hvalue
      by_cases hlong : n.digits.length > digitLimit
      · refine .inr (.inr (.inr ⟨n, hn, hlong, ?_⟩))
        rw [parseZIndex_of_looksWhole hlooks, hvalue, if_pos hlong]
        rfl
      · refine .inl ⟨n, hn, Nat.le_of_not_gt hlong, ?_⟩
        rw [parseZIndex_of_looksWhole hlooks, hvalue, if_neg hlong]
        rfl
    · have hnone : ∀ n : Numeral, ¬n.Spells (strip raw).toList := fun n hn => hspells ⟨n, hn⟩
      have hvalue := readInt_of_unspelled hstrip hlooks hnone
      rw [String.ofList_toList] at hvalue
      refine .inr (.inr (.inl ⟨hlooks, hnone, ?_⟩))
      rw [parseZIndex_of_looksWhole hlooks, hvalue]
      rfl
  · have hnone : ∀ n : Numeral, ¬n.Spells (strip raw).toList := fun n hn => hlooks hn.looksWhole
    exact .inr (.inl ⟨hnone, hlooks, parseZIndex_of_not_looksWhole hlooks⟩)

/-! ## Asking an element -/

variable {H : Host} {α : Type} {d : Driver H} {env : H.Env} {s t : H.State} {w v v' : H.World}

theorem ends_onElement {a : Selector H} {element : H.Element} {handle : H.Session}
    {command : H.Element → Command H.Element H.Datum α} {answer : α} {sound : t.failures = []}
    (hfound : a.findAll.Ends d env s w (.success [element] t sound) v)
    (hsession : t.session = some handle)
    (hanswer : d.answer (H.call handle (command element)) v = (.ok answer, v')) (label : String) :
    (onElement a label command).Ends d env s w (.success answer t sound) v' := by
  have hone : a.findOne.Ends d env s w (.success element t sound) v :=
    Flow.ends_bind hfound rfl (Flow.ends_pure element sound)
  exact Flow.ends_bind hone rfl (Flow.ends_callSession sound hsession hanswer _)

/-- What the stacking order of an element comes to, for whatever text the session answers with. The
selector has found one element, and the text is stripped of the blanks around it. A numeral gives
its number, unless it has more digits than can be read; a text that is not minus signs followed by
digits gives none; and both leave the state in which the element was found. Everything else raises,
and leaves the state from which the search was started. -/
theorem zIndex_reads {a : Selector H} {element : H.Element} {handle : H.Session} {raw : String}
    {sound : t.failures = []}
    (hfound : a.findAll.Ends d env s w (.success [element] t sound) v)
    (hsession : t.session = some handle)
    (hanswer : d.answer (H.call handle (.style element "z-index")) v = (.ok raw, v')) :
    (∃ n : Numeral, n.Spells (strip raw).toList ∧ n.digits.length ≤ digitLimit ∧
        (zIndex a).Ends d env s w (.success (some n.value) t sound) v') ∨
      ((∀ n : Numeral, ¬n.Spells (strip raw).toList) ∧ ¬LooksWhole (strip raw).toList ∧
        (zIndex a).Ends d env s w (.success none t sound) v') ∨
      (LooksWhole (strip raw).toList ∧ (∀ n : Numeral, ¬n.Spells (strip raw).toList) ∧
        (zIndex a).Ends d env s w (.raised s (thrownByInt (.malformed (strip raw)))) v') ∨
      (∃ n : Numeral, n.Spells (strip raw).toList ∧ digitLimit < n.digits.length ∧
        (zIndex a).Ends d env s w (.raised s (thrownByInt (.tooLong n.digits.length))) v') := by
  have hstyle : (style a "z-index").Ends d env s w (.success raw t sound) v' :=
    ends_onElement hfound hsession hanswer _
  have hvalue (i : Option Int) (hparse : parseZIndex raw = .ok i) :
      (zIndex a).Ends d env s w (.success i t sound) v' := by
    refine Flow.ends_map_of_ok hstyle ?_
    simp only [hparse]
    rfl
  have hthrow (e : IntError) (hparse : parseZIndex raw = .error e) :
      (zIndex a).Ends d env s w (.raised s (thrownByInt e)) v' := by
    refine Flow.ends_map_of_error hstyle ?_
    simp only [hparse]
    rfl
  rcases parseZIndex_cases raw with ⟨n, hn, hshort, hparse⟩ | ⟨hnone, hother, hparse⟩ |
    ⟨hlooks, hnone, hparse⟩ | ⟨n, hn, hlong, hparse⟩
  · exact .inl ⟨n, hn, hshort, hvalue _ hparse⟩
  · exact .inr (.inl ⟨hnone, hother, hvalue _ hparse⟩)
  · exact .inr (.inr (.inl ⟨hlooks, hnone, hthrow _ hparse⟩))
  · exact .inr (.inr (.inr ⟨n, hn, hlong, hthrow _ hparse⟩))

/-- A host like `Host.refusing` with one element, whose computed styles are all this text. -/
abbrev styled (text : String) : Host :=
  { Host.refusing with
    call := fun session command w =>
      match command with
      | .findElements _ _ => (.ok (.value [()]), w + 1)
      | .style _ _ => (.ok (.value text), w + 1)
      | command => Host.refusing.call session command w }

/-- The state that a run with this text starts from. -/
abbrev styledStart (text : String) : (styled text).State :=
  (styled text).initialState (some ()) { sinks := () }

/-- The selector of one step that finds the element. -/
abbrev styledElement (text : String) : Selector (styled text) := .ofCriterion ⟨.css, "li"⟩

theorem ends_findAll_styled (text : String) :
    (styledElement text).findAll.Ends .blocking () (styledStart text) (0 : Nat)
      (.success [()] (styledStart text) rfl) (1 : Nat) := by
  unfold Flow.Ends
  rw [Flow.history_eq]
  exact ⟨rfl, rfl⟩

/-- Arabic digits after a minus sign, with blanks around them. -/
theorem zIndex_reads_arabic :
    (styledElement "\u00a0-١٢\n").findAll.Ends .blocking () (styledStart "\u00a0-١٢\n") (0 : Nat)
        (.success [()] (styledStart "\u00a0-١٢\n") rfl) (1 : Nat) ∧
      (styledStart "\u00a0-١٢\n").session = some () ∧
      Driver.blocking.answer ((styled "\u00a0-١٢\n").call () (.style () "z-index")) (1 : Nat) =
        (.ok "\u00a0-١٢\n", (2 : Nat)) ∧
      ∃ n : Numeral, n.Spells "-١٢".toList ∧ n.value = -12 ∧
        (zIndex (styledElement "\u00a0-١٢\n")).Ends .blocking () (styledStart "\u00a0-١٢\n")
          (0 : Nat) (.success (some n.value) (styledStart "\u00a0-١٢\n") rfl) (2 : Nat) := by
  have hspells : Numeral.Spells ⟨true, [1, 2], by simp⟩ "-١٢".toList := ⟨['١', '٢'], rfl, rfl⟩
  refine ⟨ends_findAll_styled _, rfl, rfl, ⟨true, [1, 2], by simp⟩, hspells, rfl, ?_⟩
  obtain ⟨n, hn, -, hends⟩ | ⟨hnone, -⟩ | ⟨-, hnone, -⟩ | ⟨n, hn, hlong, -⟩ :=
    zIndex_reads (ends_findAll_styled "\u00a0-١٢\n") rfl rfl
  · rw [hspells.unique hn]
    exact hends
  · exact absurd hspells (hnone _)
  · exact absurd hspells (hnone _)
  · rw [← hspells.unique hn] at hlong
    exact absurd hlong (by decide)

/-- A superscript stands for a digit and is no numeral: the text raises. -/
theorem zIndex_reads_superscript :
    (∀ n : Numeral, ¬n.Spells (strip "²").toList) ∧
      (zIndex (styledElement "²")).Ends .blocking () (styledStart "²") (0 : Nat)
        (.raised (styledStart "²") (thrownByInt (.malformed "²"))) (2 : Nat) := by
  constructor
  · intro n hn
    have hdigits : [none] = n.digits.map some := hn.unsigned_eq.2.1
    cases hn : n.digits with
    | nil => exact n.digits_ne_nil hn
    | cons d ds =>
      rw [hn] at hdigits
      cases hdigits
  · unfold Flow.Ends
    rw [Flow.history_eq]
    exact ⟨rfl, rfl⟩

end Action

end Walkthrough
