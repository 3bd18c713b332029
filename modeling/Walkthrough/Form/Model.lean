import Walkthrough.Criterion
import Walkthrough.Form.Field
import Walkthrough.Log

/-!
# Criteria and log records from documents

How a criterion and a log record are read from the fields of a map. Both have fields without a
default, and a record takes no negative indent.
-/

namespace Walkthrough

namespace Field

/-- Reads a text. -/
def text : SettingsDocument → Checked String
  | .text s => .ok s
  | _ => Checked.problem .textType

/-- Reads the field with a key, which has to be there. -/
def required {α : Type} (key : String) (read : SettingsDocument → Checked α)
    (entries : Document.Entries Extra) : Checked α :=
  match entries.lookup key with
  | some d => (read d).at_ key
  | none => (Checked.problem .missing).at_ key

/-- Reads one of a number of words. -/
def word {α : Type} (ofWord? : String → Option α) : SettingsDocument → Checked α
  | .text s =>
    match ofWord? s with
    | some a => .ok a
    | none => Checked.problem .choice
  | _ => Checked.problem .choice

/-- Reads a whole number that is not negative. -/
def count (d : SettingsDocument) : Checked Int :=
  match int d with
  | .ok i => if i < 0 then Checked.problem .tooSmall else .ok i
  | .error ps => .error ps

end Field

/-- Reads a criterion from the fields of a map. -/
def Criterion.ofEntries (entries : Document.Entries Extra) : Checked Criterion :=
  Checked.both Criterion.mk
    (Field.required "by" (Field.word Strategy.ofWords?) entries)
    (Field.required "value" Field.text entries)

/-- Reads a log record from the fields of a map. -/
def LogRecord.ofEntries (entries : Document.Entries Extra) : Checked LogRecord :=
  Checked.apply
    (Checked.both LogRecord.mk
      (Field.named "kind" (Field.word LogKind.ofName?) .info entries)
      (Field.named "indent" Field.count 0 entries))
    (Field.required "message" Field.text entries)

/-- A record that was read has no negative indent. -/
theorem LogRecord.indent_ofEntries {entries : Document.Entries Extra} {r : LogRecord}
    (h : ofEntries entries = .ok r) : 0 ≤ r.indent := by
  unfold ofEntries Checked.apply at h
  rw [Checked.both_eq_ok_iff] at h
  obtain ⟨f, message, hf, -, rfl⟩ := h
  rw [Checked.both_eq_ok_iff] at hf
  obtain ⟨kind, indent, -, hi, rfl⟩ := hf
  unfold Field.named at hi
  split at hi
  · rename_i d _
    cases hc : Field.count d with
    | error ps => simp [hc, Checked.at_] at hi
    | ok i =>
      simp only [hc, Checked.at_, Except.ok.injEq] at hi
      subst hi
      unfold Field.count at hc
      split at hc
      · split at hc
        · simp [Checked.problem] at hc
        · simp_all
      · simp at hc
  · simp only [Except.ok.injEq] at hi
    subst hi
    exact Int.le_refl 0

end Walkthrough
