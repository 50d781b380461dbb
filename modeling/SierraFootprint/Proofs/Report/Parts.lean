import SierraFootprint.Proofs.Decimal.CountText
import SierraFootprint.Report
import Mathlib.Data.Fintype.Sigma
import Mathlib.Data.Fintype.Sum
import Mathlib.Tactic.DeriveFintype

/-!
# The two parts of a report

A report prints what came of the size, then what came of the count. Each part is made of printed
texts with an opening that tells what the text is about.
-/
namespace SierraFootprint.Report

/-! ### Openings -/

/-- What a printed text begins with. -/
inductive Opening
  | length
  | size (colours : Bool)
  | count (colours : Bool)
  | error (colours isUnexpected : Bool)
  deriving DecidableEq, Fintype

namespace Opening

def text : Opening → String
  | length => "Sierra program length: "
  | size colours => Colour.green.paint colours "Sierra program bytecode size:" ++ " "
  | count colours => Colour.green.paint colours "Bytecode length:" ++ " "
  | error colours isUnexpected => Colour.red.paint colours (errorLabel isUnexpected) ++ ": "

/-- No opening begins another one, with or without colours. -/
theorem eq_of_begins : ∀ a b : Opening, a.text.toList <+: b.text.toList → a = b := by
  decide +kernel

theorem newline_not_mem_text : ∀ o : Opening, '\n' ∉ o.text.toList := by
  decide +kernel

theorem unique {a b : Opening} {printed : List Char} (ha : a.text.toList <+: printed)
    (hb : b.text.toList <+: printed) : a = b := by
  obtain hab | hba := List.prefix_or_prefix_of_prefix ha hb
  · exact eq_of_begins a b hab
  · exact (eq_of_begins b a hba).symm

/-- An opening can be told from what follows it. -/
theorem append_inj {a b : Opening} {s t : List Char}
    (h : a.text.toList ++ s = b.text.toList ++ t) : a = b ∧ s = t := by
  obtain rfl : a = b := unique (List.prefix_append _ s) (h ▸ List.prefix_append _ t)
  exact ⟨rfl, List.append_cancel_left h⟩

end Opening

/-! ### Lines -/

theorem programLengthLine_eq (n : Nat) :
    programLengthLine n = Opening.length.text ++ Decimal.numeral n ++ "\n" := rfl

theorem sizeLine_eq (colours : Bool) (n : Nat) :
    sizeLine colours n = (Opening.size colours).text ++ sizeText n ++ "\n" := rfl

theorem countLine_eq (colours : Bool) (n : Nat) :
    countLine colours n = (Opening.count colours).text ++ Decimal.numeral n ++ "\n" := rfl

theorem errorLine_eq (colours isUnexpected : Bool) (message : String) :
    errorLine colours isUnexpected message =
      (Opening.error colours isUnexpected).text ++ message ++ "\n" := rfl

theorem toList_sizeText (n : Nat) :
    (sizeText n).toList = Decimal.groupedText n ++ " bytes".toList := by
  rw [sizeText, String.toList_append, Decimal.grouped, String.toList_ofList]

theorem sizeText_injective : Function.Injective sizeText := by
  intro m n h
  have hgroups := congrArg String.toList h
  rw [toList_sizeText, toList_sizeText] at hgroups
  exact Decimal.groupedText_injective (List.append_cancel_right hgroups)

theorem not_mem_numeral {c : Char} (hdigit : ¬ c.isDigit) (n : Nat) :
    c ∉ (Decimal.numeral n).toList := by
  rw [Decimal.toList_numeral]
  exact fun h => hdigit (Decimal.isDigit_of_mem_digits h)

theorem not_mem_sizeText {c : Char} (hdigit : ¬ c.isDigit) (hcomma : c ≠ ',')
    (hword : c ∉ " bytes".toList) (n : Nat) : c ∉ (sizeText n).toList := by
  rw [toList_sizeText, List.mem_append, not_or]
  exact ⟨fun h => (Decimal.mem_groupedText h).elim hdigit hcomma, hword⟩

/-! ### Parts -/

variable (report : Report) (colours : Bool) (w : World)

/-- What is printed about the size. -/
def sizePart : String :=
  (measureSize colours report.mode (w.artifact report.path)).withLine (sizeLine colours)

/-- What is printed about the count. -/
def countPart : String :=
  (measureCount colours (report.query.ask w report.path).count).withLine (countLine colours)

theorem printed_run :
    (report.run colours w).printed = report.sizePart colours w ++ report.countPart colours w :=
  rfl

variable {report colours w}

/-- The size is given in two lines. -/
theorem sizePart_of_ok {artifact : Artifact} (h : w.artifact report.path = .ok artifact) :
    report.sizePart colours w = programLengthLine artifact.program.length ++
      sizeLine colours (artifact.program.byteSize report.mode) := by
  rw [sizePart, h]
  rfl

theorem sizePart_of_error {e : ArtifactError} (h : w.artifact report.path = .error e) :
    report.sizePart colours w = errorLine colours e.isUnexpected e.message := by
  rw [sizePart, h]
  exact String.append_empty

theorem countPart_of_ok {n : Nat} (h : (report.query.ask w report.path).count = .ok n) :
    report.countPart colours w = countLine colours n := by
  rw [countPart, h]
  exact String.empty_append

theorem countPart_of_error {e : QueryError}
    (h : (report.query.ask w report.path).count = .error e) :
    report.countPart colours w = errorLine colours e.isUnexpected e.message := by
  rw [countPart, h]
  exact String.append_empty

variable (report colours w)

theorem sizePart_cases :
    (∃ artifact, w.artifact report.path = .ok artifact ∧
      (report.run colours w).summary.size = some (artifact.program.byteSize report.mode) ∧
      report.sizePart colours w = programLengthLine artifact.program.length ++
        sizeLine colours (artifact.program.byteSize report.mode)) ∨
    ∃ e, w.artifact report.path = .error e ∧ (report.run colours w).summary.size = none ∧
      report.sizePart colours w = errorLine colours e.isUnexpected e.message := by
  cases h : w.artifact report.path with
  | ok artifact => exact .inl ⟨artifact, rfl, by rw [run, h]; rfl, sizePart_of_ok h⟩
  | error e => exact .inr ⟨e, rfl, by rw [run, h]; rfl, sizePart_of_error h⟩

theorem countPart_cases :
    (∃ n, (report.query.ask w report.path).count = .ok n ∧
      (report.run colours w).summary.count = some n ∧
      report.countPart colours w = countLine colours n) ∨
    ∃ e, (report.query.ask w report.path).count = .error e ∧
      (report.run colours w).summary.count = none ∧
      report.countPart colours w = errorLine colours e.isUnexpected e.message := by
  cases h : (report.query.ask w report.path).count with
  | ok n => exact .inl ⟨n, rfl, by rw [run, compose, h]; rfl, countPart_of_ok h⟩
  | error e => exact .inr ⟨e, rfl, by rw [run, compose, h]; rfl, countPart_of_error h⟩

end SierraFootprint.Report
