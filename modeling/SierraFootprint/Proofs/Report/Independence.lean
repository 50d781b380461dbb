import SierraFootprint.Proofs.Decimal.Grouping
import SierraFootprint.Proofs.Report.Parts

/-!
# The measurements of a report do not interfere

The size does not depend on the query nor the count on the mode, and neither does what is printed
about them. Each measurement ends with a value or with a labelled error, and what it prints is
written out here character by character.
-/
namespace SierraFootprint

/-- The same query, which notes first the path it is asked about. -/
def Query.noting (query : Query) : Query :=
  ⟨fun w path =>
    { query.ask w path with calls := [path] :: (query.ask w path).calls }⟩

namespace Report

/-! ### Labels -/

/-- What a label of errors begins with. -/
def capital (isUnexpected : Bool) : Char :=
  if isUnexpected then 'U' else 'E'

theorem capital_mem_errorLabel : ∀ u : Bool, capital u ∈ (errorLabel u).toList := by
  decide +kernel

theorem isError_of_capital_mem :
    ∀ (u : Bool) (o : Opening), capital u ∈ o.text.toList → ∃ colours, o = .error colours u := by
  decide +kernel

theorem not_label_infix {u : Bool} {printed : List Char} (h : capital u ∉ printed) :
    ¬ (errorLabel u).toList <:+: printed :=
  fun hlabel => h (List.IsInfix.subset hlabel (capital_mem_errorLabel u))

theorem capital_not_mem_line {u : Bool} {o : Opening} (ho : ∀ colours, o ≠ .error colours u)
    {body : String} (hbody : capital u ∉ body.toList) :
    capital u ∉ (o.text ++ body ++ "\n").toList := by
  have hend : ∀ u : Bool, capital u ∉ "\n".toList := by decide +kernel
  simp only [String.toList_append, List.mem_append, not_or]
  refine ⟨⟨fun h => ?_, hbody⟩, hend u⟩
  obtain ⟨colours, hcolours⟩ := isError_of_capital_mem u o h
  exact ho colours hcolours

theorem capital_not_isDigit (u : Bool) : ¬ (capital u).isDigit := by
  revert u
  decide

theorem capital_not_mem_sizeLines (u colours : Bool) (m n : Nat) :
    capital u ∉ (programLengthLine m ++ sizeLine colours n).toList := by
  have hcomma : ∀ u, capital u ≠ ',' := by decide
  have hword : ∀ u, capital u ∉ " bytes".toList := by decide +kernel
  rw [String.toList_append, List.mem_append, not_or, programLengthLine_eq, sizeLine_eq]
  exact ⟨capital_not_mem_line (by simp) (not_mem_numeral (capital_not_isDigit u) m),
    capital_not_mem_line (by simp)
      (not_mem_sizeText (capital_not_isDigit u) (hcomma u) (hword u) n)⟩

theorem capital_not_mem_countLine (u colours : Bool) (n : Nat) :
    capital u ∉ (countLine colours n).toList := by
  rw [countLine_eq]
  exact capital_not_mem_line (by simp) (not_mem_numeral (capital_not_isDigit u) n)

/-! ### What is printed -/

/-- A label between the code of a colour and the code that ends it, if colours are wanted. -/
def highlighted (colours : Bool) (code label : String) : String :=
  if colours then code ++ label ++ "\x1b[0m" else label

/-- A text without either label of an error. -/
def HasNoLabel (printed : String) : Prop :=
  ∀ label ∈ ["Unexpected error", "Error"], ¬ label.toList <:+: printed.toList

/-- A measurement failed. It has no value, and prints one label of an error with a message. -/
structure Fails (m : Measured) (colours isUnexpected : Bool) (message part : String) : Prop where
  value_eq : m.value = none
  printed_eq : m.printed = part
  part_eq : part = highlighted colours "\x1b[1;91m"
    (if isUnexpected then "Unexpected error" else "Error") ++ ": " ++ message ++ "\n"

/-- The size of a program was measured. The number of felts is printed in making the measurement,
and a line with the size, in groups of three digits, comes after it. -/
structure GivesSize (m : Measured) (colours : Bool) (program : Program) (mode : StripMode)
    (part : String) : Prop where
  value_eq : m.value = some (program.byteSize mode)
  printed_eq : m.printed = "Sierra program length: " ++ toString program.length ++ "\n"
  part_eq : ∃ g : Decimal.Grouping,
    Decimal.IsNumeral (program.byteSize mode) (g.text.filter (· ≠ ',')) ∧
    part = m.printed ++ (highlighted colours "\x1b[1;92m" "Sierra program bytecode size:" ++ " " ++
      String.ofList g.text ++ " bytes" ++ "\n")
  hasNoLabel : HasNoLabel part

/-- A count was answered. Nothing is printed in making the measurement, and a line with the count
comes after it. -/
structure GivesCount (m : Measured) (colours : Bool) (n : Nat) (part : String) : Prop where
  value_eq : m.value = some n
  printed_eq : m.printed = ""
  part_eq : part = m.printed ++ (highlighted colours "\x1b[1;92m" "Bytecode length:" ++ " " ++
    toString n ++ "\n")
  hasNoLabel : HasNoLabel part

theorem hasNoLabel_of_capitals {printed : String} (h : ∀ u, capital u ∉ printed.toList) :
    HasNoLabel printed := by
  have hlabels : ∀ label ∈ ["Unexpected error", "Error"], ∃ u, label = errorLabel u := by
    simp [errorLabel]
  intro label hmem
  obtain ⟨u, rfl⟩ := hlabels label hmem
  exact not_label_infix (h u)

theorem numeral_eq_toString (n : Nat) : Decimal.numeral n = toString n :=
  Nat.repr_eq_ofList_toDigits.symm

/-- The size line with the numeral that its groups stand for. -/
theorem exists_sizeLine_eq (colours : Bool) (n : Nat) :
    ∃ g : Decimal.Grouping, Decimal.IsNumeral n (g.text.filter (· ≠ ',')) ∧
      sizeLine colours n = highlighted colours "\x1b[1;92m" "Sierra program bytecode size:" ++ " " ++
        String.ofList g.text ++ " bytes" ++ "\n" := by
  obtain ⟨g, hg⟩ := Decimal.exists_grouping n
  refine ⟨g, ?_, ?_⟩
  · rw [← hg, Decimal.filter_groupedText]
    exact Decimal.isNumeral_digits n
  · rw [sizeLine, sizeText, Decimal.grouped, hg, ← String.append_assoc]
    rfl

variable (report : Report) (colours : Bool) (w : World)

theorem givesSize_or_fails :
    let size := measureSize colours report.mode (w.artifact report.path)
    (∃ artifact, w.artifact report.path = .ok artifact ∧
      GivesSize size colours artifact.program report.mode (report.sizePart colours w)) ∨
    ∃ e, w.artifact report.path = .error e ∧
      Fails size colours e.isUnexpected e.message (report.sizePart colours w) := by
  cases h : w.artifact report.path with
  | ok artifact =>
    obtain ⟨g, hnumeral, hline⟩ :=
      exists_sizeLine_eq colours (artifact.program.byteSize report.mode)
    refine .inl ⟨artifact, rfl, rfl, ?_, ⟨g, hnumeral, ?_⟩, ?_⟩
    · rw [← numeral_eq_toString]
      rfl
    · rw [sizePart_of_ok h, hline]
      rfl
    · rw [sizePart_of_ok h]
      exact hasNoLabel_of_capitals fun u => capital_not_mem_sizeLines u colours _ _
  | error e => exact .inr ⟨e, rfl, rfl, (sizePart_of_error h).symm, sizePart_of_error h⟩

theorem givesCount_or_fails :
    let count := measureCount colours (report.query.ask w report.path).count
    (∃ n, (report.query.ask w report.path).count = .ok n ∧
      GivesCount count colours n (report.countPart colours w)) ∨
    ∃ e, (report.query.ask w report.path).count = .error e ∧
      Fails count colours e.isUnexpected e.message (report.countPart colours w) := by
  cases h : (report.query.ask w report.path).count with
  | ok n =>
    refine .inl ⟨n, rfl, rfl, rfl, ?_, ?_⟩
    · rw [countPart_of_ok h, countLine, numeral_eq_toString]
      exact String.empty_append.symm
    · rw [countPart_of_ok h]
      exact hasNoLabel_of_capitals fun u => capital_not_mem_countLine u colours n
  | error e => exact .inr ⟨e, rfl, rfl, (countPart_of_error h).symm, countPart_of_error h⟩

/-! ### Runs -/

/-- The artifact is read and the query asked once, about the path as it is, in the world the report
begins in, and what is printed about the size comes before what is printed about the count. Another
query changes neither the size nor what is printed about it, and another mode neither the count nor
what is printed about it nor what the query does. A measurement has a value, which is printed with
its own label and without one of an error, or it has none and one error is printed with its label. -/
theorem measurements_independent :
    let size := measureSize colours report.mode (w.artifact report.path)
    let answer := report.query.ask w report.path
    let count := measureCount colours answer.count
    ((report.run colours w).summary = ⟨size.value, count.value⟩ ∧
      (report.run colours w).printed =
        report.sizePart colours w ++ report.countPart colours w) ∧
    (({ report with query := report.query.noting }.run colours w).calls =
        [report.path] :: answer.calls ∧
      (report.run colours w).calls = answer.calls ∧
      (report.run colours w).world = answer.world) ∧
    (∀ query : Query,
      ({ report with query := query }.run colours w).summary.size =
          (report.run colours w).summary.size ∧
        { report with query := query }.sizePart colours w = report.sizePart colours w) ∧
    (∀ mode : StripMode,
      ({ report with mode := mode }.run colours w).summary.count =
          (report.run colours w).summary.count ∧
        ({ report with mode := mode }.run colours w).calls = (report.run colours w).calls ∧
        ({ report with mode := mode }.run colours w).world = (report.run colours w).world ∧
        { report with mode := mode }.countPart colours w = report.countPart colours w) ∧
    ((∃ artifact, w.artifact report.path = .ok artifact ∧
        GivesSize size colours artifact.program report.mode (report.sizePart colours w)) ∨
      ∃ e, w.artifact report.path = .error e ∧
        Fails size colours e.isUnexpected e.message (report.sizePart colours w)) ∧
    ((∃ n, answer.count = .ok n ∧
        GivesCount count colours n (report.countPart colours w)) ∨
      ∃ e, answer.count = .error e ∧
        Fails count colours e.isUnexpected e.message (report.countPart colours w)) :=
  ⟨⟨rfl, rfl⟩, ⟨rfl, rfl, rfl⟩, fun _ => ⟨rfl, rfl⟩, fun _ => ⟨rfl, rfl, rfl, rfl⟩,
    report.givesSize_or_fails colours w, report.givesCount_or_fails colours w⟩

end Report
end SierraFootprint
