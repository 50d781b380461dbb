import SierraFootprint.Proofs.Artifact.Message
import SierraFootprint.Proofs.Decimal.Grouping
import SierraFootprint.Proofs.Report.Parts
import SierraFootprint.Proofs.Text.Lines

/-!
# Reading a report back

What a report prints tells the values it gives. The part about the size comes first and has a known
number of lines, so the part about the count begins where it ends, and no text that another program
left behind can be taken for a value.
-/
namespace SierraFootprint

open Decimal Text

namespace Report

/-! ### Lines -/

theorem isLines_line (o : Opening) {body : String} (h : '\n' ∉ body.toList) :
    IsLines 1 (o.text ++ body ++ "\n").toList := by
  have hline : '\n' ∉ o.text.toList ++ body.toList := by
    simp only [List.mem_append, not_or]
    exact ⟨o.newline_not_mem_text, h⟩
  rw [String.toList_append, String.toList_append]
  exact isLines_one hline

theorem isLines_programLengthLine (n : Nat) : IsLines 1 (programLengthLine n).toList := by
  rw [programLengthLine_eq]
  exact isLines_line .length (not_mem_numeral (by decide) n)

theorem isLines_sizeLine (colours : Bool) (n : Nat) : IsLines 1 (sizeLine colours n).toList := by
  rw [sizeLine_eq]
  exact isLines_line (.size colours)
    (not_mem_sizeText (by decide) (by decide) (by decide +kernel) n)

/-- A line gives back its opening and its text. -/
theorem line_injective {a b : Opening} {s t : String}
    (h : a.text ++ s ++ "\n" = b.text ++ t ++ "\n") : a = b ∧ s = t := by
  have htext := congrArg String.toList h
  simp only [String.toList_append, List.append_cancel_right_eq] at htext
  obtain ⟨hopening, hbody⟩ := Opening.append_inj htext
  exact ⟨hopening, String.toList_injective hbody⟩

theorem eq_of_sizeLine_eq {colours colours' : Bool} {m n : Nat}
    (h : sizeLine colours m = sizeLine colours' n) : m = n := by
  rw [sizeLine_eq, sizeLine_eq] at h
  exact sizeText_injective (line_injective h).2

theorem eq_of_countLine_eq {colours colours' : Bool} {m n : Nat}
    (h : countLine colours m = countLine colours' n) : m = n := by
  rw [countLine_eq, countLine_eq] at h
  have hcount := congrArg String.toList (line_injective h).2
  rw [Decimal.toList_numeral, Decimal.toList_numeral] at hcount
  exact Decimal.digits_injective hcount

/-! ### Sizes -/

/-- A size is printed as its numeral in groups, and the word `bytes`. The numeral is that of no other
number, there is no other way to group it, and no two sizes are printed alike. -/
theorem sizeText_grouping (n : Nat) :
    ∃ g : Grouping, (sizeText n).toList = g.text ++ " bytes".toList ∧
      (∀ m, IsNumeral m (g.text.filter (· ≠ ',')) ↔ m = n) ∧
      (∀ g' : Grouping, IsNumeral n (g'.text.filter (· ≠ ',')) ↔ g' = g) ∧
      ∀ m, sizeText m = sizeText n ↔ m = n := by
  obtain ⟨g, hg⟩ := exists_grouping n
  have hnumeral : g.text.filter (· ≠ ',') = digits n := by rw [← hg, filter_groupedText]
  refine ⟨g, ?_, fun m => ?_, fun g' => ?_, fun m => sizeText_injective.eq_iff⟩
  · rw [toList_sizeText, hg]
  · rw [isNumeral_iff, hnumeral, digits_injective.eq_iff, eq_comm]
  · rw [isNumeral_iff, ← hnumeral]
    exact ⟨Grouping.eq_of_filter_text, fun h => by rw [h]⟩

example : sizeText 1000005 = "1,000,005 bytes" := by decide +kernel

/-! ### Parts -/

variable {report report' : Report} {colours colours' : Bool} {w w' : World}

/-- No file can make an error about it span lines. -/
theorem isLines_errorLine (hpath : 0x0A ∉ report.path) {e : ArtifactError}
    (h : w.artifact report.path = .error e) :
    IsLines 1 (errorLine colours e.isUnexpected e.message).toList := by
  rw [errorLine_eq]
  exact isLines_line _ (World.newline_not_mem_message hpath h)

theorem isLines_sizeLines (m n : Nat) :
    IsLines 2 (programLengthLine m ++ sizeLine colours n).toList := by
  rw [String.toList_append]
  exact (isLines_programLengthLine m).append (isLines_sizeLine colours n)

/-- The part about the size is an error in one line, or two lines with the size. -/
theorem isLines_sizePart (hpath : 0x0A ∉ report.path) :
    ((report.run colours w).summary.size = none →
      IsLines 1 (report.sizePart colours w).toList) ∧
    ∀ n, (report.run colours w).summary.size = some n →
      IsLines 2 (report.sizePart colours w).toList := by
  obtain ⟨artifact, -, hsize, hpart⟩ | ⟨e, he, hsize, hpart⟩ := report.sizePart_cases colours w
  · rw [hsize, hpart]
    exact ⟨nofun, fun _ _ => isLines_sizeLines _ _⟩
  · rw [hsize, hpart]
    exact ⟨fun _ => isLines_errorLine hpath he, nofun⟩

theorem sizeLines_ne_errorLine (m n : Nat) (isUnexpected : Bool) (message : String)
    (s t : List Char) :
    (programLengthLine m ++ sizeLine colours n).toList ++ s ≠
      (errorLine colours' isUnexpected message).toList ++ t := by
  intro h
  rw [programLengthLine_eq, errorLine_eq] at h
  simp only [String.toList_append, List.append_assoc] at h
  cases (Opening.append_inj h).1

theorem eq_of_sizeLines_eq {k l m n : Nat}
    (h : (programLengthLine k ++ sizeLine colours m).toList =
      (programLengthLine l ++ sizeLine colours' n).toList) : m = n := by
  rw [String.toList_append, String.toList_append] at h
  obtain ⟨-, hsize⟩ :=
    (isLines_programLengthLine k).append_inj (isLines_programLengthLine l) h
  exact eq_of_sizeLine_eq (String.toList_injective hsize)

/-- Whatever follows it, the part about the size gives the size and ends where it does. -/
theorem sizePart_append_inj (hpath : 0x0A ∉ report.path) (hpath' : 0x0A ∉ report'.path)
    {s t : List Char}
    (h : (report.sizePart colours w).toList ++ s = (report'.sizePart colours' w').toList ++ t) :
    (report.run colours w).summary.size = (report'.run colours' w').summary.size ∧ s = t := by
  obtain ⟨a, -, hsize, hpart⟩ | ⟨e, he, hsize, hpart⟩ := report.sizePart_cases colours w
  all_goals
    obtain ⟨a', -, hsize', hpart'⟩ | ⟨e', he', hsize', hpart'⟩ :=
      report'.sizePart_cases colours' w'
    all_goals rw [hpart, hpart'] at h
  · obtain ⟨hlines, hrest⟩ := (isLines_sizeLines _ _).append_inj (isLines_sizeLines _ _) h
    rw [hsize, hsize', eq_of_sizeLines_eq hlines]
    exact ⟨rfl, hrest⟩
  -- A size and an error are told apart by what they open with.
  · exact absurd h (sizeLines_ne_errorLine _ _ _ _ s t)
  · exact absurd h.symm (sizeLines_ne_errorLine _ _ _ _ t s)
  · rw [hsize, hsize']
    exact ⟨rfl, ((isLines_errorLine hpath he).append_inj (isLines_errorLine hpath' he') h).2⟩

theorem countPart_inj (h : report.countPart colours w = report'.countPart colours' w') :
    (report.run colours w).summary.count = (report'.run colours' w').summary.count := by
  obtain ⟨n, -, hcount, hpart⟩ | ⟨e, -, hcount, hpart⟩ := report.countPart_cases colours w
  all_goals
    obtain ⟨n', -, hcount', hpart'⟩ | ⟨e', -, hcount', hpart'⟩ :=
      report'.countPart_cases colours' w'
    all_goals rw [hpart, hpart'] at h
  · rw [hcount, hcount', eq_of_countLine_eq h]
  -- No message can be taken for a count, as it comes after a label of its own.
  · rw [countLine_eq, errorLine_eq] at h
    cases (line_injective h).1
  · rw [countLine_eq, errorLine_eq] at h
    cases (line_injective h).1
  · rw [hcount, hcount']

/-- What is printed determines the summary, whatever the files, the queries and the colours are, if
the paths hold no line end. The part about the size comes first: two lines if there is a size, and
one line if there is an error. -/
theorem summary_of_printed (report report' : Report) (colours colours' : Bool) (w w' : World)
    (hpath : 0x0A ∉ report.path) (hpath' : 0x0A ∉ report'.path) :
    ((report.run colours w).printed = (report'.run colours' w').printed →
      (report.run colours w).summary = (report'.run colours' w').summary) ∧
    (report.run colours w).printed =
      report.sizePart colours w ++ report.countPart colours w ∧
    ((report.run colours w).summary.size = none →
      IsLines 1 (report.sizePart colours w).toList) ∧
    ∀ n, (report.run colours w).summary.size = some n →
      IsLines 2 (report.sizePart colours w).toList := by
  refine ⟨fun h => ?_, report.printed_run colours w, isLines_sizePart hpath⟩
  have hparts := congrArg String.toList h
  rw [printed_run, printed_run, String.toList_append, String.toList_append] at hparts
  obtain ⟨hsize, hrest⟩ := sizePart_append_inj hpath hpath' hparts
  exact congrArg₂ Summary.mk hsize (countPart_inj (String.toList_injective hrest))

/-- A report on a file `a` with a count that is known. -/
def known (mode : StripMode) (count : Nat) : Report :=
  ⟨[0x61], mode, .fixed (.ok count)⟩

/-- Reports in different modes on a file that is missing in different worlds. -/
theorem summary_of_printed_missing :
    ((known .global 7).run false (.emptyDirectory [0x62] none)).summary =
        ((known .leading 7).run false (.emptyDirectory [0x63] (some []))).summary ∧
      IsLines 1 ((known .global 7).sizePart false (.emptyDirectory [0x62] none)).toList := by
  obtain ⟨hsummary, -, hlines, -⟩ := summary_of_printed (known .global 7) (known .leading 7)
    false false (.emptyDirectory [0x62] none) (.emptyDirectory [0x63] (some [])) (by decide) (by decide)
  exact ⟨hsummary rfl, hlines rfl⟩

end Report
end SierraFootprint
