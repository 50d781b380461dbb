import SierraFootprint.Proofs.Artifact.Content
import SierraFootprint.Proofs.Report.Transcript
import SierraFootprint.Proofs.Text.Deletion

/-!
# Reports with and without colours

Colours put escape sequences around the labels of a report and change nothing else. Paths and
messages may hold parts of such sequences, but each of them is followed by the end of a line, which
no sequence goes across.
-/
namespace SierraFootprint

namespace Colour

/-- The escape sequences that begin or end a colour. -/
def codes : Text.PrefixCode where
  words := [green.begins.toList, red.begins.toList, ends.toList]
  ne_nil := by decide +kernel
  eq_of_begins := by decide +kernel

theorem codes_lacks_newline : codes.Lacks '\n' := by
  decide +kernel

theorem head?_of_mem_codes : ∀ word ∈ codes.words, word.head? = some '\x1b' := by
  decide +kernel

theorem begins_mem_codes (colour : Colour) : colour.begins.toList ∈ codes.words := by
  cases colour <;> simp [codes]

theorem ends_mem_codes : ends.toList ∈ codes.words := by
  simp [codes]

theorem delete_append_of_plain {text : List Char} (h : '\x1b' ∉ text) (rest : List Char) :
    codes.delete (text ++ rest) = text ++ codes.delete rest := by
  apply Text.PrefixCode.delete_append_of_not_first
  intro word hword c hc hhead
  rw [head?_of_mem_codes word hword, Option.some.injEq] at hhead
  exact h (hhead ▸ hc)

/-- Deleting the sequences takes the colour off a label. -/
theorem delete_paint (colour : Colour) (wanted : Bool) {label after : String}
    (hlabel : '\x1b' ∉ label.toList) (hafter : '\x1b' ∉ after.toList) (rest : List Char) :
    codes.delete ((colour.paint wanted label ++ after).toList ++ rest) =
      (label ++ after).toList ++ codes.delete rest := by
  cases wanted with
  | false =>
    have hplain : '\x1b' ∉ (label ++ after).toList := by
      rw [String.toList_append, List.mem_append, not_or]
      exact ⟨hlabel, hafter⟩
    exact delete_append_of_plain hplain rest
  | true =>
    rw [paint, if_pos rfl]
    simp only [String.toList_append, List.append_assoc]
    rw [Text.PrefixCode.delete_word (begins_mem_codes colour), delete_append_of_plain hlabel,
      Text.PrefixCode.delete_word ends_mem_codes, delete_append_of_plain hafter]

-- A sequence that comes about by a deletion stays.
example : codes.delete "\x1b[1;9\x1b[0m1mx\x1b[1;92my".toList = "\x1b[1;91mxy".toList := by
  decide +kernel

end Colour

namespace Report

open Text

/-! ### Lines -/

/-- The opening of the same line without colours. -/
def Opening.plain : Opening → Opening
  | length => length
  | size _ => size false
  | count _ => count false
  | error _ isUnexpected => error false isUnexpected

theorem delete_opening (o : Opening) (rest : List Char) :
    Colour.codes.delete (o.text.toList ++ rest) =
      o.plain.text.toList ++ Colour.codes.delete rest := by
  have herror : ∀ u, '\x1b' ∉ (errorLabel u).toList := by decide +kernel
  have hspace : '\x1b' ∉ " ".toList := by decide
  cases o with
  | length => exact Colour.delete_append_of_plain (by decide +kernel) rest
  | size colours => exact Colour.delete_paint .green colours (by decide +kernel) hspace rest
  | count colours => exact Colour.delete_paint .green colours (by decide +kernel) hspace rest
  | error colours isUnexpected =>
    exact Colour.delete_paint .red colours (herror isUnexpected) (by decide) rest

/-- Lines that differ in nothing but colours are the same without them. -/
theorem delete_line_congr {a b : Opening} (h : a.plain = b.plain) (body : String) :
    Colour.codes.delete (a.text ++ body ++ "\n").toList =
      Colour.codes.delete (b.text ++ body ++ "\n").toList := by
  simp only [String.toList_append, List.append_assoc, delete_opening, h]

/-- Two texts can be treated apart if the first one ends a line. -/
theorem delete_append_of_line {line : String} (h : line.toList.getLast? = some '\n')
    (rest : String) :
    Colour.codes.delete (line ++ rest).toList =
      Colour.codes.delete line.toList ++ Colour.codes.delete rest.toList := by
  rw [String.toList_append]
  exact Text.PrefixCode.delete_append_of_ends Colour.codes_lacks_newline h rest.toList

theorem getLast?_line (body : String) : (body ++ "\n").toList.getLast? = some '\n' := by
  simp

theorem escape_not_mem_programLengthLine (n : Nat) : '\x1b' ∉ (programLengthLine n).toList := by
  have hopening : '\x1b' ∉ Opening.length.text.toList := by decide +kernel
  have hend : '\x1b' ∉ "\n".toList := by decide +kernel
  rw [programLengthLine_eq]
  simp only [String.toList_append, List.mem_append, not_or]
  exact ⟨⟨hopening, not_mem_numeral (by decide) n⟩, hend⟩

/-! ### Runs -/

variable (report : Report) (colours : Bool) (w : World)

theorem summary_run : (report.run colours w).summary = (report.run false w).summary := by
  have hsize : ∀ artifact, (measureSize colours report.mode artifact).value =
      (measureSize false report.mode artifact).value := by
    intro artifact
    cases artifact <;> rfl
  have hcount : ∀ count, (measureCount colours count).value = (measureCount false count).value := by
    intro count
    cases count <;> rfl
  exact congrArg₂ Summary.mk (hsize _) (hcount _)

theorem delete_sizePart :
    Colour.codes.delete (report.sizePart colours w).toList =
      Colour.codes.delete (report.sizePart false w).toList := by
  cases hread : w.artifact report.path with
  | ok artifact =>
    have hend : (programLengthLine artifact.program.length).toList.getLast? = some '\n' :=
      getLast?_line _
    rw [sizePart_of_ok hread, sizePart_of_ok hread, delete_append_of_line hend,
      delete_append_of_line hend]
    exact congrArg _ (delete_line_congr (a := .size colours) (b := .size false) rfl _)
  | error e =>
    rw [sizePart_of_error hread, sizePart_of_error hread]
    exact delete_line_congr (a := .error colours _) (b := .error false _) rfl _

theorem delete_countPart :
    Colour.codes.delete (report.countPart colours w).toList =
      Colour.codes.delete (report.countPart false w).toList := by
  cases hcount : (report.query.ask w report.path).count with
  | ok n =>
    rw [countPart_of_ok hcount, countPart_of_ok hcount]
    exact delete_line_congr (a := .count colours) (b := .count false) rfl _
  | error e =>
    rw [countPart_of_error hcount, countPart_of_error hcount]
    exact delete_line_congr (a := .error colours _) (b := .error false _) rfl _

/-- Whatever is said about the size, the line is ended. -/
theorem getLast?_sizePart : (report.sizePart colours w).toList.getLast? = some '\n' := by
  cases hread : w.artifact report.path with
  | ok artifact =>
    rw [sizePart_of_ok hread, sizeLine_eq, ← String.append_assoc]
    exact getLast?_line _
  | error e =>
    rw [sizePart_of_error hread, errorLine_eq]
    exact getLast?_line _

theorem delete_printed :
    Colour.codes.delete (report.run colours w).printed.toList =
      Colour.codes.delete (report.run false w).printed.toList := by
  have hend := fun colours => report.getLast?_sizePart colours w
  rw [printed_run, printed_run, delete_append_of_line (hend colours),
    delete_append_of_line (hend false), delete_sizePart, delete_countPart]

/-- A report with colours gives the same values, asks the same and leaves the same world as one
without, and the two print the same text up to the escape sequences of colours, be they of the report
or of the messages in it. The line with the number of felts, which comes first if the artifact is
read, is the same in both and holds no escape. -/
theorem colours_decorate (report : Report) (w : World) :
    (report.run true w).summary = (report.run false w).summary ∧
    (report.run true w).calls = (report.run false w).calls ∧
    (report.run true w).world = (report.run false w).world ∧
    Colour.codes.delete (report.run true w).printed.toList =
      Colour.codes.delete (report.run false w).printed.toList ∧
    ∀ artifact, w.artifact report.path = .ok artifact →
      IsLines 1 (programLengthLine artifact.program.length).toList ∧
      '\x1b' ∉ (programLengthLine artifact.program.length).toList ∧
      ∀ colours, (programLengthLine artifact.program.length).toList <+:
        (report.run colours w).printed.toList := by
  refine ⟨report.summary_run true w, rfl, rfl, report.delete_printed true w,
    fun artifact hread => ⟨isLines_programLengthLine _, escape_not_mem_programLengthLine _,
      fun colours => ?_⟩⟩
  rw [printed_run, sizePart_of_ok hread]
  simp only [String.toList_append, List.append_assoc]
  exact List.prefix_append _ _

/-- A report on a file `a` with an error whose message begins with a whole escape sequence and ends
with a part of one. -/
def overpainted : Report :=
  ⟨[0x61], .global, .fixed (.error ⟨[0x6A, 0x71], .spawning (.other "\x1b[1;91m-\x1b[1;")⟩)⟩

/-- A file `a` with a program of one felt. -/
def oneFelt : World :=
  .holding (Utf8.encode "\x7b\"sierra_program\":[\"0x1\"]\x7d".toList)

theorem colours_decorate_overpainted :
    oneFelt.artifact overpainted.path = .ok ⟨⟨["0x1"]⟩⟩ ∧
      Colour.codes.delete (overpainted.run true oneFelt).printed.toList =
        Colour.codes.delete (overpainted.run false oneFelt).printed.toList ∧
      "Sierra program length: 1\n".toList <+: (overpainted.run true oneFelt).printed.toList := by
  have hread : oneFelt.artifact overpainted.path = .ok ⟨⟨["0x1"]⟩⟩ := rfl
  obtain ⟨-, -, -, hdelete, hfelts⟩ := colours_decorate overpainted oneFelt
  obtain ⟨-, -, hline⟩ := hfelts _ hread
  exact ⟨hread, hdelete, hline true⟩

end Report
end SierraFootprint
