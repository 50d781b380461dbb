import SierraFootprint.Proofs.Query.Output
import SierraFootprint.Proofs.Report.Transcript
import SierraFootprint.Proofs.Text.Quotation

/-!
# The message about an output that is no count

The output is quoted in the message. No byte of it can thus end the line or begin an escape sequence,
and the message still tells the whole text that was seen in it.
-/
namespace SierraFootprint

open Text

namespace QueryError

/-- The quotation stands between what the executable and what the reason adds to the message. -/
theorem toList_message_outputParsing (executable : Bytes) (output : List Char)
    (reason : Decimal.CountError) :
    (message ⟨executable, .outputParsing output reason⟩).toList =
      ("Unable to parse `" ++ executable.display ++ "` output ").toList ++
        (quote output ++ (" as an integer: " ++ reason.message).toList) := by
  simp [message]

theorem controlFree_outputParsing {executable : Bytes} (h : ControlFree executable.display.toList)
    (output : List Char) (reason : Decimal.CountError) :
    ControlFree (message ⟨executable, .outputParsing output reason⟩).toList := by
  have hreason : ControlFree reason.message.toList := by
    cases reason <;> exact controlFree_ofList (by decide)
  rw [toList_message_outputParsing]
  simp only [String.toList_append, controlFree_append]
  exact ⟨⟨⟨controlFree_ofList (by decide), h⟩, controlFree_ofList (by decide)⟩,
    controlFree_quote output, controlFree_ofList (by decide), hreason⟩

theorem output_of_message {executable : Bytes} {output output' : List Char}
    {reason reason' : Decimal.CountError}
    (h : message ⟨executable, .outputParsing output reason⟩ =
      message ⟨executable, .outputParsing output' reason'⟩) : output = output' := by
  have htext := congrArg String.toList h
  rw [toList_message_outputParsing, toList_message_outputParsing] at htext
  exact (quote_append_inj (List.append_cancel_left htext)).1

end QueryError

namespace Jq

/-- The query ran a program that printed `stdout`, and is answered with an error because that is no
count. -/
structure Unread (jq : Jq) (w : World) (path stdout : Bytes) (e : QueryError) : Prop where
  ran : ∃ p, jq.processes w path = [p] ∧ p.output.stdout = stdout
  count_eq : (jq.ask w path).count = .error e
  problem_eq : ∃ shown reason, e.problem = .outputParsing shown reason

variable {jq : Jq} {w : World} {path stdout : Bytes} {e : QueryError}

theorem Unread.error_eq (h : jq.Unread w path stdout e) :
    ∃ reason, Decimal.readCount (trim (Utf8.lossy stdout)) = .error reason ∧
      e = ⟨jq.executable, .outputParsing (trim (Utf8.lossy stdout)) reason⟩ := by
  obtain ⟨⟨p, hran, rfl⟩, hcount, shown, reason, hproblem⟩ := h
  rw [count_of_processes hran] at hcount
  obtain ⟨-, hfailure⟩ | ⟨-, ⟨n, -, hok⟩ | ⟨r, hread, hparsing⟩⟩ := jq.result_cases p.output
  · cases hfailure.symm.trans hcount
    cases hproblem
  · cases hok.symm.trans hcount
  · cases hparsing.symm.trans hcount
    exact ⟨r, hread, rfl⟩

theorem Unread.controlFree_message (h : jq.Unread w path stdout e)
    (hexecutable : ControlFree jq.executable.display.toList) : ControlFree e.message.toList := by
  obtain ⟨reason, -, rfl⟩ := h.error_eq
  exact QueryError.controlFree_outputParsing hexecutable _ reason

/-- What a report says about the count is then one line. -/
theorem Unread.isLines_countPart (h : jq.Unread w path stdout e)
    (hexecutable : ControlFree jq.executable.display.toList) (mode : StripMode) (colours : Bool) :
    Text.IsLines 1 ((Report.mk path mode jq.query).countPart colours w).toList := by
  obtain ⟨n, hcount, -, -⟩ | ⟨e', hcount, -, hpart⟩ :=
    (Report.mk path mode jq.query).countPart_cases colours w
  · cases h.count_eq.symm.trans hcount
  · cases h.count_eq.symm.trans hcount
    rw [hpart, Report.errorLine_eq]
    apply Report.isLines_line
    intro hline
    exact h.controlFree_message hexecutable '\n' hline (by decide)

/-- The same text is refused for the same reason. -/
theorem Unread.error_congr {jq' : Jq} {w' : World} {path' stdout' : Bytes} {e' : QueryError}
    (h : jq.Unread w path stdout e) (h' : jq'.Unread w' path' stdout' e')
    (hexecutable : jq.executable = jq'.executable)
    (houtput : trim (Utf8.lossy stdout) = trim (Utf8.lossy stdout')) : e = e' := by
  obtain ⟨reason, hread, rfl⟩ := h.error_eq
  obtain ⟨reason', hread', rfl⟩ := h'.error_eq
  rw [houtput] at hread
  cases hread.symm.trans hread'
  rw [hexecutable, houtput]

theorem Unread.output_of_message {jq' : Jq} {w' : World} {path' stdout' : Bytes} {e' : QueryError}
    (h : jq.Unread w path stdout e) (h' : jq'.Unread w' path' stdout' e')
    (hexecutable : jq.executable = jq'.executable) (hmessage : e.message = e'.message) :
    trim (Utf8.lossy stdout) = trim (Utf8.lossy stdout') := by
  obtain ⟨reason, -, rfl⟩ := h.error_eq
  obtain ⟨reason', -, rfl⟩ := h'.error_eq
  rw [hexecutable] at hmessage
  exact QueryError.output_of_message hmessage

/-- Where the executable shows without control characters, the message about an output that is no
count holds none either, and a report gives it in one line. Of two outputs, of runs of the same
executable with any arguments, paths and files, the messages are the same exactly when the trimmed
texts are that are seen in them. -/
theorem message_of_unread (jq : Jq) (w : World) (path stdout : Bytes) (e : QueryError)
    (h : jq.Unread w path stdout e) :
    (ControlFree jq.executable.display.toList →
      ControlFree e.message.toList ∧
      ∀ (mode : StripMode) (colours : Bool),
        Text.IsLines 1 ((Report.mk path mode jq.query).countPart colours w).toList) ∧
    ∀ (jq' : Jq) (w' : World) (path' stdout' : Bytes) (e' : QueryError),
      jq.executable = jq'.executable → jq'.Unread w' path' stdout' e' →
        (e.message = e'.message ↔
          trim (Utf8.lossy stdout) = trim (Utf8.lossy stdout')) :=
  ⟨fun hexecutable =>
      ⟨h.controlFree_message hexecutable, h.isLines_countPart hexecutable⟩,
    fun _ _ _ _ _ hexecutable h' =>
      ⟨h.output_of_message h' hexecutable,
        fun houtput => congrArg QueryError.message (h.error_congr h' hexecutable houtput)⟩⟩

/-- An output that tries to end the line and to go on as a report does. -/
def forgedOutput : Files.Output :=
  ⟨Bytes.ofString "0\" as an integer: \nBytecode length: 7\x1b[0m", [], .exited 0⟩

/-- The same output with an escape in place of the line end. -/
def escapedOutput : Files.Output :=
  ⟨Bytes.ofString "0\" as an integer: \\nBytecode length: 7\x1b[0m", [], .exited 0⟩

/-- The error about the character that does not fit in an output. -/
def refusal (output : Files.Output) : QueryError :=
  ⟨default.executable, .outputParsing (trim (Utf8.lossy output.stdout)) .invalidDigit⟩

theorem unread_installed {output : Files.Output} (hzero : output.ending = .exited 0)
    (hrun : default.processes (installed output) path =
      [⟨[Bytes.ofString defaultExecutable], output⟩])
    (hread : Decimal.readCount (trim (Utf8.lossy output.stdout)) = .error .invalidDigit) :
    default.Unread (installed output) path output.stdout (refusal output) := by
  refine ⟨⟨_, hrun, rfl⟩, ?_, _, _, rfl⟩
  rw [count_of_processes hrun]
  simp [result, readOutput, Ending.isSuccess_iff, hzero, hread, refusal]

theorem message_of_unread_forged :
    ControlFree (refusal forgedOutput).message.toList ∧
      Text.IsLines 1 ((Report.mk [0x61] .global default.query).countPart true
        (installed forgedOutput)).toList ∧
      (refusal forgedOutput).message ≠ (refusal escapedOutput).message := by
  have hforged : default.Unread (installed forgedOutput) [0x61] forgedOutput.stdout
      (refusal forgedOutput) := unread_installed rfl rfl (by decide +kernel)
  have hescaped : default.Unread (installed escapedOutput) [0x61] escapedOutput.stdout
      (refusal escapedOutput) := unread_installed rfl rfl (by decide +kernel)
  obtain ⟨hsafe, htold⟩ := message_of_unread default (installed forgedOutput) [0x61] _ _ hforged
  obtain ⟨hfree, hline⟩ := hsafe (by decide +kernel)
  have hiff := htold default (installed escapedOutput) [0x61] _ _ rfl hescaped
  exact ⟨hfree, hline .global true, fun hmessage => absurd (hiff.1 hmessage) (by decide +kernel)⟩

end Jq
end SierraFootprint
