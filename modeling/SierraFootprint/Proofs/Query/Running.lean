import SierraFootprint.Proofs.Tool.Processes
import SierraFootprint.Query.Basic

/-!
# When a query runs a program

Asking looks for the executable, starts it and reads what it printed. An error is unexpected exactly
when nothing ran; otherwise one program ran, with the arguments of the query and the path as it is.
-/
namespace SierraFootprint

theorem QueryError.isUnexpected_iff (e : QueryError) :
    e.isUnexpected ↔
      (∃ l, e.problem = .executableNotFound l) ∨ ∃ s, e.problem = .spawning s := by
  unfold isUnexpected
  cases e.problem <;> simp

theorem QueryError.not_isUnexpected_iff (e : QueryError) :
    ¬ e.isUnexpected ↔
      (∃ ending stderr, e.problem = .failure ending stderr) ∨
        ∃ output reason, e.problem = .outputParsing output reason := by
  unfold isUnexpected
  cases e.problem <;> simp

namespace Jq

variable (jq : Jq) (w : World) (path : Bytes)

/-- The programs that run when the query is asked about a path. -/
def processes : List Tool.Started :=
  match Tool.lookup w jq.executable with
  | .error _ => []
  | .ok _ => Tool.processes w jq.executable (jq.callArguments path)

/-- Nothing runs unless the executable is found and can be started. -/
theorem ask_cases :
    (∃ problem, jq.ask w path = ⟨.error ⟨jq.executable, problem⟩, [], w⟩ ∧
      ((∃ l, problem = .executableNotFound l) ∨ ∃ s, problem = .spawning s) ∧
      jq.processes w path = []) ∨
    ∃ p, jq.ask w path = ⟨jq.result p.output, [jq.callArguments path], w⟩ ∧
      jq.processes w path = [p] := by
  unfold ask processes
  cases Tool.lookup w jq.executable with
  | error l => exact .inl ⟨.executableNotFound l, rfl, .inl ⟨l, rfl⟩, rfl⟩
  | ok place =>
    rw [Tool.processes_eq]
    cases Tool.spawn w jq.executable (jq.callArguments path) with
    | error s => exact .inl ⟨.spawning s, rfl, .inr ⟨s, rfl⟩, rfl⟩
    | ok p => exact .inr ⟨p, rfl, rfl⟩

/-- The answer is read from what the program left behind that ran. -/
theorem count_of_processes {jq : Jq} {w : World} {path : Bytes} {p : Tool.Started}
    (h : jq.processes w path = [p]) : (jq.ask w path).count = jq.result p.output := by
  obtain ⟨problem, -, -, hnone⟩ | ⟨q, hask, hone⟩ := jq.ask_cases w path
  · cases hnone.symm.trans h
  · cases hone.symm.trans h
    rw [hask]

/-- What is made of what a program left behind. -/
theorem result_cases (output : Files.Output) :
    (output.ending ≠ .exited 0 ∧ jq.result output =
      .error ⟨jq.executable, .failure output.ending (Utf8.lossy output.stderr)⟩) ∨
    output.ending = .exited 0 ∧
      ((∃ n, Decimal.readCount (Text.trim (Utf8.lossy output.stdout)) = .ok n ∧
        jq.result output = .ok n) ∨
      ∃ reason, Decimal.readCount (Text.trim (Utf8.lossy output.stdout)) = .error reason ∧
        jq.result output = .error ⟨jq.executable,
          .outputParsing (Text.trim (Utf8.lossy output.stdout)) reason⟩) := by
  by_cases hsuccess : output.ending = .exited 0
  · refine .inr ⟨hsuccess, ?_⟩
    simp only [result, Ending.isSuccess_iff, hsuccess, if_true, readOutput]
    cases Decimal.readCount (Text.trim (Utf8.lossy output.stdout)) with
    | ok n => exact .inl ⟨n, rfl, rfl⟩
    | error reason => exact .inr ⟨reason, rfl, rfl⟩
  · exact .inl ⟨hsuccess, by simp [result, hsuccess]⟩

/-- A program that ran is not to blame for an unexpected error. -/
theorem not_isUnexpected_of_result {output : Files.Output} {e : QueryError}
    (h : jq.result output = .error e) : ¬ e.isUnexpected := by
  rw [QueryError.not_isUnexpected_iff]
  obtain ⟨-, hfailure⟩ | ⟨-, ⟨n, -, hok⟩ | ⟨reason, -, hparsing⟩⟩ := jq.result_cases output
  · obtain rfl := Except.error.inj (hfailure.symm.trans h)
    exact .inl ⟨_, _, rfl⟩
  · cases hok.symm.trans h
  · obtain rfl := Except.error.inj (hparsing.symm.trans h)
    exact .inr ⟨_, _, rfl⟩

theorem isProgram_of_mem_processes {p : Tool.Started} (h : p ∈ jq.processes w path) :
    Tool.IsProgram w p := by
  unfold processes at h
  split at h
  · cases h
  · exact Tool.isProgram_of_mem_processes h

/-- An error is unexpected exactly when no program ran. Otherwise exactly one ran, and what it left
behind decides the answer. Each program that ran was called with the arguments of the query in
order, the filter, and the path as it is. -/
theorem isUnexpected_iff_not_run :
    ((∃ e, (jq.ask w path).count = .error e ∧ e.isUnexpected) ↔ jq.processes w path = []) ∧
      (jq.processes w path = [] ∨
        ∃ p, jq.processes w path = [p] ∧ Tool.IsProgram w p ∧
          (jq.ask w path).count = jq.result p.output) ∧
      (jq.ask w path).calls = (jq.processes w path).map
        (fun _ => jq.arguments ++ [Bytes.ofString ".sierra_program | length", path]) ∧
      ∀ e : QueryError,
        (e.isUnexpected ↔
          (∃ l, e.problem = .executableNotFound l) ∨ ∃ s, e.problem = .spawning s) ∧
        (¬ e.isUnexpected ↔
          (∃ ending stderr, e.problem = .failure ending stderr) ∨
            ∃ output reason, e.problem = .outputParsing output reason) := by
  refine ⟨?_, ?_, ?_, fun e => ⟨e.isUnexpected_iff, e.not_isUnexpected_iff⟩⟩
  all_goals obtain ⟨problem, hask, hproblem, hnone⟩ | ⟨p, hask, hone⟩ := jq.ask_cases w path
  · rw [hask, hnone]
    exact iff_of_true ⟨_, rfl, (QueryError.isUnexpected_iff _).2 hproblem⟩ rfl
  · rw [hask, hone]
    refine iff_of_false ?_ (List.cons_ne_nil p [])
    rintro ⟨e, he, hunexpected⟩
    exact jq.not_isUnexpected_of_result he hunexpected
  · exact .inl hnone
  · have hp : p ∈ jq.processes w path := by simp [hone]
    exact .inr ⟨p, hone, jq.isProgram_of_mem_processes w path hp, count_of_processes hone⟩
  · rw [hask, hnone]
    rfl
  · rw [hask, hone]
    rfl

end Jq
end SierraFootprint
