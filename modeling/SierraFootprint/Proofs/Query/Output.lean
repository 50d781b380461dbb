import SierraFootprint.Proofs.Decimal.CountText
import SierraFootprint.Proofs.Query.Running
import SierraFootprint.Proofs.Text.Trimmed
import SierraFootprint.Proofs.Text.WellFormed

/-!
# Which outputs are counts

A program that did not end with the exit code zero has failed, whatever it printed. Otherwise its
output is a count when it is the UTF-8 text of a numeral between white space, and every other output
is refused with the text that was seen in it and one reason.
-/
namespace SierraFootprint
namespace Jq

/-- An output that gives a count: a numeral of a number below 2^64 with white space around it, in
UTF-8. -/
def CountOutput (n : Nat) (stdout : Bytes) : Prop :=
  ∃ before numeral after, stdout = Utf8.encode (before ++ (numeral ++ after)) ∧
    Text.White before ∧ Text.White after ∧ Decimal.IsCount n numeral ∧ n < Decimal.countBound

/-- The characters of a numeral. -/
theorem mem_count {n : Nat} {text : List Char} (h : Decimal.IsCount n text) {c : Char}
    (hc : c ∈ text) : c = '+' ∨ c.isDigit := by
  obtain ⟨ds, rfl | rfl, -, hds, -⟩ := h
  · exact .inr (hds c hc)
  · exact (List.mem_cons.1 hc).imp id (hds c)

theorem not_whiteSpace_of_mem_count {n : Nat} {text : List Char} (h : Decimal.IsCount n text)
    {c : Char} (hc : c ∈ text) : ¬ Text.WhiteSpace c := by
  obtain rfl | hdigit := mem_count h hc
  · simp [Text.WhiteSpace]
  · rw [Char.isDigit_iff_toNat] at hdigit
    have h0 : '0'.toNat = 48 := rfl
    have h9 : '9'.toNat = 57 := rfl
    unfold Text.WhiteSpace
    omega

theorem trim_of_count {n : Nat} {before text after : List Char} (h : Decimal.IsCount n text)
    (hbefore : Text.White before) (hafter : Text.White after) :
    Text.trim (before ++ (text ++ after)) = text :=
  Text.trim_eq_iff.2 ⟨⟨before, after, hbefore, hafter, rfl⟩,
    fun _ hc => not_whiteSpace_of_mem_count h (List.mem_of_head? hc),
    fun _ hc => not_whiteSpace_of_mem_count h (List.mem_of_getLast? hc)⟩

/-- White space and numerals hold no replacement character, so that nothing ill-formed is left out
of sight. -/
theorem replacement_not_mem {n : Nat} {before text after : List Char}
    (h : Decimal.IsCount n text) (hbefore : Text.White before) (hafter : Text.White after) :
    Utf8.replacement ∉ before ++ (text ++ after) := by
  have hwhite : ¬ Text.WhiteSpace Utf8.replacement := by simp [Text.WhiteSpace, Utf8.replacement]
  rw [List.mem_append, List.mem_append]
  rintro (hc | hc | hc)
  · exact hwhite (hbefore _ hc)
  · exact absurd (mem_count h hc) (by decide)
  · exact hwhite (hafter _ hc)

/-- What is read from an output is what the whole output says. -/
theorem readCount_trim_lossy_iff {n : Nat} {stdout : Bytes} :
    Decimal.readCount (Text.trim (Utf8.lossy stdout)) = .ok n ↔ CountOutput n stdout := by
  rw [Decimal.readCount_eq_ok_iff]
  constructor
  · rintro ⟨hcount, hn⟩
    obtain ⟨before, after, hbefore, hafter, htext⟩ :=
      (Text.isTrimmed_trim (Utf8.lossy stdout)).between
    refine ⟨before, _, after, ?_, hbefore, hafter, hcount, hn⟩
    rw [← htext]
    apply Utf8.eq_encode_of_lossy
    rw [htext]
    exact replacement_not_mem hcount hbefore hafter
  · rintro ⟨before, numeral, after, rfl, hbefore, hafter, hcount, hn⟩
    rw [Utf8.lossy_encode, trim_of_count hcount hbefore hafter]
    exact ⟨hcount, hn⟩

theorem result_failure {jq : Jq} {output : Files.Output} (h : output.ending ≠ .exited 0) :
    jq.result output =
      .error ⟨jq.executable, .failure output.ending (Utf8.lossy output.stderr)⟩ := by
  obtain ⟨-, hresult⟩ | ⟨hzero, -⟩ := jq.result_cases output
  · exact hresult
  · exact absurd hzero h

theorem result_failure_iff {jq : Jq} {output : Files.Output} :
    (∃ ending stderr, jq.result output = .error ⟨jq.executable, .failure ending stderr⟩) ↔
      output.ending ≠ .exited 0 := by
  obtain ⟨hother, hresult⟩ | ⟨hzero, ⟨n, -, hresult⟩ | ⟨reason, -, hresult⟩⟩ :=
    jq.result_cases output
  · exact iff_of_true ⟨_, _, hresult⟩ hother
  · simp [hresult, hzero]
  · simp [hresult, hzero]

theorem result_ok_iff {jq : Jq} {output : Files.Output} {n : Nat} :
    jq.result output = .ok n ↔ output.ending = .exited 0 ∧ CountOutput n output.stdout := by
  rw [← readCount_trim_lossy_iff]
  obtain ⟨hzero, hresult⟩ | ⟨hzero, ⟨m, hread, hresult⟩ | ⟨reason, hread, hresult⟩⟩ :=
    jq.result_cases output
  · simp [hresult, hzero]
  · simp [hresult, hzero, hread]
  · simp [hresult, hzero, hread]

theorem result_unread {jq : Jq} {output : Files.Output} (hzero : output.ending = .exited 0)
    (h : ∀ n, ¬ CountOutput n output.stdout) :
    ∃ shown reason, jq.result output = .error ⟨jq.executable, .outputParsing shown reason⟩ ∧
      Text.IsTrimmed (Utf8.lossy output.stdout) shown ∧
      (reason = .empty ↔ shown = []) ∧
      (reason = .tooLarge ↔ Decimal.StartsTooLarge shown) ∧
      (reason = .invalidDigit ↔ shown ≠ [] ∧ ¬ Decimal.StartsTooLarge shown) := by
  obtain ⟨hother, -⟩ | ⟨-, ⟨n, hread, -⟩ | ⟨reason, hread, hresult⟩⟩ := jq.result_cases output
  · exact absurd hzero hother
  · exact absurd (readCount_trim_lossy_iff.1 hread) (h n)
  · obtain ⟨hempty, hlarge⟩ := Decimal.readCount_eq_error hread
    refine ⟨_, reason, hresult, Text.isTrimmed_trim _, hempty, hlarge, ?_⟩
    rw [ne_eq, ← hempty, ← hlarge]
    cases reason <;> simp

theorem result_congr {jq : Jq} {a b : Files.Output} (hending : a.ending = b.ending)
    (h : (b.ending = .exited 0 ∧ a.stdout = b.stdout) ∨
      (b.ending ≠ .exited 0 ∧ a.stderr = b.stderr)) : jq.result a = jq.result b := by
  obtain ⟨hzero, hout⟩ | ⟨hother, herr⟩ := h
  · simp [result, hending, hzero, hout]
  · rw [result_failure hother, result_failure (by rwa [hending]), hending, herr]

/-- Of a program that ran, the query has failed exactly when it did not end with the exit code
zero, and then only its ending and its diagnostics count. Otherwise only what it printed counts. A
count is the answer exactly when the output is a numeral in range between white space, in UTF-8.
Every other output is refused with the trimmed text seen in it: as empty if that is all there is, as
too large if the digits at its front are, and for a character that does not fit if neither is the
case. -/
theorem count_of_run {jq : Jq} {w : World} {path : Bytes} {p : Tool.Started}
    (h : jq.processes w path = [p]) :
    ((∃ ending stderr,
        (jq.ask w path).count = .error ⟨jq.executable, .failure ending stderr⟩) ↔
      p.output.ending ≠ .exited 0) ∧
    (∀ n, (jq.ask w path).count = .ok n ↔
      p.output.ending = .exited 0 ∧ CountOutput n p.output.stdout) ∧
    (p.output.ending = .exited 0 → (∀ n, ¬ CountOutput n p.output.stdout) →
      ∃ shown reason,
        (jq.ask w path).count = .error ⟨jq.executable, .outputParsing shown reason⟩ ∧
        Text.IsTrimmed (Utf8.lossy p.output.stdout) shown ∧
        (reason = .empty ↔ shown = []) ∧
        (reason = .tooLarge ↔ Decimal.StartsTooLarge shown) ∧
        (reason = .invalidDigit ↔ shown ≠ [] ∧ ¬ Decimal.StartsTooLarge shown)) ∧
    (¬ Utf8.WellFormed p.output.stdout → ∀ n, (jq.ask w path).count ≠ .ok n) ∧
    ∀ (w' : World) (path' : Bytes) (p' : Tool.Started), jq.processes w' path' = [p'] →
      p'.output.ending = p.output.ending →
      (p.output.ending ≠ .exited 0 → p'.output.stderr = p.output.stderr →
        (jq.ask w' path').count = (jq.ask w path).count) ∧
      (p.output.ending = .exited 0 → p'.output.stdout = p.output.stdout →
        (jq.ask w' path').count = (jq.ask w path).count) := by
  rw [count_of_processes h]
  refine ⟨result_failure_iff, fun n => result_ok_iff, result_unread, fun hill n hok => ?_,
    fun w' path' p' h' hending => ?_⟩
  · obtain ⟨-, before, numeral, after, hstdout, -⟩ := result_ok_iff.1 hok
    exact hill ⟨_, hstdout⟩
  · rw [count_of_processes h']
    exact ⟨fun hother herr => result_congr hending (.inr ⟨hother, herr⟩),
      fun hzero hout => result_congr hending (.inl ⟨hzero, hout⟩)⟩

/-- A world in which the usual executable leaves an output behind. -/
def installed (output : Files.Output) : World :=
  ⟨Files.Tree.empty.put [Bytes.ofString defaultExecutable] (.file ⟨[], .program output⟩), [],
    none, some []⟩

/-- An output with a wide space in front, a plus sign, useless zeros and a line end. -/
def spacedOutput : Files.Output :=
  ⟨Utf8.encode ['\u3000', '+', '0', '0', '7', '\n'], [0xFF], .exited 0⟩

theorem count_of_spacedOutput :
    (default.ask (installed spacedOutput) [0x61]).count = .ok 7 := by
  have hrun : default.processes (installed spacedOutput) [0x61] =
      [⟨[Bytes.ofString defaultExecutable], spacedOutput⟩] := by rfl
  have hcount : CountOutput 7 spacedOutput.stdout :=
    ⟨['\u3000'], ['+', '0', '0', '7'], ['\n'], rfl, by simp [Text.White, Text.WhiteSpace],
      by simp [Text.White, Text.WhiteSpace],
      ⟨['0', '0', '7'], .inr rfl, by simp, by simp [Decimal.Digits], rfl⟩, by decide⟩
  exact ((count_of_run hrun).2.1 7).2 ⟨rfl, hcount⟩

end Jq
end SierraFootprint
