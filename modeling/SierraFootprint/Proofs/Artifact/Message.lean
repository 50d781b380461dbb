import SierraFootprint.Proofs.Text.Lines
import SierraFootprint.Proofs.Text.WellFormed
import SierraFootprint.World

/-!
# Messages about artifacts

Whatever the bytes of a file are, the message about it holds no control character but those of the
path. A path without a line end thus has messages of one line.
-/
namespace SierraFootprint

open Text

/-! ### Doubles -/

namespace Decimal

theorem controlFree_positionalText {digits : List Char} (h : ControlFree digits) (exponent : Int) :
    ControlFree (positionalText digits exponent) := by
  have hzeros (n : Nat) : ControlFree (List.replicate n '0') := by
    intro c hc
    rw [List.eq_of_mem_replicate hc]
    decide
  unfold positionalText
  split
  · exact controlFree_append.2 ⟨controlFree_append.2 ⟨by decide, hzeros _⟩, h⟩
  · have hwhole (n : Nat) :
        ControlFree (digits.take n ++ List.replicate (n - digits.length) '0') :=
      controlFree_append.2 ⟨h.mono (List.take_subset n digits), hzeros _⟩
    simp only
    split
    · exact controlFree_append.2 ⟨hwhole _, by decide⟩
    · refine controlFree_append.2 ⟨hwhole _, controlFree_cons.2 ⟨by decide, ?_⟩⟩
      exact h.mono (List.drop_subset _ _)

theorem controlFree_exponentText {digits : List Char} (h : ControlFree digits) (exponent : Int) :
    ControlFree (exponentText digits exponent) := by
  have hexponent := controlFree_digits exponent.natAbs
  have hsign : ¬ Control (if exponent < 0 then '-' else '+') := by
    split_ifs <;> decide
  have hpoint : ¬ Control '.' := by decide
  have hletter : ¬ Control 'e' := by decide
  unfold exponentText
  match digits with
  | [] => simp [hexponent, hsign, hletter]
  | [d] => simpa [hexponent, hsign, hletter] using h
  | d :: d' :: rest => simpa [hexponent, hsign, hletter, hpoint] using h

theorem controlFree_floatText (x : Float) : ControlFree (floatText x).toList := by
  have hscaled (s : Scaled) : ControlFree (scaledText .standard s) := by
    have hdigits : ControlFree (((digits s.digits).reverse.dropWhile (· == '0')).reverse) := by
      refine (controlFree_digits s.digits).mono fun c hc => ?_
      rw [List.mem_reverse] at hc
      exact List.mem_reverse.1 ((List.dropWhile_sublist _).subset hc)
    unfold scaledText
    simp only
    split
    · exact controlFree_positionalText hdigits _
    · exact controlFree_exponentText hdigits _
  have hminus : ¬ Control '-' := by decide
  have hzero : ControlFree ['0', '.', '0'] := by decide
  unfold floatText
  simp only [String.toList_ofList]
  split_ifs <;> simp [hminus, hscaled, hzero]

end Decimal

/-! ### The parts of a message -/

theorem OsError.controlFree_message (e : OsError) : ControlFree e.message.toList := by
  have htext : ControlFree e.text.toList := by cases e <;> exact controlFree_ofList (by decide)
  unfold message
  simp only [String.toList_append, controlFree_append]
  exact ⟨⟨⟨htext, controlFree_ofList (by decide)⟩, controlFree_numeral _⟩,
    controlFree_ofList (by decide)⟩

theorem Json.Fault.controlFree_message (fault : Json.Fault) : ControlFree fault.message.toList := by
  have hcause : ControlFree fault.cause.message.toList := by
    cases fault.cause <;> exact controlFree_ofList (by decide)
  unfold message
  simp only [String.toList_append, controlFree_append]
  exact ⟨⟨⟨⟨hcause, controlFree_ofList (by decide)⟩, controlFree_numeral _⟩,
    controlFree_ofList (by decide)⟩, controlFree_numeral _⟩

theorem TypeMismatch.controlFree_numberText (n : Number) : ControlFree (numberText n).toList := by
  unfold numberText
  cases n with
  | whole n =>
    simp only [String.toList_append, controlFree_append]
    exact ⟨⟨controlFree_ofList (by decide), controlFree_numeral n⟩,
      controlFree_ofList (by decide)⟩
  | negative n =>
    simp only [String.toList_append, controlFree_append]
    exact ⟨⟨controlFree_ofList (by decide), controlFree_numeral n⟩,
      controlFree_ofList (by decide)⟩
  | float x =>
    simp only [String.toList_append, controlFree_append]
    exact ⟨⟨controlFree_ofList (by decide), Decimal.controlFree_floatText x⟩,
      controlFree_ofList (by decide)⟩

theorem TypeMismatch.controlFree_foundText (v : Json) : ControlFree (foundText v).toList := by
  unfold foundText
  cases v with
  | null => exact controlFree_ofList (by decide)
  | bool b =>
    simp only [String.toList_append, controlFree_append]
    refine ⟨⟨controlFree_ofList (by decide), ?_⟩, controlFree_ofList (by decide)⟩
    split <;> exact controlFree_ofList (by decide)
  | number n => exact controlFree_numberText n
  | string s =>
    simp only [String.toList_append, controlFree_append]
    exact ⟨controlFree_ofList (by decide), controlFree_quoted s⟩
  | array _ => exact controlFree_ofList (by decide)
  | object _ => exact controlFree_ofList (by decide)

theorem TypeMismatch.controlFree_message {e : TypeMismatch} (h : ControlFree e.expected.toList) :
    ControlFree e.message.toList := by
  unfold message
  simp only [String.toList_append, controlFree_append]
  exact ⟨⟨⟨controlFree_ofList (by decide), controlFree_foundText e.found⟩,
    controlFree_ofList (by decide)⟩, h⟩

/-! ### Messages as a whole -/

/-- A problem whose text holds no control character. -/
inductive ArtifactProblem.IsControlFree : ArtifactProblem → Prop
  | notFound : IsControlFree .notFound
  | reading {e : SystemError} : ControlFree e.message.toList → IsControlFree (.reading e)
  | notJson {e : DecodingError} : ControlFree e.message.toList → IsControlFree (.notJson e)
  | noProgram : IsControlFree .noProgram
  | invalidProgram {e : DecodingError} :
    ControlFree e.message.toList → IsControlFree (.invalidProgram e)

/-- A message is the text of the problem around the path. -/
theorem ArtifactError.controlsFrom_message (e : ArtifactError) (h : e.problem.IsControlFree) :
    ControlsFrom e.path.display.toList e.message.toList := by
  obtain ⟨path, problem⟩ := e
  have hwords {text : List Char} (ht : ControlFree text) :
      ControlsFrom path.display.toList (String.ofList text).toList :=
    (controlFree_ofList ht).controlsFrom _
  have hpath : ControlsFrom path.display.toList ("'" ++ path.display ++ "'").toList := by
    simp only [String.toList_append]
    exact ((hwords (by decide)).append (controlsFrom_self _)).append (hwords (by decide))
  unfold message
  simp only
  generalize "'" ++ path.display ++ "'" = shown at hpath
  cases h with
  | notFound =>
    simp only [String.toList_append]
    exact ((hwords (by decide)).append hpath).append (hwords (by decide))
  | reading he =>
    simp only [String.toList_append]
    exact (((hwords (by decide)).append hpath).append (hwords (by decide))).append
      (he.controlsFrom _)
  | notJson he =>
    simp only [String.toList_append]
    exact (((hwords (by decide)).append hpath).append (hwords (by decide))).append
      (he.controlsFrom _)
  | noProgram =>
    simp only [String.toList_append]
    exact (((hwords (by decide)).append (hwords (by decide))).append
      (hwords (by decide))).append hpath
  | invalidProgram he =>
    simp only [String.toList_append]
    exact (((((hwords (by decide)).append (hwords (by decide))).append
      (hwords (by decide))).append hpath).append (hwords (by decide))).append (he.controlsFrom _)

namespace Artifact

theorem isControlFree_ofJson {document : Json} {problem : ArtifactProblem}
    (h : ofJson document = .error problem) : problem.IsControlFree := by
  unfold ofJson at h
  split at h
  · cases h
    exact .noProgram
  · split at h
    · cases h
    next e he =>
      cases h
      refine .invalidProgram (TypeMismatch.controlFree_message ?_)
      unfold Program.ofJson at he
      split at he
      · split at he
        · cases he
          exact controlFree_ofList (by decide)
        · cases he
      · cases he
        exact controlFree_ofList (by decide)

/-- Whatever was read, its problem brings in no control characters if that of reading does not. -/
theorem isControlFree_ofRead {found : Except SystemError Bytes} {problem : ArtifactProblem}
    (hread : ∀ e, found = .error e → ControlFree e.message.toList)
    (h : ofRead found = .error problem) : problem.IsControlFree := by
  unfold ofRead at h
  split at h
  next content =>
    unfold ofBytes at h
    split at h
    next text htext =>
      unfold ofText at h
      split at h
      · exact isControlFree_ofJson h
      next fault hfault =>
        cases h
        exact .notJson fault.controlFree_message
    · cases h
      exact .reading (controlFree_ofList (by decide))
  · cases h
    exact .notFound
  next e _ =>
    cases h
    exact .reading (hread e rfl)

end Artifact

namespace World

theorem controlFree_of_read {w : World} {path : Bytes} {e : SystemError}
    (h : w.read path = .error e) : ControlFree e.message.toList := by
  unfold read Files.Tree.read at h
  split at h
  · cases h
    exact controlFree_ofList (by decide)
  · split at h
    · cases h
    · cases h
      exact OsError.controlFree_message _
    · cases h
      exact OsError.controlFree_message _

/-- Every message about an artifact names the path it was looked for at, and all control characters
in it are those of the path. -/
theorem controlsFrom_message {w : World} {path : Bytes} {e : ArtifactError}
    (h : w.artifact path = .error e) : ControlsFrom path.display.toList e.message.toList := by
  unfold artifact Artifact.located at h
  split at h
  · cases h
  next problem hproblem =>
    cases h
    have hfree : problem.IsControlFree :=
      Artifact.isControlFree_ofRead (fun _ => controlFree_of_read) hproblem
    exact ArtifactError.controlsFrom_message ⟨path, problem⟩ hfree

/-- A path without a line end has messages without one, whatever its file holds. -/
theorem newline_not_mem_message {w : World} {path : Bytes} (hpath : 0x0A ∉ path)
    {e : ArtifactError} (h : w.artifact path = .error e) : '\n' ∉ e.message.toList := by
  intro hmem
  have hshown := controlsFrom_message h '\n' hmem (by decide)
  rw [Bytes.display, String.toList_ofList] at hshown
  exact hpath (Utf8.byte_mem_of_mem_lossy hshown (by decide))

end World
end SierraFootprint
