import SierraFootprint.CommandLine.Run
import SierraFootprint.Proofs.CommandLine.Words

/-!
# What a command does

A command of words in any order makes the report on what the words give, as long as each part is
given at most once and the mode has a name that is known. Any other command of such words is
refused, and nothing is looked at.
-/
namespace SierraFootprint.CommandLine

/-! ### One word after another -/

theorem readMode_ofString (name : String) :
    (Choices.readMode (Bytes.ofString name)).toOption = (StripMode.ofName name).toOption := by
  rw [Choices.readMode, Bytes.ofString, Utf8.decode?_encode]
  simp only [String.ofList_toList]
  cases StripMode.ofName name <;> rfl

namespace Word

theorem addTo_path (c : Choices) (value : Bytes) :
    (path value).addTo c =
      if c.path = none ∧ value ≠ [] then some { c with path := some value } else none := by
  cases hpath : c.path <;> by_cases hv : value = [] <;>
    simp [addTo, Choices.setPath, hpath, hv, Except.toOption]

theorem addTo_jq (c : Choices) (form : Form) (value : Bytes) :
    (setting .jq form value).addTo c =
      if c.jq = none ∧ value ≠ [] then some { c with jq := some value } else none := by
  cases hjq : c.jq <;> by_cases hv : value = [] <;>
    simp [addTo, Choices.set, Choices.has, hjq, hv, Except.toOption]

theorem addTo_mode (c : Choices) (form : Form) (value : Bytes) :
    (setting .stripMode form value).addTo c =
      if c.mode = none then
        (Choices.readMode value).toOption.map fun mode => { c with mode := some mode }
      else none := by
  cases hmode : c.mode <;> cases hread : Choices.readMode value <;>
    simp [addTo, Choices.set, Choices.has, hmode, hread, Except.toOption]

theorem addTo_path_jq (c : Choices) (v v' : Bytes) (form : Form) :
    ((path v).addTo c).bind (setting .jq form v').addTo =
      ((setting .jq form v').addTo c).bind (path v).addTo := by
  by_cases hpath : c.path = none ∧ v ≠ [] <;> by_cases hjq : c.jq = none ∧ v' ≠ [] <;>
    simp [addTo_path, addTo_jq, hpath, hjq]

theorem addTo_path_mode (c : Choices) (v v' : Bytes) (form : Form) :
    ((path v).addTo c).bind (setting .stripMode form v').addTo =
      ((setting .stripMode form v').addTo c).bind (path v).addTo := by
  by_cases hpath : c.path = none ∧ v ≠ [] <;> by_cases hmode : c.mode = none <;>
    cases hread : (Choices.readMode v').toOption <;>
      simp [addTo_path, addTo_mode, hpath, hmode, hread]

theorem addTo_jq_mode (c : Choices) (v v' : Bytes) (form form' : Form) :
    ((setting .jq form v).addTo c).bind (setting .stripMode form' v').addTo =
      ((setting .stripMode form' v').addTo c).bind (setting .jq form v).addTo := by
  by_cases hjq : c.jq = none ∧ v ≠ [] <;> by_cases hmode : c.mode = none <;>
    cases hread : (Choices.readMode v').toOption <;>
      simp [addTo_jq, addTo_mode, hjq, hmode, hread]

end Word

/-- Whether there is a value for a part. -/
def Choices.hasPart (c : Choices) : Part → Bool
  | .path => c.path.isSome
  | .setting o => c.has o
  | .help => false

namespace Word

/-- A word that is accepted gives its part a value, which had none before. -/
theorem hasPart_of_addTo {c c' : Choices} {word : Word} (h : word.addTo c = some c') :
    c.hasPart word.part = false ∧
      ∀ part, c'.hasPart part = (decide (part = word.part) || c.hasPart part) := by
  match word with
  | path value =>
    rw [addTo_path, Option.ite_none_right_eq_some] at h
    obtain ⟨⟨hpath, -⟩, hc⟩ := h
    obtain rfl := Option.some.inj hc
    refine ⟨by simp [part, Choices.hasPart, hpath], fun part => ?_⟩
    rcases part with _ | ⟨_ | _⟩ | _ <;> simp [Word.part, Choices.hasPart, Choices.has]
  | setting .jq form value =>
    rw [addTo_jq, Option.ite_none_right_eq_some] at h
    obtain ⟨⟨hjq, -⟩, hc⟩ := h
    obtain rfl := Option.some.inj hc
    refine ⟨by simp [part, Choices.hasPart, Choices.has, hjq], fun part => ?_⟩
    rcases part with _ | ⟨_ | _⟩ | _ <;> simp [Word.part, Choices.hasPart, Choices.has]
  | setting .stripMode form value =>
    rw [addTo_mode, Option.ite_none_right_eq_some] at h
    obtain ⟨hmode, hc⟩ := h
    obtain ⟨mode, -, rfl⟩ := Option.map_eq_some_iff.1 hc
    refine ⟨by simp [part, Choices.hasPart, Choices.has, hmode], fun part => ?_⟩
    rcases part with _ | ⟨_ | _⟩ | _ <;> simp [Word.part, Choices.hasPart, Choices.has]

theorem addTo_of_hasPart {c : Choices} {word : Word} (h : c.hasPart word.part = true) :
    word.addTo c = none := by
  rw [Option.eq_none_iff_forall_ne_some]
  intro c' hc
  rw [(hasPart_of_addTo hc).1] at h
  cases h

/-- Words of different parts do not notice each other, and of two words of one part the second is
refused. -/
theorem addTo_comm (c : Choices) (a b : Word) :
    (a.addTo c).bind b.addTo = (b.addTo c).bind a.addTo := by
  have hsame : ∀ {x y : Word}, x.part = y.part → (x.addTo c).bind y.addTo = none := by
    intro x y hpart
    rw [Option.bind_eq_none_iff]
    intro c' hc
    apply addTo_of_hasPart
    rw [(hasPart_of_addTo hc).2]
    simp [hpart]
  by_cases hpart : a.part = b.part
  · rw [hsame hpart, hsame hpart.symm]
  · match a, b with
    | path _, path _ | setting .jq _ _, setting .jq _ _
    | setting .stripMode _ _, setting .stripMode _ _ => exact absurd rfl hpart
    | path v, setting .jq form v' => exact addTo_path_jq c v v' form
    | setting .jq form v', path v => exact (addTo_path_jq c v v' form).symm
    | path v, setting .stripMode form v' => exact addTo_path_mode c v v' form
    | setting .stripMode form v', path v => exact (addTo_path_mode c v v' form).symm
    | setting .jq form v, setting .stripMode form' v' => exact addTo_jq_mode c v v' form form'
    | setting .stripMode form' v', setting .jq form v =>
      exact (addTo_jq_mode c v v' form form').symm

end Word

/-- The order of the words does not matter. -/
theorem gather_perm {words words' : List Word} (h : words.Perm words') (c : Choices) :
    gather c words = gather c words' := by
  induction h generalizing c with
  | nil => rfl
  | cons word _ ih =>
    rw [gather_cons, gather_cons, funext ih]
  | swap a b rest =>
    have hcomm := congrArg (Option.bind · (gather · rest)) (Word.addTo_comm c b a)
    simpa [gather_cons, Option.bind_assoc] using hcomm
  | trans _ _ ih ih' => exact (ih c).trans (ih' c)

/-- Words that are all accepted are of different parts, none of which had a value before. -/
theorem nodup_of_gather {c c' : Choices} {words : List Word} (h : gather c words = some c') :
    (words.map Word.part).Nodup ∧ ∀ word ∈ words, c.hasPart word.part = false := by
  induction words generalizing c with
  | nil => exact ⟨List.nodup_nil, by simp⟩
  | cons word rest ih =>
    obtain ⟨d, hd, hrest⟩ := Option.bind_eq_some_iff.1 (gather_cons c word rest ▸ h)
    obtain ⟨hnodup, hfresh⟩ := ih hrest
    obtain ⟨hword, hparts⟩ := Word.hasPart_of_addTo hd
    have hothers : ∀ w ∈ rest, w.part ≠ word.part ∧ c.hasPart w.part = false := by
      intro w hw
      simpa [hparts] using hfresh w hw
    rw [List.map_cons, List.nodup_cons]
    refine ⟨⟨?_, hnodup⟩, ?_⟩
    · intro hmem
      obtain ⟨w, hw, hpart⟩ := List.mem_map.1 hmem
      exact (hothers w hw).1 hpart
    · intro w hw
      obtain rfl | hw := List.mem_cons.1 hw
      · exact hword
      · exact (hothers w hw).2

/-- A mode whose name is not known is not accepted after any words. -/
theorem readMode_of_gather {c c' : Choices} {words : List Word} (h : gather c words = some c')
    {form : Form} {value : Bytes} (hmem : .setting .stripMode form value ∈ words) :
    ∃ mode, Choices.readMode value = .ok mode := by
  induction words generalizing c with
  | nil => cases hmem
  | cons word rest ih =>
    obtain ⟨d, hd, hrest⟩ := Option.bind_eq_some_iff.1 (gather_cons c word rest ▸ h)
    obtain rfl | hmem := List.mem_cons.1 hmem
    · rw [Word.addTo_mode, Option.ite_none_right_eq_some] at hd
      obtain ⟨mode, hmode, -⟩ := Option.map_eq_some_iff.1 hd.2
      cases hread : Choices.readMode value with
      | error e => simp [hread, Except.toOption] at hmode
      | ok mode => exact ⟨mode, rfl⟩
    · exact ih hrest hmem

/-! ### Commands -/

/-- The words that give a path, an executable and the name of a mode, as far as they are wanted. -/
def wordsFor (path : Option Bytes) (jq : Option (Form × Bytes)) (mode : Option (Form × String)) :
    List Word :=
  path.toList.map .path ++ jq.toList.map (fun j => .setting .jq j.1 j.2) ++
    mode.toList.map fun m => .setting .stripMode m.1 (Bytes.ofString m.2)

theorem gather_append (c : Choices) (a b : List Word) :
    gather c (a ++ b) = (gather c a).bind (gather · b) := by
  simp [gather, List.foldlM_append]

theorem gather_wordsFor {path : Option Bytes} {jq : Option (Form × Bytes)}
    {mode : Option (Form × String)} {chosen : StripMode}
    (hvalid : ∀ word ∈ wordsFor path jq mode, word.IsValid)
    (hmode : ∀ m ∈ mode, StripMode.ofName m.2 = .ok chosen) :
    gather .none (wordsFor path jq mode) =
      some ⟨path, jq.map Prod.snd, mode.map fun _ => chosen⟩ := by
  have hpath : gather .none (path.toList.map .path) = some ⟨path, none, none⟩ := by
    cases path with
    | none => rfl
    | some value =>
      have hvalue : IsPlain value := hvalid (.path value) (by simp [wordsFor])
      simp [gather_cons, Word.addTo_path, Choices.none, hvalue.1]
  have hjq : gather ⟨path, none, none⟩ (jq.toList.map fun j => .setting .jq j.1 j.2) =
      some ⟨path, jq.map Prod.snd, none⟩ := by
    rcases jq with _ | ⟨form, value⟩
    · rfl
    · have hvalue := hvalid (.setting .jq form value) (by simp [wordsFor])
      have hne : value ≠ [] := by
        cases form with
        | apart => exact hvalue.1
        | joined => exact hvalue
      simp [gather_cons, Word.addTo_jq, hne]
  rw [wordsFor, gather_append, gather_append, hpath, Option.bind_some, hjq, Option.bind_some]
  cases mode with
  | none => rfl
  | some m =>
    have hread : (Choices.readMode (Bytes.ofString m.2)).toOption = some chosen := by
      rw [readMode_ofString, hmode m rfl]
      rfl
    simp [gather_cons, Word.addTo_mode, hread]

theorem run_of_read {forceColours : Option Bytes} {arguments : List Bytes} {choices : Choices}
    (h : (read arguments).toOption = some (.report choices)) (w : World) :
    run forceColours arguments w =
      let outcome := choices.report.run (wantsColours forceColours) w
      ⟨0, outcome.printed, "", outcome.calls, outcome.world⟩ := by
  cases hread : read arguments with
  | error e => simp [hread, Except.toOption] at h
  | ok request =>
    obtain rfl : request = .report choices := by simpa [hread, Except.toOption] using h
    simp only [run, hread]

theorem run_of_not_read {arguments : List Bytes} (h : (read arguments).toOption = none)
    (forceColours : Option Bytes) :
    ∃ message, ∀ w, run forceColours arguments w = ⟨2, "", message, [], w⟩ := by
  cases hread : read arguments with
  | error e => exact ⟨e.message, fun w => by simp only [run, hread]⟩
  | ok request => simp [hread, Except.toOption] at h

/-- Words in any order that give at most a path, an executable and the name of a mode make the
report on these, with the defaults for what is not given: what it prints is printed, what it calls is
called, and the command succeeds whatever could be measured. A command of words with a part given
twice or a mode whose name is not known is refused in the same way in every world. -/
theorem run_words {words : List Word} (hwords : ∀ word ∈ words, word.IsValid)
    (forceColours : Option Bytes) :
    (∀ (path : Option Bytes) (jq : Option (Form × Bytes)) (mode : Option (Form × String))
        (chosen : StripMode), words.Perm (wordsFor path jq mode) →
      (∀ m ∈ mode, StripMode.ofName m.2 = .ok chosen) → (mode = none → chosen = .global) →
      ∀ w, run forceColours (words.flatMap Word.arguments) w =
        let report : Report :=
          { path := path.getD (Bytes.ofString defaultPath)
            mode := chosen
            query := (jq.elim Jq.default (Jq.ofExecutable ·.2)).query }
        let outcome := report.run (wantsColours forceColours) w
        ⟨0, outcome.printed, "", outcome.calls, outcome.world⟩) ∧
      (¬ (words.map Word.part).Nodup ∨
        (∃ form name, .setting .stripMode form (Bytes.ofString name) ∈ words ∧
          ∀ mode, StripMode.ofName name ≠ .ok mode) →
      ∃ message, ∀ w, run forceColours (words.flatMap Word.arguments) w =
        ⟨2, "", message, [], w⟩) := by
  have hread := toOption_read hwords
  constructor
  · intro path jq mode chosen hperm hmode hdefault w
    have hvalid : ∀ word ∈ wordsFor path jq mode, word.IsValid :=
      fun word hword => hwords word (hperm.mem_iff.2 hword)
    rw [gather_perm hperm, gather_wordsFor hvalid hmode] at hread
    rw [run_of_read hread w]
    have hchosen : (mode.map fun _ => chosen).getD .default = chosen := by
      cases mode with
      | none => exact (hdefault rfl).symm
      | some m => rfl
    have htool : ((jq.map Prod.snd).map Jq.ofExecutable).getD .default =
        jq.elim Jq.default (Jq.ofExecutable ·.2) := by
      cases jq <;> rfl
    simp only [Choices.report, Choices.tool, hchosen, htool]
  · intro hbad
    have hnone : gather .none words = none := by
      rw [Option.eq_none_iff_forall_ne_some]
      intro c hc
      obtain hrepeated | ⟨form, name, hmem, hunknown⟩ := hbad
      · exact hrepeated (nodup_of_gather hc).1
      · obtain ⟨mode, hmode⟩ := readMode_of_gather hc hmem
        have hname := readMode_ofString name
        rw [hmode] at hname
        cases hof : StripMode.ofName name with
        | error e => simp [hof, Except.toOption] at hname
        | ok mode => exact hunknown mode hof
    rw [hnone] at hread
    exact run_of_not_read hread forceColours

/-- A mode in capitals, a path, and an executable that looks like an option. -/
def shuffledWords : List Word :=
  [.setting .stripMode .apart (Bytes.ofString "PREFIX"), .path (Bytes.ofString "a.json"),
    .setting .jq .joined (Bytes.ofString "-q")]

/-- The words make a report in which nothing can be measured, and with a second path they are
refused. -/
theorem run_words_shuffled :
    run none (["--strip-mode", "PREFIX", "a.json", "--jq=-q"].map Bytes.ofString)
        (.emptyDirectory [0x68] none) =
      ⟨0, "Error: File 'a.json' not found\nUnexpected error: The `-q` executable not found in " ++
          "$\x7bPATH\x7d: no path to search and provided name is not an absolute path\n",
        "", [], .emptyDirectory [0x68] none⟩ ∧
      ∃ message, ∀ w, run none
        (["--strip-mode", "PREFIX", "a.json", "--jq=-q", "b"].map Bytes.ofString) w =
          ⟨2, "", message, [], w⟩ := by
  have hmode : IsModeValue (Bytes.ofString "PREFIX") :=
    ⟨"PREFIX", rfl, .inl ⟨.leading, by decide⟩⟩
  have hpath : IsPlain (Bytes.ofString "a.json") := by decide
  have hextra : IsPlain (Bytes.ofString "b") := by decide
  have hjq : Bytes.ofString "-q" ≠ [] := by decide
  have hvalid : ∀ word ∈ shuffledWords ++ [.path (Bytes.ofString "b")], word.IsValid := by
    simp [shuffledWords, Word.IsValid, hmode, hpath, hextra, hjq]
  have hfirst : ∀ word ∈ shuffledWords, word.IsValid :=
    fun word hword => hvalid word (List.mem_append_left _ hword)
  constructor
  · have hrun := (run_words hfirst none).1 (some (Bytes.ofString "a.json"))
      (some (.joined, Bytes.ofString "-q")) (some (.apart, "PREFIX")) .leading (by decide)
      (by decide) (by decide) (.emptyDirectory [0x68] none)
    exact hrun.trans (by rfl)
  · exact (run_words hvalid none).2 (.inl (by decide))

end SierraFootprint.CommandLine
