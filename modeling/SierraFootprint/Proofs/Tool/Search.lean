import SierraFootprint.Proofs.Files.Names
import SierraFootprint.Proofs.Tool.Processes

/-!
# Looking up and starting along the search path

A name is looked up in the directories of the search path before a program is started by that name,
which searches them again. The two searches read some directories differently; here is said what
each of them finds in one directory, and which directories they read alike.
-/
namespace SierraFootprint.Tool

open Files

variable {w : World} {name d : Bytes}

/-! ### What a look-up finds -/

theorem executable?_eq_some_iff {path : Bytes} {place : Location} :
    executable? w path = some place ↔
      0 ∉ path ∧ ∃ f, w.find path = .ok (.file place f) ∧ f.isExecutable = true := by
  unfold executable?
  by_cases hnul : 0 ∈ path
  · simp [hnul]
  · simp only [List.contains_eq_mem, hnul, decide_false, Bool.false_eq_true, if_false,
      not_false_eq_true, true_and]
    cases hfind : w.find path with
    | error e => simp
    | ok found =>
      cases found with
      | directory p => simp
      | file p f =>
        by_cases hf : f.isExecutable = true <;> simp [hf]

theorem hasSeveralParts_eq_false_iff {path : Bytes} :
    hasSeveralParts path = false ↔
      ((names path).filter fun n => n ≠ [] ∧ n ≠ selfName).length +
        (if path.head? = some slash ∨ (names path).head? = some selfName then 1 else 0) ≤ 1 := by
  simp [hasSeveralParts]

/-- A name with a slash that does not count as several parts ends in the directory itself. -/
theorem endsInSelf_names (hslash : slash ∈ name) (h : hasSeveralParts name = false) :
    EndsInSelf (names name) := by
  obtain ⟨a, b, rfl, ha⟩ := List.eq_append_cons_of_mem hslash
  have hnames : names (a ++ slash :: b) = a :: names b := by
    rw [names_append, names_of_not_mem ha, List.singleton_append]
  rw [hasSeveralParts_eq_false_iff, hnames] at h
  rw [hnames]
  intro last hlast
  by_contra hnot
  rw [not_or] at hnot
  have hmem : last ∈ (names b).filter fun n => n ≠ [] ∧ n ≠ selfName := by
    have hlb : last ∈ (names b).getLast? := by
      rwa [List.getLast?_cons_of_ne_nil (names_ne_nil b)] at hlast
    exact List.mem_filter.2 ⟨List.mem_of_getLast? hlb, decide_eq_true hnot⟩
  have hpos := List.length_pos_of_mem hmem
  rw [List.filter_cons] at h
  split_ifs at h with hfirst hfront hfront
  · simp only [List.length_cons] at h
    omega
  · simp only [List.length_cons] at h
    omega
  · omega
  · rw [not_or] at hfront
    have hempty : a ≠ [] := by
      rintro rfl
      exact hfront.1 rfl
    have hself : a ≠ selfName := by
      rintro rfl
      exact hfront.2 rfl
    exact hfirst (decide_eq_true ⟨hempty, hself⟩)

theorem not_hasSeveralParts (h : slash ∉ name) : hasSeveralParts name = false := by
  have hfront : name.head? ≠ some slash := fun hhead => h (List.mem_of_head? hhead)
  rw [hasSeveralParts_eq_false_iff, names_of_not_mem h]
  by_cases hself : name = selfName
  · rw [hself]
    decide
  · have hlength := List.length_filter_le (fun n => decide (n ≠ [] ∧ n ≠ selfName)) [name]
    simpa [hfront, hself] using hlength

/-- A directory that ends in a slash is followed by the name at once. -/
theorem join_cases (d name : Bytes) :
    join d name = name ∨ (∃ front, d = front ++ [slash] ∧ join d name = front ++ slash :: name) ∨
      join d name = d ++ slash :: name := by
  unfold join
  split_ifs with hbare hslash
  · exact .inl rfl
  · obtain ⟨front, rfl⟩ := List.getLast?_eq_some_iff.1 hslash
    exact .inr (.inl ⟨front, rfl, by simp⟩)
  · exact .inr (.inr rfl)

theorem endsInSelf_join (h : EndsInSelf (names name)) (d : Bytes) :
    EndsInSelf (names (join d name)) := by
  obtain hjoin | ⟨front, -, hjoin⟩ | hjoin := join_cases d name <;> rw [hjoin]
  · exact h
  · rw [names_append]
    exact h.append (names_ne_nil name)
  · rw [names_append]
    exact h.append (names_ne_nil name)

theorem find_ne_file {path : Bytes} (h : EndsInSelf (names path)) (place : Location) (f : File) :
    w.find path ≠ .ok (.file place f) := by
  unfold World.find Tree.find
  split_ifs
  · simp
  · simp
  · exact walk_ne_file _ _ _ _ _ h

/-- A name is found in the directory `d` of the search path, which is the first one that has an
executable file of that name when a tilde in front stands for the home directory of the user. -/
structure FoundIn (w : World) (name : Bytes) (before : List Bytes) (d : Bytes) (after : List Bytes)
    (place : Location) : Prop where
  directories_eq : ∃ path, w.searchPath = some path ∧ directories path = before ++ d :: after
  executable?_eq : executable? w (join (expand w d) name) = some place
  before_eq_none : ∀ b ∈ before, executable? w (join (expand w b) name) = none

theorem exists_foundIn {path : Bytes} {place : Location} (hpath : w.searchPath = some path)
    (h : ((directories path).map fun d => join (expand w d) name).findSome?
      (executable? w) = some place) : ∃ before d after, FoundIn w name before d after place := by
  rw [List.findSome?_map, List.findSome?_eq_some_iff] at h
  obtain ⟨before, d, after, hdirectories, hplace, hbefore⟩ := h
  exact ⟨before, d, after, ⟨path, hpath, hdirectories⟩, hplace, hbefore⟩

/-- A name with a slash is found at its own place, and any other one on the search path. -/
theorem lookup_cases {place : Location} (h : lookup w name = .ok place) :
    slash ∈ name ∧ executable? w name = some place ∨
      slash ∉ name ∧ ∃ before d after, FoundIn w name before d after place := by
  unfold lookup at h
  split at h
  · cases h
  next paths hpaths =>
    split at h
    next found hfound =>
      obtain rfl : found = place := by simpa using h
      unfold candidates at hpaths
      split_ifs at hpaths with hparts
      · obtain rfl := Except.ok.inj hpaths
        have hslash : slash ∈ name := by
          by_contra hnot
          simp [not_hasSeveralParts hnot] at hparts
        obtain ⟨path, hpath, hplace⟩ := List.exists_of_findSome?_eq_some hfound
        obtain rfl := List.mem_singleton.1 (List.mem_filter.1 hpath).1
        exact .inl ⟨hslash, hplace⟩
      · split at hpaths
        · cases hpaths
        next path hpath =>
          obtain rfl := Except.ok.inj hpaths
          obtain ⟨before, d, after, hin⟩ := exists_foundIn hpath hfound
          refine .inr ⟨fun hslash => ?_, before, d, after, hin⟩
          have hends := endsInSelf_names hslash (by simpa using hparts)
          obtain ⟨-, f, hf, -⟩ := executable?_eq_some_iff.1 hin.executable?_eq
          exact find_ne_file (endsInSelf_join hends (expand w d)) _ _ hf
    next => cases h

/-! ### What a start finds in a directory -/

/-- The search for a program to start ends at a directory, as there are too many links on the way or
a name or path is too long. -/
def Blocks (w : World) (name d : Bytes) : Prop :=
  ∃ e, w.find (attempt name d) = .error e ∧ isSkipped e = false

theorem find_tooLong {path : Bytes} (h : pathBound ≤ path.length) :
    w.find path = .error .nameTooLong :=
  Tree.find_of_tooLong h w.tree w.workingDirectory

/-- The two searches make the same path of a directory, but for a slash at its end. -/
theorem attempt_cases (hname : slash ∉ name) (hd : d.length ≤ directoryLimit) :
    attempt name d = join d name ∨
      ∃ front, join d name = front ++ slash :: name ∧
        attempt name d = front ++ slash :: slash :: name := by
  have hhead : name.head? ≠ some slash := fun h => hname (List.mem_of_head? h)
  have hshort : ¬ directoryLimit < d.length := Nat.not_lt.2 hd
  unfold attempt join
  by_cases hempty : d = []
  · exact .inl (by rw [if_pos (.inl hempty), if_pos (.inl hempty)])
  · rw [if_neg (by simp [hempty, hshort]), if_neg (by simp [hempty, hhead])]
    split_ifs with hslash
    · obtain ⟨front, rfl⟩ := List.getLast?_eq_some_iff.1 hslash
      exact .inr ⟨front, by simp, by simp⟩
    · exact .inl rfl

/-- Where the path is short enough, both searches find the same in a directory. -/
theorem find_attempt (hname : slash ∉ name) (hd : d.length ≤ directoryLimit)
    (hlength : (attempt name d).length < pathBound) :
    w.find (attempt name d) = w.find (join d name) := by
  obtain hsame | ⟨front, hjoin, hattempt⟩ := attempt_cases hname hd
  · rw [hsame]
  · rw [hattempt] at hlength ⊢
    rw [hjoin]
    have hnames : names (front ++ slash :: slash :: name) = names front ++ [] :: names name := by
      rw [names_append, ← List.nil_append (slash :: name), names_append]
      rfl
    have horigin : origin w.workingDirectory (front ++ slash :: slash :: name) =
        origin w.workingDirectory (front ++ slash :: name) := by
      simp [origin, List.head?_append]
    have hlong : ¬ pathBound ≤ (front ++ slash :: slash :: name).length := by omega
    have hless : ¬ pathBound ≤ (front ++ slash :: name).length := by
      simp only [List.length_append, List.length_cons] at hlength ⊢
      omega
    have hne : front ++ slash :: slash :: name ≠ [] ∧ front ++ slash :: name ≠ [] := by simp
    simp only [World.find, Tree.find]
    rw [if_neg hne.1, if_neg hne.2, if_neg hlong, if_neg hless, hnames, horigin,
      walk_empty_name _ _ _ _ (names_ne_nil name), names_append]

theorem length_attempt_of_not_blocks (h : ¬ Blocks w name d) :
    (attempt name d).length < pathBound := by
  by_contra hlong
  exact h ⟨.nameTooLong, find_tooLong (Nat.not_lt.1 hlong), rfl⟩

theorem length_lt_of_find {path : Bytes} {found : Found} (h : w.find path = .ok found) :
    path.length < pathBound := by
  by_contra hlong
  rw [find_tooLong (Nat.not_lt.1 hlong)] at h
  cases h

theorem length_le_join (hname : slash ∉ name) (d : Bytes) : d.length ≤ (join d name).length := by
  have hhead : name.head? ≠ some slash := fun h => hname (List.mem_of_head? h)
  unfold join
  split_ifs with hbare hslash
  · simp [hbare.resolve_right hhead]
  · simp
  · simp

theorem not_mem_join (hname : 0 ∉ name) (hd : 0 ∉ d) : 0 ∉ join d name := by
  have hslash : (0 : UInt8) ≠ slash := by decide
  obtain hjoin | ⟨front, rfl, hjoin⟩ | hjoin := join_cases d name <;> rw [hjoin]
  · exact hname
  · simp_all
  · simp_all

theorem not_mem_attempt {b : UInt8} (hb : b ≠ slash) (hname : b ∉ name) (hd : b ∉ d) :
    b ∉ attempt name d := by
  unfold attempt
  split_ifs
  · exact hname
  · simp [hb, hname, hd]

/-- Where a look-up finds nothing in a directory that is not too long, a start finds nothing. -/
theorem executable?_attempt_eq_none (hname : slash ∉ name) (hd : d.length ≤ directoryLimit)
    (hnul : 0 ∉ name) (hnulDirectory : 0 ∉ d) (h : executable? w (join d name) = none) :
    executable? w (attempt name d) = none := by
  rw [Option.eq_none_iff_forall_ne_some] at h ⊢
  intro place hplace
  obtain ⟨-, f, hfind, hf⟩ := executable?_eq_some_iff.1 hplace
  rw [find_attempt hname hd (length_lt_of_find hfind)] at hfind
  exact h place (executable?_eq_some_iff.2 ⟨not_mem_join hnul hnulDirectory, f, hfind, hf⟩)

/-- A path without an executable file is passed over, unless it ends the search. -/
theorem execute_of_executable?_eq_none {path : Bytes} (hnul : 0 ∉ path)
    (hnone : executable? w path = none) (strings : List Bytes) :
    ∃ e, execute w strings path = .error e ∧ (isSkipped e = true ∨ w.find path = .error e) := by
  unfold execute
  cases hfind : w.find path with
  | error e => exact ⟨e, rfl, .inr rfl⟩
  | ok found =>
    cases found with
    | directory place => exact ⟨.permissionDenied, rfl, .inl rfl⟩
    | file place f =>
      have hf : f.isExecutable = false := by
        by_contra hf
        have hsome : executable? w path = some place :=
          executable?_eq_some_iff.2 ⟨hnul, f, hfind, by simpa using hf⟩
        rw [hnone] at hsome
        cases hsome
      have hlaunch : f.launch = .notExecutable := by simpa [File.isExecutable] using hf
      exact ⟨.permissionDenied, by simp [hf, hlaunch], .inl rfl⟩

theorem execute_of_blocks {strings : List Bytes} (h : Blocks w name d) :
    ∃ e, execute w strings (attempt name d) = .error e ∧ isSkipped e = false := by
  obtain ⟨e, he, hskip⟩ := h
  exact ⟨e, by rw [execute, he], hskip⟩

/-! ### Trying one directory after the other -/

variable {strings : List Bytes}

theorem executeFirst_skipped {path : Bytes} {e : OsError} (h : execute w strings path = .error e)
    (hskip : isSkipped e = true) (sofar : OsError) (rest : List Bytes) :
    executeFirst w strings sofar (path :: rest) =
      executeFirst w strings (skippedError sofar e) rest := by
  rw [executeFirst, h]
  exact if_pos hskip

theorem executeFirst_stopped {path : Bytes} {e : OsError} (h : execute w strings path = .error e)
    (hskip : isSkipped e = false) (sofar : OsError) (rest : List Bytes) :
    executeFirst w strings sofar (path :: rest) = .error e := by
  rw [executeFirst, h]
  exact if_neg (by simp [hskip])

/-- Paths that cannot be started are all passed over, or one of them ends the search. -/
theorem executeFirst_append_of_errors {paths : List Bytes}
    (h : ∀ path ∈ paths, ∃ e, execute w strings path = .error e) (sofar : OsError)
    (rest : List Bytes) :
    ((∀ path ∈ paths, ∀ e, execute w strings path = .error e → isSkipped e = true) ∧
      ∃ sofar', executeFirst w strings sofar (paths ++ rest) =
        executeFirst w strings sofar' rest) ∨
    (∃ path ∈ paths, ∃ e, execute w strings path = .error e ∧ isSkipped e = false) ∧
      ∃ e, executeFirst w strings sofar (paths ++ rest) = .error e := by
  induction paths generalizing sofar with
  | nil => exact .inl ⟨by simp, sofar, rfl⟩
  | cons path paths ih =>
    obtain ⟨e, he⟩ := h path (by simp)
    rw [List.cons_append]
    cases hskip : isSkipped e with
    | false => exact .inr ⟨⟨path, by simp, e, he, hskip⟩, e, executeFirst_stopped he hskip sofar _⟩
    | true =>
      rw [executeFirst_skipped he hskip]
      obtain ⟨hall, hrest⟩ | ⟨⟨p, hp, hstop⟩, hrest⟩ :=
        ih (fun p hp => h p (List.mem_cons_of_mem path hp)) (skippedError sofar e)
      · refine .inl ⟨List.forall_mem_cons.2 ⟨fun e' he' => ?_, hall⟩, hrest⟩
        rwa [← Except.error.inj (he.symm.trans he')]
      · exact .inr ⟨⟨p, List.mem_cons_of_mem path hp, hstop⟩, hrest⟩

/-- Only the end of the search path depends on its last directory. -/
theorem tried_append (before : List Bytes) {after : List Bytes} (h : after ≠ []) :
    tried (before ++ after) = before ++ tried after := by
  obtain ⟨front, last, rfl⟩ := List.eq_nil_or_concat after |>.resolve_left h
  unfold tried
  simp only [List.concat_eq_append, ← List.append_assoc, List.getLast?_concat, List.dropLast_concat]
  split_ifs
  · rfl
  · exact List.append_assoc before front [last]

theorem tried_cons (hd : d.length ≤ directoryLimit) (after : List Bytes) :
    tried (d :: after) = d :: tried after := by
  cases after with
  | nil =>
    have hshort : ¬ directoryLimit < d.length := Nat.not_lt.2 hd
    simp [tried, hshort]
  | cons b after => exact tried_append [d] (by simp)

end SierraFootprint.Tool
