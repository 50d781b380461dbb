import SierraFootprint.Proofs.Query.Running
import SierraFootprint.Proofs.Tool.Search

/-!
# Whether the executable that was found is the one that runs

A query looks its executable up and then starts it by its name. A name with a slash leads to the
same file both times. Any other name is searched for twice: the start goes past a file whose
interpreter is missing, ends at a directory that cannot be looked into, and does not know the home
directory of the user. Up to those the file that was found is the one that runs.
-/
namespace SierraFootprint

open Files

namespace Tool

variable {w : World} {name d path : Bytes} {arguments strings : List Bytes} {place : Location}
  {f : File}

/-! ### Starting the file that was found -/

/-- A program can be given its name, some arguments and the search path. -/
structure Passable (w : World) (name : Bytes) (arguments : List Bytes) : Prop where
  nul_not_mem : ∀ a ∈ arguments, 0 ∉ a
  areGivable_eq : areGivable (name :: arguments ++ setting w) = true

theorem execute_program {output : Output} (hfind : w.find path = .ok (.file place f))
    (hgivable : areGivable strings = true) (hlaunch : f.launch = .program output) :
    execute w strings path = .ok ⟨place, output⟩ := by
  simp [execute, hfind, hgivable, hlaunch]

theorem execute_noInterpreter (hfind : w.find path = .ok (.file place f))
    (hgivable : areGivable strings = true) (hlaunch : f.launch = .noInterpreter) :
    execute w strings path = .error .noSuchFile := by
  simp [execute, hfind, hgivable, hlaunch]

theorem execute_unknownFormat (hfind : w.find path = .ok (.file place f))
    (hgivable : areGivable strings = true) (hlaunch : f.launch = .unknownFormat) :
    execute w strings path = .error .execFormat := by
  simp [execute, hfind, hgivable, hlaunch]

theorem spawn_eq_ok {p : Started} (hname : 0 ∉ name) (harguments : ∀ a ∈ arguments, 0 ∉ a)
    (h : executeFirst w (name :: arguments ++ setting w) .noSuchFile (attempts w name) = .ok p) :
    spawn w name arguments = .ok p := by
  have hnul : ¬ (name.contains 0 = true ∨ arguments.any (·.contains 0) = true) := by
    simpa [hname] using harguments
  rw [spawn, if_neg hnul, h]

theorem spawn_eq_error {e : OsError}
    (h : executeFirst w (name :: arguments ++ setting w) .noSuchFile (attempts w name) = .error e) :
    ∃ e, spawn w name arguments = .error e := by
  rw [spawn, h]
  split_ifs
  · exact ⟨_, rfl⟩
  · exact ⟨_, rfl⟩

theorem spawn_of_nul (h : ∃ a ∈ arguments, 0 ∈ a) : ∃ e, spawn w name arguments = .error e := by
  have hnul : arguments.any (·.contains 0) = true := by simpa using h
  exact ⟨.nulInArgument, by rw [spawn, if_pos (.inr hnul)]⟩

theorem exists_error_of_not_areGivable (hgivable : areGivable strings = false) (path : Bytes) :
    ∃ e, execute w strings path = .error e := by
  unfold execute
  cases w.find path with
  | error e => exact ⟨e, rfl⟩
  | ok found =>
    cases found with
    | directory p => exact ⟨.permissionDenied, rfl⟩
    | file p f =>
      cases hf : f.isExecutable with
      | true => exact ⟨.argumentsTooLong, by simp [hf, hgivable]⟩
      | false =>
        have hlaunch : f.launch = .notExecutable := by simpa [File.isExecutable] using hf
        exact ⟨.permissionDenied, by simp [hf, hlaunch]⟩

theorem spawn_of_not_passable (h : ¬ Passable w name arguments) :
    ∃ e, spawn w name arguments = .error e := by
  by_cases hnul : ∃ a ∈ arguments, 0 ∈ a
  · exact spawn_of_nul hnul
  · have harguments : ∀ a ∈ arguments, 0 ∉ a := by simpa using hnul
    have hgivable : areGivable (name :: arguments ++ setting w) = false := by
      by_contra hgivable
      exact h ⟨harguments, by simpa using hgivable⟩
    have herrors : ∀ path ∈ attempts w name, ∃ e,
        execute w (name :: arguments ++ setting w) path = .error e :=
      fun path _ => exists_error_of_not_areGivable hgivable path
    obtain ⟨-, sofar, hnone⟩ | ⟨-, e, he⟩ := executeFirst_append_of_errors herrors .noSuchFile []
    · rw [List.append_nil] at hnone
      exact spawn_eq_error hnone
    · rw [List.append_nil] at he
      exact spawn_eq_error he

/-- A start comes to a path when all that is tried before it is passed over. -/
def ComesTo (w : World) (name path : Bytes) (rest : List Bytes) : Prop :=
  ∀ strings, ∃ sofar, executeFirst w strings .noSuchFile (attempts w name) =
    executeFirst w strings sofar (path :: rest)

section ComesTo

variable {rest : List Bytes} (hcomes : ComesTo w name path rest)
  (hfind : w.find path = .ok (.file place f))

include hcomes hfind

theorem spawn_program {output : Output} (hname : 0 ∉ name) (hpassable : Passable w name arguments)
    (hlaunch : f.launch = .program output) : spawn w name arguments = .ok ⟨place, output⟩ := by
  obtain ⟨sofar, hsofar⟩ := hcomes (name :: arguments ++ setting w)
  apply spawn_eq_ok hname hpassable.nul_not_mem
  rw [hsofar, executeFirst, execute_program hfind hpassable.areGivable_eq hlaunch]

/-- The search ends at a file that is in no known format. -/
theorem spawn_unknownFormat (hpassable : Passable w name arguments)
    (hlaunch : f.launch = .unknownFormat) : ∃ e, spawn w name arguments = .error e := by
  obtain ⟨sofar, hsofar⟩ := hcomes (name :: arguments ++ setting w)
  have he := execute_unknownFormat hfind hpassable.areGivable_eq hlaunch
  exact spawn_eq_error (hsofar.trans (executeFirst_stopped he rfl sofar rest))

/-- The search goes on after a file whose interpreter is missing. -/
theorem spawn_noInterpreter (hname : 0 ∉ name) (hpassable : Passable w name arguments)
    (hlaunch : f.launch = .noInterpreter) :
    (spawn w name arguments).toOption.toList =
      (trials w (name :: arguments ++ setting w) rest).filterMap Except.toOption := by
  obtain ⟨sofar, hsofar⟩ := hcomes (name :: arguments ++ setting w)
  have he := execute_noInterpreter hfind hpassable.areGivable_eq hlaunch
  rw [executeFirst_skipped he rfl] at hsofar
  rw [filterMap_trials (skippedError sofar .noSuchFile)]
  cases hrest : executeFirst w (name :: arguments ++ setting w)
      (skippedError sofar .noSuchFile) rest with
  | ok p =>
    rw [spawn_eq_ok hname hpassable.nul_not_mem (hsofar.trans hrest)]
    rfl
  | error e =>
    obtain ⟨e', he'⟩ := spawn_eq_error (hsofar.trans hrest)
    rw [he']
    rfl

end ComesTo

/-- The programs that run when one is tried in some directories: at most one. -/
def startedIn (w : World) (name : Bytes) (arguments directories : List Bytes) : List Started :=
  (trials w (name :: arguments ++ setting w) ((tried directories).map (attempt name))).filterMap
    Except.toOption

/-- A start takes a tilde for a name like any other, and the working directory for a directory that
is too long. Among such directories it finds nothing before `d`, and in `d` what a look-up found
there. -/
structure ReadAlike (w : World) (name : Bytes) (before : List Bytes) (d : Bytes)
    (place : Location) : Prop where
  before_eq_none : ∀ b ∈ before, isPersonal b = true ∨ directoryLimit < b.length →
    executable? w (attempt name b) = none
  executable?_eq : isPersonal d = true →
    d.length ≤ directoryLimit ∧ executable? w (attempt name d) = some place

theorem processes_eq_startedIn (hslash : slash ∉ name) (hname : 0 ∉ name)
    (hpassable : Passable w name arguments) {directories : List Bytes}
    (h : ∃ path, w.searchPath = some path ∧ Tool.directories path = directories) :
    processes w name arguments = startedIn w name arguments directories := by
  obtain ⟨searchPath, hsearch, rfl⟩ := h
  have hnul : ¬ (name.contains 0 = true ∨ arguments.any (·.contains 0) = true) := by
    simpa [hname] using hpassable.nul_not_mem
  have hattempts : attempts w name = (tried (Tool.directories searchPath)).map (attempt name) := by
    simp [attempts, hslash, hsearch]
  rw [processes, if_neg hnul, hattempts, startedIn]

/-! ### Coming to the file that was found -/

theorem comesTo_of_slash (h : slash ∈ name) : ComesTo w name name [] := by
  intro strings
  exact ⟨.noSuchFile, by simp [attempts, h]⟩

namespace FoundIn

variable {before after : List Bytes} (h : FoundIn w name before d after place)
  (hslash : slash ∉ name) (hpath : ∀ searchPath ∈ w.searchPath, 0 ∉ searchPath)

include h

theorem nul_not_mem_name : 0 ∉ name := by
  intro hmem
  obtain ⟨hnul, -⟩ := executable?_eq_some_iff.1 h.executable?_eq
  obtain hjoin | ⟨front, -, hjoin⟩ | hjoin := join_cases (expand w d) name <;>
    rw [hjoin] at hnul <;> simp [hmem] at hnul

include hpath in
theorem nul_not_mem_before : ∀ b ∈ before, 0 ∉ b := by
  obtain ⟨searchPath, hsearch, hdirectories⟩ := h.directories_eq
  intro b hb
  have hmem : b ∈ directories searchPath := by simp [hdirectories, hb]
  rw [directories, Bytes.splitOn_eq] at hmem
  exact Bytes.not_mem_pieces (hpath searchPath hsearch) b hmem

/-- A directory without a tilde in front is the same for both searches. -/
theorem exists_find_join (hpersonal : isPersonal d = false) :
    ∃ f, w.find (join d name) = .ok (.file place f) := by
  have hplace := h.executable?_eq
  rw [expand_of_not_isPersonal w hpersonal] at hplace
  obtain ⟨-, f, hfind, -⟩ := executable?_eq_some_iff.1 hplace
  exact ⟨f, hfind⟩

variable (halike : ReadAlike w name before d place)

include hslash halike

theorem length_le : d.length ≤ directoryLimit := by
  cases hpersonal : isPersonal d with
  | true => exact (halike.executable?_eq hpersonal).1
  | false =>
    obtain ⟨f, hfind⟩ := h.exists_find_join hpersonal
    exact Nat.le_of_lt_succ
      (Nat.lt_of_le_of_lt (length_le_join hslash d) (length_lt_of_find hfind))

theorem attempts_eq :
    attempts w name =
      before.map (attempt name) ++ attempt name d :: (tried after).map (attempt name) := by
  obtain ⟨searchPath, hsearch, hdirectories⟩ := h.directories_eq
  simp [attempts, hslash, hsearch, hdirectories, tried_append,
    tried_cons (h.length_le hslash halike)]

/-- Unless it is ended there, a start finds in the directory the file that was found. -/
theorem find_attempt_eq (hfree : ¬ Blocks w name d) (hget : w.tree.get? place = some (.file f)) :
    w.find (attempt name d) = .ok (.file place f) := by
  have hplace : ∃ g, w.find (attempt name d) = .ok (.file place g) := by
    cases hpersonal : isPersonal d with
    | true =>
      obtain ⟨-, g, hfind, -⟩ :=
        executable?_eq_some_iff.1 (halike.executable?_eq hpersonal).2
      exact ⟨g, hfind⟩
    | false =>
      obtain ⟨g, hfind⟩ := h.exists_find_join hpersonal
      exact ⟨g, (find_attempt hslash (h.length_le hslash halike)
        (length_attempt_of_not_blocks hfree)).trans hfind⟩
  obtain ⟨g, hfind⟩ := hplace
  obtain rfl : g = f := by
    have hsame := (get?_of_find hfind).symm.trans hget
    simpa using hsame
  exact hfind

include hpath

theorem execute_before (strings : List Bytes) :
    ∀ b ∈ before, ∃ e, execute w strings (attempt name b) = .error e ∧
      (isSkipped e = true ∨ w.find (attempt name b) = .error e) := by
  intro b hb
  have hname := h.nul_not_mem_name
  have hnul := h.nul_not_mem_before hpath b hb
  refine execute_of_executable?_eq_none (not_mem_attempt (by decide) hname hnul) ?_ strings
  by_cases hspecial : isPersonal b = true ∨ directoryLimit < b.length
  · exact halike.before_eq_none b hb hspecial
  · rw [not_or, Bool.not_eq_true, Nat.not_lt] at hspecial
    have hnone := h.before_eq_none b hb
    rw [expand_of_not_isPersonal w hspecial.1] at hnone
    exact executable?_attempt_eq_none hslash hspecial.2 hname hnul hnone

theorem errors_before (strings : List Bytes) :
    ∀ path ∈ before.map (attempt name), ∃ e, execute w strings path = .error e := by
  simp only [List.forall_mem_map]
  intro b hb
  obtain ⟨e, he, -⟩ := h.execute_before hslash hpath halike strings b hb
  exact ⟨e, he⟩

/-- A start that is not ended on the way comes to the directory in which the name was found. -/
theorem comesTo (hfree : ∀ b ∈ before, ¬ Blocks w name b) :
    ComesTo w name (attempt name d) ((tried after).map (attempt name)) := by
  intro strings
  rw [h.attempts_eq hslash halike]
  obtain ⟨-, hcomes⟩ | ⟨⟨path, hmem, e, he, hskip⟩, -⟩ :=
    executeFirst_append_of_errors (h.errors_before hslash hpath halike strings) .noSuchFile
      (attempt name d :: (tried after).map (attempt name))
  · exact hcomes
  · obtain ⟨b, hb, rfl⟩ := List.mem_map.1 hmem
    obtain ⟨e', he', hpassed⟩ := h.execute_before hslash hpath halike strings b hb
    obtain rfl : e = e' := Except.error.inj (he.symm.trans he')
    obtain hskip' | hfind := hpassed
    · rw [hskip] at hskip'
      cases hskip'
    · exact absurd ⟨e, hfind, hskip⟩ (hfree b hb)

theorem spawn_blocked (hblocks : ∃ b ∈ before ++ [d], Blocks w name b) :
    ∃ e, spawn w name arguments = .error e := by
  by_cases hbefore : ∃ b ∈ before, Blocks w name b
  · obtain ⟨b, hb, hblocks⟩ := hbefore
    obtain ⟨hall, -⟩ | ⟨-, e, he⟩ :=
      executeFirst_append_of_errors
        (h.errors_before hslash hpath halike (name :: arguments ++ setting w)) .noSuchFile
        (attempt name d :: (tried after).map (attempt name))
    · obtain ⟨e, he, hskip⟩ := execute_of_blocks hblocks
      rw [hall _ (List.mem_map_of_mem hb) e he] at hskip
      cases hskip
    · rw [← h.attempts_eq hslash halike] at he
      exact spawn_eq_error he
  · obtain ⟨b, hb, hblocks⟩ := hblocks
    have hd : Blocks w name d := by
      obtain hb | hb := List.mem_append.1 hb
      · exact absurd ⟨b, hb, hblocks⟩ hbefore
      · rwa [List.mem_singleton.1 hb] at hblocks
    have hfree : ∀ b ∈ before, ¬ Blocks w name b := fun b hb hblocks => hbefore ⟨b, hb, hblocks⟩
    obtain ⟨sofar, hsofar⟩ := h.comesTo hslash hpath halike hfree (name :: arguments ++ setting w)
    obtain ⟨e, he, hskip⟩ := execute_of_blocks hd
    exact spawn_eq_error (hsofar.trans (executeFirst_stopped he hskip sofar _))

end FoundIn
end Tool

namespace Jq

variable {jq : Jq} {w : World} {place : Location} {f : File}

/-- Nothing runs, and the error is that the executable could not be started. -/
def StartsNothing (jq : Jq) (w : World) (path : Bytes) : Prop :=
  jq.processes w path = [] ∧ ∃ e, (jq.ask w path).count = .error ⟨jq.executable, .spawning e⟩

/-- The executable can be given its name, the arguments of the query and the search path. -/
def Passable (jq : Jq) (w : World) (path : Bytes) : Prop :=
  Tool.Passable w jq.executable (jq.callArguments path)

/-- The file is the only one that is started: it runs if it is a program, and otherwise nothing
does. -/
structure StartsOnly (jq : Jq) (w : World) (path : Bytes) (place : Location) (f : File) : Prop where
  runs : ∀ output, f.launch = .program output → jq.Passable w path →
    jq.processes w path = [⟨place, output⟩]
  fails : (∀ output, f.launch = .program output → ¬ jq.Passable w path) → jq.StartsNothing w path

theorem processes_of_spawn (hfound : Tool.lookup w jq.executable = .ok place) (path : Bytes) :
    jq.processes w path =
      (Tool.spawn w jq.executable (jq.callArguments path)).toOption.toList := by
  rw [processes, hfound, Tool.processes_eq]

theorem startsNothing_of_spawn (hfound : Tool.lookup w jq.executable = .ok place) {path : Bytes}
    (h : ∃ e, Tool.spawn w jq.executable (jq.callArguments path) = .error e) :
    jq.StartsNothing w path := by
  obtain ⟨e, he⟩ := h
  refine ⟨?_, e, ?_⟩
  · rw [processes_of_spawn hfound, he]
    rfl
  · rw [ask, hfound, he]

theorem startsNothing_of_processes (hfound : Tool.lookup w jq.executable = .ok place)
    {path : Bytes} (h : jq.processes w path = []) : jq.StartsNothing w path := by
  apply startsNothing_of_spawn hfound
  rw [processes_of_spawn hfound] at h
  cases hspawn : Tool.spawn w jq.executable (jq.callArguments path) with
  | error e => exact ⟨e, rfl⟩
  | ok p => simp [hspawn, Except.toOption] at h

/-- The file that a start comes to is the only one that is started, unless the start goes past
it. -/
theorem startsOnly_of_comesTo (hfound : Tool.lookup w jq.executable = .ok place)
    (hname : 0 ∉ jq.executable) {attempted : Bytes} {rest : List Bytes}
    (hcomes : Tool.ComesTo w jq.executable attempted rest)
    (hfind : w.find attempted = .ok (.file place f)) (hf : f.isExecutable = true) {path : Bytes}
    (hrest : f.launch = .noInterpreter → jq.Passable w path → rest = []) :
    jq.StartsOnly w path place f := by
  refine ⟨fun output hlaunch hpassable => ?_, fun hfails => ?_⟩
  · rw [processes_of_spawn hfound, Tool.spawn_program hcomes hfind hname hpassable hlaunch]
    rfl
  · by_cases hpassable : jq.Passable w path
    · cases hlaunch : f.launch with
      | notExecutable => simp [File.isExecutable, hlaunch] at hf
      | unknownFormat =>
        exact startsNothing_of_spawn hfound
          (Tool.spawn_unknownFormat hcomes hfind hpassable hlaunch)
      | noInterpreter =>
        apply startsNothing_of_processes hfound
        rw [processes_of_spawn hfound,
          Tool.spawn_noInterpreter hcomes hfind hname hpassable hlaunch, hrest hlaunch hpassable]
        rfl
      | program output => exact absurd hpassable (hfails output hlaunch)
    · exact startsNothing_of_spawn hfound (Tool.spawn_of_not_passable hpassable)

theorem processes_eq_startedIn (hfound : Tool.lookup w jq.executable = .ok place)
    {before after : List Bytes} {d : Bytes}
    (hin : Tool.FoundIn w jq.executable before d after place) (hslash : slash ∉ jq.executable)
    {path : Bytes} (hpassable : jq.Passable w path) :
    jq.processes w path =
      Tool.startedIn w jq.executable (jq.callArguments path) (before ++ d :: after) := by
  rw [processes, hfound]
  exact Tool.processes_eq_startedIn hslash hin.nul_not_mem_name hpassable hin.directories_eq

/-- What a start makes of the file that was found in the directory `d` of the search path. -/
structure StartsIn (jq : Jq) (w : World) (path : Bytes) (place : Location) (f : File)
    (before : List Bytes) (d : Bytes) (after : List Bytes) : Prop where
  blocked : (∃ b ∈ before ++ [d], Tool.Blocks w jq.executable b) → jq.StartsNothing w path
  reached : (∀ b ∈ before ++ [d], ¬ Tool.Blocks w jq.executable b) →
    (f.launch = .noInterpreter → ¬ jq.Passable w path) → jq.StartsOnly w path place f
  passed : (∀ b ∈ before ++ [d], ¬ Tool.Blocks w jq.executable b) → f.launch = .noInterpreter →
    jq.Passable w path →
      jq.processes w path = Tool.startedIn w jq.executable (jq.callArguments path) after

theorem startsIn_of_foundIn (hfound : Tool.lookup w jq.executable = .ok place)
    {before after : List Bytes} {d : Bytes}
    (hin : Tool.FoundIn w jq.executable before d after place) (hslash : slash ∉ jq.executable)
    (hpath : ∀ searchPath ∈ w.searchPath, 0 ∉ searchPath)
    (halike : Tool.ReadAlike w jq.executable before d place)
    (hget : w.tree.get? place = some (.file f)) (hf : f.isExecutable = true) (path : Bytes) :
    jq.StartsIn w path place f before d after := by
  have hname := hin.nul_not_mem_name
  have hreached (hfree : ∀ b ∈ before ++ [d], ¬ Tool.Blocks w jq.executable b) :
      Tool.ComesTo w jq.executable (Tool.attempt jq.executable d)
          ((Tool.tried after).map (Tool.attempt jq.executable)) ∧
        w.find (Tool.attempt jq.executable d) = .ok (.file place f) :=
    ⟨hin.comesTo hslash hpath halike fun b hb => hfree b (List.mem_append_left [d] hb),
      hin.find_attempt_eq hslash halike (hfree d (by simp)) hget⟩
  refine ⟨fun hblocks => ?_, fun hfree h => ?_, fun hfree hlaunch hpassable => ?_⟩
  · exact startsNothing_of_spawn hfound (hin.spawn_blocked hslash hpath halike hblocks)
  · obtain ⟨hcomes, hattempt⟩ := hreached hfree
    exact startsOnly_of_comesTo hfound hname hcomes hattempt hf
      fun hlaunch hpassable => absurd hpassable (h hlaunch)
  · obtain ⟨hcomes, hattempt⟩ := hreached hfree
    rw [processes_of_spawn hfound,
      Tool.spawn_noInterpreter hcomes hattempt hname hpassable hlaunch]
    rfl

/-- An executable that was found by a name with a slash is the only file that is started. One that
was found on the search path is the only one too, unless the two searches read a directory up to it
differently and the start finds something else there, the start is ended by a directory before, or
it goes past the file as its interpreter is missing. In any case what runs is the first program that
the start finds, at most one, and nothing runs that cannot be handed its arguments. A search path has
no byte zero in it, as it comes from the environment. -/
theorem processes_of_lookup (hfound : Tool.lookup w jq.executable = .ok place)
    (hpath : ∀ searchPath ∈ w.searchPath, 0 ∉ searchPath) (path : Bytes) :
    (jq.processes w path = [] → jq.StartsNothing w path) ∧
    (¬ jq.Passable w path → jq.StartsNothing w path) ∧
    ∃ f, w.tree.get? place = some (.file f) ∧ f.isExecutable = true ∧
      (slash ∈ jq.executable → jq.StartsOnly w path place f) ∧
      (slash ∉ jq.executable → ∃ before d after,
        Tool.FoundIn w jq.executable before d after place ∧
        (jq.Passable w path → jq.processes w path =
          Tool.startedIn w jq.executable (jq.callArguments path) (before ++ d :: after)) ∧
        (Tool.ReadAlike w jq.executable before d place →
          jq.StartsIn w path place f before d after)) := by
  refine ⟨startsNothing_of_processes hfound,
    fun h => startsNothing_of_spawn hfound (Tool.spawn_of_not_passable h), ?_⟩
  obtain ⟨hslash, hplace⟩ | ⟨hslash, before, d, after, hin⟩ := Tool.lookup_cases hfound
  · obtain ⟨hname, f, hfind, hf⟩ := Tool.executable?_eq_some_iff.1 hplace
    refine ⟨f, get?_of_find hfind, hf, fun _ => ?_, fun h => absurd hslash h⟩
    exact startsOnly_of_comesTo hfound hname (Tool.comesTo_of_slash hslash) hfind hf
      fun _ _ => rfl
  · obtain ⟨-, f, hfind, hf⟩ := Tool.executable?_eq_some_iff.1 hin.executable?_eq
    have hget := get?_of_find hfind
    exact ⟨f, hget, hf, fun h => absurd h hslash, fun _ => ⟨before, d, after, hin,
      processes_eq_startedIn hfound hin hslash,
      fun halike => startsIn_of_foundIn hfound hin hslash hpath halike hget hf path⟩⟩

/-- A world with some entries, with some directories on the search path, and with the directory `h`
for the home of the user. -/
def searching (entries : List (Location × Entry)) (directories : List Bytes) : World :=
  ⟨⟨entries⟩, [], some [slash, 0x68], some (Tool.searchPathOf directories)⟩

/-- The file of the usual executable in a directory. -/
def fileIn (directory : Name) (launch : Launch) : Location × Entry :=
  ([directory, Bytes.ofString defaultExecutable], .file ⟨[], launch⟩)

/-- A program that prints a number. -/
def printing (digit : UInt8) : Launch :=
  .program ⟨[digit, 0x0A], [], .exited 0⟩

/-- The directory `a` has a file that cannot be executed, and the directory `b`, whose name has a
slash after it, has the program. -/
def plainFirst : World :=
  searching [([[0x61]], .directory), ([[0x62]], .directory), fileIn [0x61] .notExecutable,
    fileIn [0x62] (printing 0x37)] [[0x61], [0x62, slash]]

theorem processes_of_lookup_plainFirst :
    default.processes plainFirst [0x78] =
      [⟨[[0x62], Bytes.ofString defaultExecutable], [0x37, 0x0A], [], .exited 0⟩] := by
  have hlookup : Tool.lookup plainFirst default.executable =
      .ok [[0x62], Bytes.ofString defaultExecutable] := by decide
  obtain ⟨-, -, f, hget, -, -, hbare⟩ := processes_of_lookup hlookup (by decide) [0x78]
  obtain ⟨before, d, after, hin, -, hstarts⟩ := hbare (by decide)
  have hf : f = ⟨[], printing 0x37⟩ := by
    cases hget
    rfl
  obtain ⟨rfl, rfl⟩ : before = [[0x61]] ∧ d = [0x62, slash] := by
    obtain ⟨searchPath, hsearch, hdirectories⟩ := hin.directories_eq
    cases hsearch
    have hdirectories : [[0x61], [0x62, slash]] = before ++ d :: after := hdirectories
    match before with
    | [] =>
      obtain rfl : [0x61] = d := (List.cons.inj hdirectories).1
      exact absurd hin.executable?_eq (by decide)
    | [b] => simp_all
    | b :: c :: rest => simp at hdirectories
  have halike : Tool.ReadAlike plainFirst default.executable [[0x61]] [0x62, slash]
      [[0x62], Bytes.ofString defaultExecutable] := ⟨by decide, by decide⟩
  have hfree : ∀ b ∈ [[0x61], [0x62, slash]], ¬ Tool.Blocks plainFirst default.executable b := by
    simp only [List.forall_mem_cons, List.not_mem_nil, false_implies, implies_true, and_true]
    constructor
    · rintro ⟨e, he, -⟩
      cases he
    · rintro ⟨e, he, -⟩
      cases he
  refine ((hstarts halike).reached hfree (by simp [hf, printing])).runs _ (by rw [hf]; rfl) ?_
  exact ⟨by decide, by decide⟩

/-- The first directory has a file whose interpreter is missing. -/
def noInterpreterFirst : World :=
  searching [([[0x61]], .directory), ([[0x62]], .directory), fileIn [0x61] .noInterpreter,
    fileIn [0x62] (printing 0x37)] [[0x61], [0x62]]

/-- The first directory is a link to itself. -/
def loopFirst : World :=
  searching [([[0x61]], .link [0x61]), ([[0x62]], .directory), fileIn [0x62] (printing 0x37)]
    [[0x61], [0x62]]

/-- The first directory is the home of the user for a look-up, where nothing is. For a start it is a
directory with a program. -/
def tildeFirst : World :=
  searching [([Tool.tilde], .directory), ([[0x62]], .directory),
    fileIn Tool.tilde (printing 0x39), fileIn [0x62] (printing 0x37)] [Tool.tilde, [0x62]]

/-- The first directory is the home of the user for a look-up, where the program is. For a start it
does not exist. -/
def homeFirst : World :=
  searching [([[0x68]], .directory), ([[0x62]], .directory), fileIn [0x68] (printing 0x39),
    fileIn [0x62] (printing 0x37)] [Tool.tilde, [0x62]]

/-- The usual executable is found at a file that can be given everything, and still that file is
not the only one that is started. -/
def FoundInVain (w : World) : Prop :=
  ∃ place f, Tool.lookup w default.executable = .ok place ∧ w.tree.get? place = some (.file f) ∧
    default.Passable w [0x78] ∧ ¬ default.StartsOnly w [0x78] place f

/-- Another program runs, none does, and another one does in the last two worlds. -/
theorem foundInVain :
    FoundInVain noInterpreterFirst ∧ FoundInVain loopFirst ∧ FoundInVain tildeFirst ∧
      FoundInVain homeFirst := by
  have hpassable (w : World)
      (h : w ∈ [noInterpreterFirst, loopFirst, tildeFirst, homeFirst]) :
      default.Passable w [0x78] := by
    refine ⟨by decide, ?_⟩
    revert w
    decide
  refine ⟨⟨_, _, rfl, rfl, hpassable _ (by simp), fun h => ?_⟩,
    ⟨_, _, rfl, rfl, hpassable _ (by simp), fun h => ?_⟩,
    ⟨_, _, rfl, rfl, hpassable _ (by simp), fun h => ?_⟩,
    ⟨_, _, rfl, rfl, hpassable _ (by simp), fun h => ?_⟩⟩
  · obtain ⟨hnone, -⟩ := h.fails (by simp)
    exact absurd hnone (by decide)
  · exact absurd (h.runs _ rfl (hpassable _ (by simp))) (by decide)
  · exact absurd (h.runs _ rfl (hpassable _ (by simp))) (by decide)
  · exact absurd (h.runs _ rfl (hpassable _ (by simp))) (by decide)

end Jq
end SierraFootprint
