import SierraFootprint.Tool.Spawn
import Mathlib.Tactic.Common

/-!
# Which programs run when one is started

Starting a program by name tries one path after the other. The trials that are made, up to the one
that ends the search, tell which programs run: at most one does, and one does exactly when the start
succeeds.
-/
namespace SierraFootprint

/-! ### Files that are found -/

namespace Files

theorem get?_of_walkWith {follow : Location → List Name → Except OsError Found} {tree : Tree}
    {p : Location} {f : File}
    (hfollow : ∀ place rest, follow place rest = .ok (.file p f) → tree.get? p = some (.file f))
    {place : Location} {path : List Name}
    (h : walkWith follow tree place path = .ok (.file p f)) : tree.get? p = some (.file f) := by
  fun_induction walkWith follow tree place path with
  | case1 place => cases h
  | case2 place name rest hself ih => exact ih h
  | case3 place rest hself ih => exact ih h
  | case4 place name rest _ _ hlong => cases h
  | case5 place name rest _ _ _ hnone => cases h
  | case6 place name rest _ _ _ hdirectory ih => exact ih h
  | case7 place name _ _ _ g hg =>
    cases h
    exact hg
  | case8 place name rest _ _ _ g hg hrest => cases h
  | case9 place name rest _ _ _ target hlink => exact hfollow _ _ h

/-- A walk ends at a file only where the tree has it, however many links were followed. -/
theorem get?_of_walk {tree : Tree} {links : Nat} {place p : Location} {path : List Name} {f : File}
    (h : walk tree links place path = .ok (.file p f)) : tree.get? p = some (.file f) := by
  induction links generalizing place path with
  | zero => exact get?_of_walkWith (fun _ _ he => by cases he) h
  | succ links ih => exact get?_of_walkWith (fun _ _ => ih) h

theorem get?_of_find {tree : Tree} {start p : Location} {path : Bytes} {f : File}
    (h : tree.find start path = .ok (.file p f)) : tree.get? p = some (.file f) := by
  unfold Tree.find at h
  split at h
  · cases h
  split at h
  · cases h
  · exact get?_of_walk h

end Files

namespace Tool

variable {w : World} {strings : List Bytes}

/-- A program that runs is a file of the tree that can be executed. -/
def IsProgram (w : World) (p : Started) : Prop :=
  ∃ f, w.tree.get? p.place = some (.file f) ∧ f.launch = .program p.output

theorem isProgram_of_execute {path : Bytes} {p : Started} (h : execute w strings path = .ok p) :
    IsProgram w p := by
  unfold execute at h
  split at h
  · cases h
  · cases h
  · next place f hfind =>
    split at h
    · cases h
    split at h
    · cases h
    · cases h
    · cases h
    · next output hlaunch =>
      cases h
      exact ⟨f, Files.get?_of_find hfind, hlaunch⟩

/-- What comes of trying some paths in order, up to the one that ends the search. -/
def trials (w : World) (strings : List Bytes) : List Bytes → List (Except OsError Started)
  | [] => []
  | path :: rest =>
    match execute w strings path with
    | .ok p => [.ok p]
    | .error e => .error e :: if isSkipped e then trials w strings rest else []

/-- The programs that run when a program is started with some arguments: one for each trial that
succeeds, and none where the arguments cannot be handed over. -/
def processes (w : World) (name : Bytes) (arguments : List Bytes) : List Started :=
  if name.contains 0 ∨ arguments.any (·.contains 0) then []
  else (trials w (name :: arguments ++ setting w) (attempts w name)).filterMap Except.toOption

/-- The search ends with the first program that runs. -/
theorem filterMap_trials (sofar : OsError) (paths : List Bytes) :
    (trials w strings paths).filterMap Except.toOption =
      (executeFirst w strings sofar paths).toOption.toList := by
  induction paths generalizing sofar with
  | nil => rfl
  | cons path rest ih =>
    cases hpath : execute w strings path with
    | ok p => simp [trials, executeFirst, hpath, Except.toOption]
    | error e =>
      simp only [trials, executeFirst, hpath]
      split
      · exact ih _
      · rfl

theorem processes_eq (w : World) (name : Bytes) (arguments : List Bytes) :
    processes w name arguments = (spawn w name arguments).toOption.toList := by
  unfold processes spawn
  split
  · rfl
  · rw [filterMap_trials .noSuchFile]
    cases executeFirst w (name :: arguments ++ setting w) .noSuchFile (attempts w name) <;> rfl

theorem isProgram_of_mem_trials {paths : List Bytes} {p : Started}
    (h : .ok p ∈ trials w strings paths) : IsProgram w p := by
  induction paths with
  | nil => cases h
  | cons path rest ih =>
    unfold trials at h
    split at h
    next q hq =>
      obtain rfl : p = q := by simpa using h
      exact isProgram_of_execute hq
    next e he =>
      split at h
      · exact ih (by simpa using h)
      · simp at h

theorem isProgram_of_mem_processes {name : Bytes} {arguments : List Bytes} {p : Started}
    (h : p ∈ processes w name arguments) : IsProgram w p := by
  unfold processes at h
  split at h
  · cases h
  · obtain ⟨trial, htrial, hp⟩ := List.mem_filterMap.1 h
    cases trial with
    | error e => cases hp
    | ok q =>
      cases hp
      exact isProgram_of_mem_trials htrial

end Tool
end SierraFootprint
