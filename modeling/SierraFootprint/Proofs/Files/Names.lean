import SierraFootprint.Files.Tree
import Mathlib.Tactic.Common

/-!
# The names of a path and where they lead

A name between two slashes that follow each other leads nowhere else, and a path whose last name
stands for the directory itself never ends at a file.
-/
namespace SierraFootprint

namespace Bytes

theorem pieces_ne_nil (separator : UInt8) (bytes : Bytes) : pieces separator bytes ≠ [] := by
  induction bytes with
  | nil => simp [pieces]
  | cons b rest ih =>
    by_cases hb : b = separator
    · simp [pieces, hb]
    · simp [pieces, hb, ih]

theorem pieces_append (separator : UInt8) (a b : Bytes) :
    pieces separator (a ++ separator :: b) = pieces separator a ++ pieces separator b := by
  induction a with
  | nil => simp [pieces]
  | cons x a ih =>
    by_cases hx : x = separator
    · simp [pieces, hx, ih]
    · simp only [List.cons_append, pieces, hx, if_false, ih]
      cases ha : pieces separator a with
      | nil => exact absurd ha (pieces_ne_nil separator a)
      | cons first more => rfl

theorem pieces_of_not_mem {separator : UInt8} {bytes : Bytes} (h : separator ∉ bytes) :
    pieces separator bytes = [bytes] := by
  induction bytes with
  | nil => rfl
  | cons b rest ih =>
    rw [List.mem_cons, not_or] at h
    simp [pieces, Ne.symm h.1, ih h.2]

theorem not_mem_pieces {separator b : UInt8} {bytes : Bytes} (h : b ∉ bytes) :
    ∀ piece ∈ pieces separator bytes, b ∉ piece := by
  induction bytes with
  | nil => simp [pieces]
  | cons x rest ih =>
    rw [List.mem_cons, not_or] at h
    have ih := ih h.2
    unfold pieces
    split_ifs
    · simpa using ih
    · cases hrest : pieces separator rest with
      | nil => simp
      | cons first more =>
        rw [hrest] at ih
        simpa [h.1] using ih

end Bytes

namespace Files

theorem names_ne_nil (path : Bytes) : names path ≠ [] := by
  rw [names, Bytes.splitOn_eq]
  exact Bytes.pieces_ne_nil slash path

theorem names_append (a b : Bytes) : names (a ++ slash :: b) = names a ++ names b := by
  simp only [names, Bytes.splitOn_eq, Bytes.pieces_append]

theorem names_of_not_mem {path : Bytes} (h : slash ∉ path) : names path = [path] := by
  rw [names, Bytes.splitOn_eq, Bytes.pieces_of_not_mem h]

theorem Tree.find_of_tooLong {path : Bytes} (h : pathBound ≤ path.length) (tree : Tree)
    (start : Location) : tree.find start path = .error .nameTooLong := by
  have hne : path ≠ [] := by
    rintro rfl
    cases h
  rw [Tree.find, if_neg hne, if_pos h]

/-! ### Names that lead nowhere -/

variable {follow : Location → List Name → Except OsError Found} {tree : Tree}

theorem walkWith_empty_name {b : List Name} (hb : b ≠ [])
    (hfollow : ∀ place a, follow place (a ++ [] :: b) = follow place (a ++ b))
    (place : Location) (a : List Name) :
    walkWith follow tree place (a ++ [] :: b) = walkWith follow tree place (a ++ b) := by
  induction a generalizing place with
  | nil => rw [List.nil_append, List.nil_append, walkWith, if_pos (.inl rfl)]
  | cons name a ih =>
    have hlong : a ++ [] :: b ≠ [] := by simp
    have hshort : a ++ b ≠ [] := by simp [hb]
    simp only [List.cons_append, walkWith, ih, if_neg hlong, if_neg hshort, ← List.append_assoc,
      hfollow]

/-- An empty name in front of another one plays no part. -/
theorem walk_empty_name (tree : Tree) (links : Nat) (place : Location) (a : List Name)
    {b : List Name} (hb : b ≠ []) :
    walk tree links place (a ++ [] :: b) = walk tree links place (a ++ b) := by
  induction links generalizing place a with
  | zero => exact walkWith_empty_name hb (fun _ _ => rfl) place a
  | succ links ih => exact walkWith_empty_name hb ih place a

/-- The last name of a path, if there is one, stands for the directory itself. -/
def EndsInSelf (path : List Name) : Prop :=
  ∀ name ∈ path.getLast?, name = [] ∨ name = selfName

theorem EndsInSelf.tail {name : Name} {rest : List Name} (h : EndsInSelf (name :: rest)) :
    EndsInSelf rest := by
  intro last hlast
  cases rest with
  | nil => cases hlast
  | cons next rest => exact h last (by simpa using hlast)

theorem EndsInSelf.append {a b : List Name} (hb : b ≠ []) (h : EndsInSelf b) :
    EndsInSelf (a ++ b) := by
  intro last hlast
  have hlast : last ∈ b.getLast? := by
    cases hlb : b.getLast? with
    | none => exact absurd (List.getLast?_eq_none_iff.1 hlb) hb
    | some x => simpa [List.getLast?_append, hlb] using hlast
  exact h last hlast

theorem walkWith_ne_file
    (hfollow : ∀ place path p f, EndsInSelf path → follow place path ≠ .ok (.file p f))
    (place : Location) (path : List Name) (p : Location) (f : File) (h : EndsInSelf path) :
    walkWith follow tree place path ≠ .ok (.file p f) := by
  fun_induction walkWith follow tree place path with
  | case1 place => simp
  | case2 place name rest hself ih => exact ih h.tail
  | case3 place rest hself ih => exact ih h.tail
  | case4 place name rest _ _ hlong => simp
  | case5 place name rest _ _ _ hnone => simp
  | case6 place name rest _ _ _ hdirectory ih => exact ih h.tail
  | case7 place name hself => exact absurd (h name rfl) hself
  | case8 place name rest _ _ _ g hg hrest => simp
  | case9 place name rest hself _ _ target hlink =>
    have hrest : rest ≠ [] := by
      rintro rfl
      exact hself (h name rfl)
    exact hfollow _ _ _ _ (h.tail.append hrest)

theorem walk_ne_file (links : Nat) (place : Location) (path : List Name) (p : Location) (f : File)
    (h : EndsInSelf path) : walk tree links place path ≠ .ok (.file p f) := by
  induction links generalizing place path p f with
  | zero => exact walkWith_ne_file (fun _ _ _ _ _ => by simp) place path p f h
  | succ links ih => exact walkWith_ne_file ih place path p f h

end Files
end SierraFootprint
