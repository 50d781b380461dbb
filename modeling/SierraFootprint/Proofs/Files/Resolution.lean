import SierraFootprint.Files.Tree
import Mathlib.Tactic.Common

/-!
# The steps of a resolution

A resolution stands in a directory with names still to be looked up. A step takes the first name
away, or puts the names of a link's target in its place. Nothing limits the links here: a walk does
what a resolution does, up to the link that is one too many.
-/
namespace SierraFootprint.Files

/-- A directory, and the names still to be looked up from there. -/
structure Position where
  place : Location
  names : List Name
  deriving DecidableEq, Repr

/-- A name is looked up among the entries of a directory. -/
structure LooksUp (tree : Tree) (place : Location) (name : Name) (found : Option Entry) : Prop where
  ne_nil : name ≠ []
  ne_self : name ≠ selfName
  ne_parent : name ≠ parentName
  length_le : name.length ≤ nameLimit
  get?_eq : tree.get? (place ++ [name]) = found

/-- The first name leads to a directory. -/
inductive Moves (tree : Tree) : Position → Position → Prop
  | stays {place : Location} {name : Name} {rest : List Name} (h : name = [] ∨ name = selfName) :
      Moves tree ⟨place, name :: rest⟩ ⟨place, rest⟩
  | rises {place : Location} {rest : List Name} :
      Moves tree ⟨place, parentName :: rest⟩ ⟨place.dropLast, rest⟩
  | enters {place : Location} {name : Name} {rest : List Name}
      (h : LooksUp tree place name (some .directory)) :
      Moves tree ⟨place, name :: rest⟩ ⟨place ++ [name], rest⟩

/-- The first name is a link, whose target is resolved before the other names. -/
inductive Follows (tree : Tree) : Position → Position → Prop
  | link {place : Location} {name : Name} {rest : List Name} {target : Bytes}
      (h : LooksUp tree place name (some (.link target))) :
      Follows tree ⟨place, name :: rest⟩ ⟨origin place target, names target ++ rest⟩

/-- Where a resolution can stop. -/
inductive Stop
  /-- A name does not exist. -/
  | missing
  /-- A file is to be used as a directory. -/
  | notDirectory
  | nameTooLong
  | found (what : Found)
  deriving DecidableEq, Repr

/-- No step can be made. -/
inductive Stops (tree : Tree) : Position → Stop → Prop
  | directory {place : Location} : Stops tree ⟨place, []⟩ (.found (.directory place))
  | file {place : Location} {name : Name} {f : File}
      (h : LooksUp tree place name (some (.file f))) :
      Stops tree ⟨place, [name]⟩ (.found (.file (place ++ [name]) f))
  | notDirectory {place : Location} {name : Name} {rest : List Name} {f : File}
      (h : LooksUp tree place name (some (.file f))) (hrest : rest ≠ []) :
      Stops tree ⟨place, name :: rest⟩ .notDirectory
  | missing {place : Location} {name : Name} {rest : List Name} (h : LooksUp tree place name none) :
      Stops tree ⟨place, name :: rest⟩ .missing
  | nameTooLong {place : Location} {name : Name} {rest : List Name} (h : nameLimit < name.length) :
      Stops tree ⟨place, name :: rest⟩ .nameTooLong

/-- Steps from one position to another, with a number of links among them. -/
inductive Reaches (tree : Tree) : Nat → Position → Position → Prop
  | refl (p : Position) : Reaches tree 0 p p
  | move {n : Nat} {p q r : Position} (h : Moves tree p q) (hrest : Reaches tree n q r) :
      Reaches tree n p r
  | follow {n : Nat} {p q r : Position} (h : Follows tree p q) (hrest : Reaches tree n q r) :
      Reaches tree (n + 1) p r

/-- A resolution stops when no more than a number of links have been followed. -/
def StopsWithin (tree : Tree) (links : Nat) (p : Position) (s : Stop) : Prop :=
  ∃ n ≤ links, ∃ q, Reaches tree n p q ∧ Stops tree q s

/-- When a number of links have been followed, there is another one. -/
def Exceeds (tree : Tree) (links : Nat) (p : Position) : Prop :=
  ∃ q r, Reaches tree links p q ∧ Follows tree q r

variable {tree : Tree} {p q r : Position} {s : Stop} {place : Location} {name : Name}
  {rest : List Name} {links m n : Nat}

/-! ### Steps -/

theorem moves_or_follows_or_stops (tree : Tree) (p : Position) :
    (∃ q, Moves tree p q) ∨ (∃ q, Follows tree p q) ∨ ∃ s, Stops tree p s := by
  obtain ⟨place, names⟩ := p
  cases names with
  | nil => exact .inr (.inr ⟨_, .directory⟩)
  | cons name rest =>
    by_cases hstays : name = [] ∨ name = selfName
    · exact .inl ⟨_, .stays hstays⟩
    by_cases hparent : name = parentName
    · subst hparent
      exact .inl ⟨_, .rises⟩
    by_cases hlong : nameLimit < name.length
    · exact .inr (.inr ⟨_, .nameTooLong hlong⟩)
    rw [not_or] at hstays
    have hlooks : LooksUp tree place name (tree.get? (place ++ [name])) :=
      ⟨hstays.1, hstays.2, hparent, Nat.not_lt.1 hlong, rfl⟩
    cases hget : tree.get? (place ++ [name]) with
    | none => exact .inr (.inr ⟨_, .missing (hget ▸ hlooks)⟩)
    | some entry =>
      rw [hget] at hlooks
      cases entry with
      | directory => exact .inl ⟨_, .enters hlooks⟩
      | link target => exact .inr (.inl ⟨_, .link hlooks⟩)
      | file f =>
        by_cases hrest : rest = []
        · subst hrest
          exact .inr (.inr ⟨_, .file hlooks⟩)
        · exact .inr (.inr ⟨_, .notDirectory hlooks hrest⟩)

theorem Moves.length_lt (h : Moves tree p q) : q.names.length < p.names.length := by
  cases h <;> simp

/-! ### Steps in a row -/

theorem Reaches.trans (h : Reaches tree m p q) (h' : Reaches tree n q r) :
    Reaches tree (m + n) p r := by
  induction h with
  | refl p => simpa using h'
  | move hstep _ ih => exact .move hstep (ih h')
  | follow hstep _ ih =>
    rw [Nat.add_right_comm]
    exact .follow hstep (ih h')

/-- Without links, there are no more steps than names. -/
theorem exists_reaches_zero (tree : Tree) (p : Position) :
    ∃ q, Reaches tree 0 p q ∧ ((∃ r, Follows tree q r) ∨ ∃ s, Stops tree q s) := by
  induction hlength : p.names.length using Nat.strongRecOn generalizing p with
  | ind length ih =>
    obtain ⟨q, hmove⟩ | hend := moves_or_follows_or_stops tree p
    · obtain ⟨r, hreach, hend⟩ := ih q.names.length (hlength ▸ hmove.length_lt) q rfl
      exact ⟨r, .move hmove hreach, hend⟩
    · exact ⟨p, .refl p, hend⟩

/-- A resolution stops, or there is one link more than may be followed. -/
theorem stopsWithin_or_exceeds (tree : Tree) (links : Nat) (p : Position) :
    (∃ s, StopsWithin tree links p s) ∨ Exceeds tree links p := by
  induction links generalizing p with
  | zero =>
    obtain ⟨q, hreach, ⟨r, hfollow⟩ | ⟨s, hstop⟩⟩ := exists_reaches_zero tree p
    · exact .inr ⟨q, r, hreach, hfollow⟩
    · exact .inl ⟨s, 0, Nat.le_refl 0, q, hreach, hstop⟩
  | succ links ih =>
    obtain ⟨q, hreach, ⟨r, hfollow⟩ | ⟨s, hstop⟩⟩ := exists_reaches_zero tree p
    · -- One link is spent on the way to `r`, and what is left of them decides there.
      have hfirst : ∀ {n t}, Reaches tree n r t → Reaches tree (n + 1) p t := fun hrest => by
        simpa using hreach.trans (.follow hfollow hrest)
      obtain ⟨s, n, hn, t, hrest, hstop⟩ | ⟨t, u, hrest, hmore⟩ := ih r
      · exact .inl ⟨s, n + 1, Nat.succ_le_succ hn, t, hfirst hrest, hstop⟩
      · exact .inr ⟨t, u, hfirst hrest, hmore⟩
    · exact .inl ⟨s, 0, Nat.zero_le _, q, hreach, hstop⟩

/-! ### What a walk does -/

/-- The result of a walk that stops. -/
def Stop.result : Stop → Except OsError Found
  | missing => .error .noSuchFile
  | notDirectory => .error .notDirectory
  | nameTooLong => .error .nameTooLong
  | found what => .ok what

theorem Stop.result_injective {s t : Stop} (h : s.result = t.result) : s = t := by
  cases s <;> cases t <;> cases h <;> rfl

theorem Stop.result_ne_tooManyLinks (s : Stop) : s.result ≠ .error .tooManyLinks := by
  cases s <;> simp [result]

theorem Moves.walk_eq (h : Moves tree p q) (links : Nat) :
    walk tree links p.place p.names = walk tree links q.place q.names := by
  cases h with
  | stays h => cases links <;> simp [walk, walkWith, h]
  | rises =>
    have hproper : ¬ (parentName = [] ∨ parentName = selfName) := by decide
    cases links <;> simp [walk, walkWith, hproper]
  | enters h =>
    exact walk_directory tree links _ _ h.ne_nil h.ne_self h.ne_parent h.length_le h.get?_eq

theorem Follows.walk_eq (h : Follows tree p q) (links : Nat) :
    walk tree (links + 1) p.place p.names = walk tree links q.place q.names := by
  obtain ⟨h⟩ := h
  exact walk_link tree links _ _ h.ne_nil h.ne_self h.ne_parent h.length_le h.get?_eq

theorem Follows.walk_zero (h : Follows tree p q) :
    walk tree 0 p.place p.names = .error .tooManyLinks := by
  obtain ⟨h⟩ := h
  simp [walk, walkWith, h.ne_nil, h.ne_self, h.ne_parent, Nat.not_lt.2 h.length_le, h.get?_eq]

theorem Stops.walk_eq (h : Stops tree p s) (links : Nat) :
    walk tree links p.place p.names = s.result := by
  cases h with
  | directory => exact walk_nil tree links _
  | file h | notDirectory h | missing h =>
    cases links <;>
      simp [walk, walkWith, h.ne_nil, h.ne_self, h.ne_parent, Nat.not_lt.2 h.length_le, h.get?_eq,
        Stop.result, *]
  | @nameTooLong place name rest h =>
    have hnil : name ≠ [] := by
      rintro rfl
      cases h
    have hself : name ≠ selfName := by
      rintro rfl
      exact absurd h (by decide)
    have hparent : name ≠ parentName := by
      rintro rfl
      exact absurd h (by decide)
    cases links <;> simp [walk, walkWith, hnil, hself, hparent, h, Stop.result]

theorem Reaches.walk_eq (h : Reaches tree n p q) (links : Nat) :
    walk tree (links + n) p.place p.names = walk tree links q.place q.names := by
  induction h with
  | refl p => rfl
  | move hstep _ ih => exact (hstep.walk_eq _).trans ih
  | follow hstep _ ih => exact (hstep.walk_eq _).trans ih

theorem StopsWithin.walk_eq (h : StopsWithin tree links p s) :
    walk tree links p.place p.names = s.result := by
  obtain ⟨n, hn, q, hreach, hstop⟩ := h
  rw [← Nat.sub_add_cancel hn, hreach.walk_eq, hstop.walk_eq]

theorem Exceeds.walk_eq (h : Exceeds tree links p) :
    walk tree links p.place p.names = .error .tooManyLinks := by
  obtain ⟨q, r, hreach, hfollow⟩ := h
  rw [← Nat.zero_add links, hreach.walk_eq, hfollow.walk_zero]

/-- A walk gives what the resolution comes to if it stops within the limit. -/
theorem walk_eq_result_iff :
    walk tree links p.place p.names = s.result ↔ StopsWithin tree links p s := by
  refine ⟨fun h => ?_, StopsWithin.walk_eq⟩
  obtain ⟨t, hstop⟩ | hexceeds := stopsWithin_or_exceeds tree links p
  · rwa [← Stop.result_injective (hstop.walk_eq.symm.trans h)]
  · exact absurd (h.symm.trans hexceeds.walk_eq) s.result_ne_tooManyLinks

/-- A walk fails for the links exactly where the resolution exceeds the limit. -/
theorem walk_eq_tooManyLinks_iff :
    walk tree links p.place p.names = .error .tooManyLinks ↔ Exceeds tree links p := by
  refine ⟨fun h => ?_, Exceeds.walk_eq⟩
  obtain ⟨t, hstop⟩ | hexceeds := stopsWithin_or_exceeds tree links p
  · exact absurd (hstop.walk_eq.symm.trans h) t.result_ne_tooManyLinks
  · exact hexceeds

end SierraFootprint.Files
