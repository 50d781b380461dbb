import SierraFootprint.Proofs.Files.Resolution
import Mathlib.Data.Set.Finite.Basic
import Mathlib.Order.WellFounded

/-!
# Resolutions without an end

A resolution that never stops follows ever more links. A tree holds finitely many of them, so that
one of them comes up again within its own resolution; and a link that does keeps the resolution
going.
-/
namespace SierraFootprint.Files

/-- However many links have been followed, there is another one. -/
def Endless (tree : Tree) (p : Position) : Prop :=
  ∀ links, Exceeds tree links p

/-- A name in a directory. -/
structure Site where
  place : Location
  name : Name
  deriving DecidableEq, Repr

/-- The name and others after it are to be looked up. -/
def Site.before (site : Site) (rest : List Name) : Position :=
  ⟨site.place, site.name :: rest⟩

/-- The first site is a link, and in resolving it the other one is looked up. -/
def LeadsTo (tree : Tree) (a b : Site) : Prop :=
  ∃ n rest, Reaches tree (n + 1) (a.before []) (b.before rest)

/-- The resolution looks up a link that leads to itself. -/
def MeetsCycle (tree : Tree) (p : Position) : Prop :=
  ∃ n, ∃ site : Site, ∃ rest, Reaches tree n p (site.before rest) ∧ LeadsTo tree site site

variable {tree : Tree} {p q r : Position} {s : Stop} {place : Location} {links m n : Nat}
  {a b c : Site}

/-! ### Endless resolutions -/

theorem Reaches.exceeds (h : Reaches tree n p q) (hlinks : links < n) : Exceeds tree links p := by
  induction h generalizing links with
  | refl p => cases hlinks
  | move hstep _ ih =>
    obtain ⟨t, u, hreach, hfollow⟩ := ih hlinks
    exact ⟨t, u, .move hstep hreach, hfollow⟩
  | @follow n p q r hstep _ ih =>
    cases links with
    | zero => exact ⟨p, q, .refl p, hstep⟩
    | succ links =>
      obtain ⟨t, u, hreach, hfollow⟩ := ih (Nat.lt_of_succ_lt_succ hlinks)
      exact ⟨t, u, .follow hstep hreach, hfollow⟩

theorem Endless.not_stopsWithin (h : Endless tree p) : ¬ StopsWithin tree links p s :=
  fun hstop => s.result_ne_tooManyLinks (hstop.walk_eq.symm.trans (h links).walk_eq)

theorem Endless.not_stops (h : Endless tree p) : ¬ Stops tree p s :=
  fun hstop => h.not_stopsWithin ⟨0, Nat.le_refl 0, p, .refl p, hstop⟩

theorem endless_or_stops (tree : Tree) (p : Position) :
    Endless tree p ∨ ∃ n q s, Reaches tree n p q ∧ Stops tree q s := by
  by_cases h : ∃ n q s, Reaches tree n p q ∧ Stops tree q s
  · exact .inr h
  · refine .inl fun links => (stopsWithin_or_exceeds tree links p).resolve_left ?_
    rintro ⟨s, n, -, q, hreach, hstop⟩
    exact h ⟨n, q, s, hreach, hstop⟩

theorem Endless.of_reaches (h : Endless tree p) (hreach : Reaches tree n p q) :
    Endless tree q := by
  intro links
  rw [← walk_eq_tooManyLinks_iff, ← hreach.walk_eq]
  exact (h (links + n)).walk_eq

/-! ### Names that come later -/

/-- Names to be looked up after all others. -/
def Position.append (p : Position) (later : List Name) : Position :=
  ⟨p.place, p.names ++ later⟩

theorem Moves.append (h : Moves tree p q) (later : List Name) :
    Moves tree (p.append later) (q.append later) := by
  cases h with
  | stays h => exact .stays h
  | rises => exact .rises
  | enters h => exact .enters h

theorem Follows.append (h : Follows tree p q) (later : List Name) :
    Follows tree (p.append later) (q.append later) := by
  obtain ⟨h⟩ := h
  simp only [Position.append, List.cons_append, List.append_assoc]
  exact .link h

/-- What comes later does not matter as long as there is something else to be looked up. -/
theorem Reaches.append (h : Reaches tree n p q) (later : List Name) :
    Reaches tree n (p.append later) (q.append later) := by
  induction h with
  | refl p => exact .refl _
  | move hstep _ ih => exact .move (hstep.append later) ih
  | follow hstep _ ih => exact .follow (hstep.append later) ih

/-- Only a directory leaves the later names to be looked up. -/
theorem Stops.append (h : Stops tree p s) (later : List Name) :
    (∃ place, p = ⟨place, []⟩) ∨ ∃ s', Stops tree (p.append later) s' := by
  cases h with
  | @directory place => exact .inl ⟨place, rfl⟩
  | file h =>
    cases later with
    | nil => exact .inr ⟨_, .file h⟩
    | cons next later => exact .inr ⟨_, .notDirectory h (List.cons_ne_nil next later)⟩
  | notDirectory h hrest =>
    exact .inr ⟨_, .notDirectory h (List.append_ne_nil_of_left_ne_nil hrest later)⟩
  | missing h => exact .inr ⟨_, .missing h⟩
  | nameTooLong h => exact .inr ⟨_, .nameTooLong h⟩

/-- If no name before them is endless, the later names are. -/
theorem Endless.split {later : List Name} (h : Endless tree (p.append later)) :
    Endless tree p ∨ ∃ n place, Reaches tree n p ⟨place, []⟩ ∧ Endless tree ⟨place, later⟩ := by
  obtain hendless | ⟨n, q, s, hreach, hstop⟩ := endless_or_stops tree p
  · exact .inl hendless
  · have hlater := h.of_reaches (hreach.append later)
    obtain ⟨place, rfl⟩ | ⟨s', hstop'⟩ := hstop.append later
    · exact .inr ⟨n, place, hreach, hlater⟩
    · exact absurd hstop' hlater.not_stops

/-! ### Links that lead to others -/

theorem LeadsTo.trans (h : LeadsTo tree a b) (h' : LeadsTo tree b c) : LeadsTo tree a c := by
  obtain ⟨m, rest, hab⟩ := h
  obtain ⟨n, rest', hbc⟩ := h'
  exact ⟨m + 1 + n, _, hab.trans (hbc.append rest)⟩

/-- The induction is on the names: the first one is endless, or what comes after it. -/
theorem Endless.exists_site {names : List Name} (h : Endless tree ⟨place, names⟩) :
    ∃ n, ∃ site : Site, ∃ rest, Reaches tree n ⟨place, names⟩ (site.before rest) ∧
      Endless tree (site.before []) := by
  induction names generalizing place with
  | nil => exact absurd .directory h.not_stops
  | cons name rest ih =>
    obtain hfirst | ⟨m, next, hreach, hrest⟩ := Endless.split (p := ⟨place, [name]⟩) h
    · exact ⟨0, ⟨place, name⟩, rest, .refl _, hfirst⟩
    · obtain ⟨n, site, more, hreach', hsite⟩ := ih hrest
      exact ⟨m + n, site, more, (hreach.append rest).trans hreach', hsite⟩

/-- An endless name is a link. -/
theorem Endless.exists_follows (h : Endless tree (a.before [])) :
    ∃ q, Follows tree (a.before []) q := by
  obtain ⟨q, hmove⟩ | hfollow | ⟨s, hstop⟩ := moves_or_follows_or_stops tree (a.before [])
  · have hq : q.names = [] := List.length_eq_zero_iff.1 (Nat.lt_one_iff.1 hmove.length_lt)
    have hstop : Stops tree q (.found (.directory q.place)) := by
      obtain ⟨place, names⟩ := q
      obtain rfl := hq
      exact .directory
    exact absurd hstop (h.of_reaches (.move hmove (.refl q))).not_stops
  · exact hfollow
  · exact absurd hstop h.not_stops

theorem Endless.exists_leadsTo (h : Endless tree (a.before [])) :
    ∃ b, LeadsTo tree a b ∧ Endless tree (b.before []) := by
  obtain ⟨q, hfollow⟩ := h.exists_follows
  have hq := h.of_reaches (.follow hfollow (.refl q))
  obtain ⟨n, b, rest, hreach, hb⟩ := hq.exists_site
  exact ⟨b, ⟨n, rest, .follow hfollow hreach⟩, hb⟩

/-! ### Cycles -/

/-- A tree lists only so many links. -/
theorem finite_links (tree : Tree) :
    {site : Site | ∃ q, Follows tree (site.before []) q}.Finite := by
  have hinj : Function.Injective fun site : Site => site.place ++ [site.name] := by
    rintro ⟨place, name⟩ ⟨place', name'⟩ h
    obtain ⟨rfl, hname⟩ := List.append_inj' h rfl
    obtain rfl := List.head_eq_of_cons_eq hname
    rfl
  refine ((tree.entries.map Prod.fst).finite_toSet.preimage hinj.injOn).subset ?_
  rintro ⟨place, name⟩ ⟨q, ⟨h⟩⟩
  have hlookup := h.get?_eq
  rw [Tree.get?, if_neg (by simp)] at hlookup
  obtain ⟨before, after, hentries, -⟩ := List.lookup_eq_some_iff.1 hlookup
  simp [hentries]

/-- If everything in a finite set leads somewhere within the set, something leads to itself. -/
theorem exists_self {α : Type} {S : Set α} {r : α → α → Prop} (hfinite : S.Finite)
    (hne : S.Nonempty) (htrans : ∀ a b c, r a b → r b c → r a c)
    (hnext : ∀ a ∈ S, ∃ b ∈ S, r a b) : ∃ a ∈ S, r a a := by
  by_contra hnone
  have := hfinite.to_subtype
  have : IsTrans S fun b a => r a b := ⟨fun _ _ _ hba hcb => htrans _ _ _ hcb hba⟩
  have : Std.Irrefl fun b a : S => r a b := ⟨fun a ha => hnone ⟨a, a.2, ha⟩⟩
  have hwf := Finite.wellFounded_of_trans_of_irrefl fun b a : S => r a b
  obtain ⟨first, hfirst⟩ := hne
  obtain ⟨last, -, hlast⟩ := hwf.has_min Set.univ ⟨⟨first, hfirst⟩, trivial⟩
  obtain ⟨b, hb, hlead⟩ := hnext last last.2
  exact hlast ⟨b, hb⟩ trivial hlead

/-- The endless links that come up in resolving a link, and the link itself. -/
def endlessFrom (tree : Tree) (site : Site) : Set Site :=
  {a | Endless tree (a.before []) ∧ (a = site ∨ LeadsTo tree site a)}

theorem finite_endlessFrom (tree : Tree) (site : Site) : (endlessFrom tree site).Finite :=
  (finite_links tree).subset fun _ ha => ha.1.exists_follows

theorem exists_leadsTo_mem_endlessFrom (ha : a ∈ endlessFrom tree c) :
    ∃ b ∈ endlessFrom tree c, LeadsTo tree a b := by
  obtain ⟨hendless, hmet⟩ := ha
  obtain ⟨b, hlead, hb⟩ := hendless.exists_leadsTo
  refine ⟨b, ⟨hb, .inr ?_⟩, hlead⟩
  obtain rfl | hmet := hmet
  · exact hlead
  · exact hmet.trans hlead

theorem Endless.meetsCycle (h : Endless tree p) : MeetsCycle tree p := by
  obtain ⟨n, site, rest, hreach, hsite⟩ := h.exists_site
  obtain ⟨a, ⟨-, hmet⟩, hcycle⟩ := exists_self (r := LeadsTo tree)
    (finite_endlessFrom tree site) ⟨site, hsite, .inl rfl⟩ (fun _ _ _ => LeadsTo.trans)
    fun _ => exists_leadsTo_mem_endlessFrom
  -- The resolution comes to the cycle at once or by way of the first endless link.
  obtain rfl | ⟨m, more, hlead⟩ := hmet
  · exact ⟨n, a, rest, hreach, hcycle⟩
  · exact ⟨n + (m + 1), a, _, hreach.trans (hlead.append rest), hcycle⟩

/-- A link that leads to itself does so any number of times. -/
theorem exists_reaches_of_cycle (h : LeadsTo tree a a) (links : Nat) :
    ∃ n rest, links ≤ n ∧ Reaches tree n (a.before []) (a.before rest) := by
  induction links with
  | zero => exact ⟨0, [], Nat.le_refl 0, .refl _⟩
  | succ links ih =>
    obtain ⟨n, rest, hn, hreach⟩ := ih
    obtain ⟨m, more, hround⟩ := h
    exact ⟨n + (m + 1), _, by omega, hreach.trans (hround.append rest)⟩

theorem MeetsCycle.endless (h : MeetsCycle tree p) : Endless tree p := by
  intro links
  obtain ⟨n, a, rest, hreach, hcycle⟩ := h
  obtain ⟨m, more, hm, hrounds⟩ := exists_reaches_of_cycle hcycle (links + 1)
  exact (hreach.trans (hrounds.append rest)).exceeds (by omega)

/-- Where a link is one too many, there is no end to them or the resolution would stop later. -/
theorem meetsCycle_or_stops_of_exceeds (h : Exceeds tree links p) :
    MeetsCycle tree p ∨ ∃ n > links, ∃ q s, Reaches tree n p q ∧ Stops tree q s := by
  obtain hendless | ⟨n, q, s, hreach, hstop⟩ := endless_or_stops tree p
  · exact .inl hendless.meetsCycle
  · refine .inr ⟨n, ?_, q, s, hreach, hstop⟩
    by_contra hn
    have hwithin : StopsWithin tree links p s := ⟨n, Nat.not_lt.1 hn, q, hreach, hstop⟩
    exact s.result_ne_tooManyLinks (hwithin.walk_eq.symm.trans h.walk_eq)

end SierraFootprint.Files
