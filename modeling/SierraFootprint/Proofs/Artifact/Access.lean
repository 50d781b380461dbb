import SierraFootprint.Proofs.Artifact.Content
import SierraFootprint.Proofs.Files.Cycles
import SierraFootprint.Proofs.Files.Names

/-!
# What a path comes to

The artifact at a path is missing where the resolution stops at a name that does not exist. Every
other obstacle on the way to a text is an error of reading, and only then the text decides.
-/
namespace SierraFootprint

open Files

namespace Artifact

/-- A text is neither missing nor unreadable. -/
theorem problem_of_ofText {text : List Char} {problem : ArtifactProblem}
    (h : ofText text = .error problem) : problem ≠ .notFound ∧ ∀ e, problem ≠ .reading e := by
  unfold ofText ofJson at h
  split at h
  · split at h
    · cases h
      simp
    · split at h <;> cases h
      simp
  · cases h
    simp

theorem problem_of_located {path : Bytes} {text : List Char} {e : ArtifactError}
    (h : located path (ofText text) = .error e) :
    e.problem ≠ .notFound ∧ ∀ s, e.problem ≠ .reading s := by
  unfold located at h
  split at h
  · cases h
  next problem hproblem =>
    cases h
    exact problem_of_ofText hproblem

end Artifact

namespace Files

/-- A path that can be handed to the system and is resolved there. -/
structure IsResolved (path : Bytes) : Prop where
  ne_nil : path ≠ []
  zero_not_mem : 0 ∉ path
  length_lt : path.length < pathBound

/-- What is read where a resolution stops. -/
def Stop.content : Stop → Except SystemError Bytes
  | missing => .error (.os .noSuchFile)
  | notDirectory => .error (.os .notDirectory)
  | nameTooLong => .error (.os .nameTooLong)
  | found (.directory _) => .error (.os .isDirectory)
  | found (.file _ f) => .ok f.content

end Files

namespace World

/-- Where the resolution of a path begins. -/
def start (w : World) (path : Bytes) : Files.Position :=
  ⟨origin w.workingDirectory path, names path⟩

/-- The path is resolved and the resolution stops, with no more links followed than the system
allows. -/
structure ComesTo (w : World) (path : Bytes) (s : Stop) : Prop where
  isResolved : IsResolved path
  stops : StopsWithin w.tree linkLimit (w.start path) s

/-- The path is empty or comes to a name that does not exist. -/
inductive IsMissing (w : World) (path : Bytes) : Prop
  | empty (h : path = [])
  | name (h : w.ComesTo path .missing)

/-- The path is refused as it is, or it comes to something that no text can be read from. -/
inductive IsUnreadable (w : World) (path : Bytes) : Prop
  | zero (h : 0 ∈ path)
  | pathTooLong (h : pathBound ≤ path.length)
  | tooManyLinks (h : IsResolved path) (hlinks : Exceeds w.tree linkLimit (w.start path))
  | notDirectory (h : w.ComesTo path .notDirectory)
  | nameTooLong (h : w.ComesTo path .nameTooLong)
  | directory {place : Location} (h : w.ComesTo path (.found (.directory place)))
  | notText {place : Location} {f : File} (h : w.ComesTo path (.found (.file place f)))
      (hcontent : ¬ Utf8.WellFormed f.content)

variable {w : World} {path : Bytes} {s : Stop}

/-! ### Reading -/

theorem find_of_isResolved (h : IsResolved path) :
    w.find path = walk w.tree linkLimit (w.start path).place (w.start path).names := by
  rw [find, Tree.find, if_neg h.ne_nil, if_neg (Nat.not_le.2 h.length_lt)]
  rfl

theorem read_of_zero_mem (h : 0 ∈ path) : w.read path = .error .nulInPath := by
  simp [read, Tree.read, h]

theorem read_of_find (h : 0 ∉ path) {e : OsError} (hfind : w.find path = .error e) :
    w.read path = .error (.os e) := by
  rw [find] at hfind
  simp [read, Tree.read, h, hfind]

theorem ComesTo.read_eq (h : w.ComesTo path s) : w.read path = s.content := by
  have hfind : w.tree.find w.workingDirectory path = s.result :=
    (find_of_isResolved h.isResolved).trans h.stops.walk_eq
  have hzero := h.isResolved.zero_not_mem
  cases s with
  | found what => cases what <;> simp [read, Tree.read, hzero, hfind, Stop.result, Stop.content]
  | _ => simp [read, Tree.read, hzero, hfind, Stop.result, Stop.content]

theorem ComesTo.read_file {place : Location} {f : File}
    (h : w.ComesTo path (.found (.file place f))) : w.read path = .ok f.content :=
  h.read_eq

theorem read_of_exceeds (h : IsResolved path)
    (hlinks : Exceeds w.tree linkLimit (w.start path)) :
    w.read path = .error (.os .tooManyLinks) :=
  read_of_find h.zero_not_mem ((find_of_isResolved h).trans hlinks.walk_eq)

/-! ### Artifacts -/

theorem path_of_artifact {e : ArtifactError} (h : w.artifact path = .error e) : e.path = path := by
  unfold artifact Artifact.located at h
  split at h <;> cases h
  rfl

theorem artifact_of_read {e : SystemError} (h : w.read path = .error e)
    (hother : e ≠ .os .noSuchFile) : w.artifact path = .error ⟨path, .reading e⟩ := by
  rw [artifact, h, Artifact.ofRead]
  · rfl
  · rintro rfl
    exact hother rfl

theorem artifact_of_isMissing (h : w.IsMissing path) :
    w.artifact path = .error ⟨path, .notFound⟩ := by
  have hread : w.read path = .error (.os .noSuchFile) := by
    cases h with
    | empty h =>
      subst h
      rfl
    | name h => exact h.read_eq
  rw [artifact, hread]
  rfl

theorem artifact_of_isUnreadable (h : w.IsUnreadable path) :
    ∃ e, w.artifact path = .error ⟨path, .reading e⟩ := by
  cases h with
  | zero h => exact ⟨_, artifact_of_read (read_of_zero_mem h) (by simp)⟩
  | pathTooLong h =>
    by_cases hzero : 0 ∈ path
    · exact ⟨_, artifact_of_read (read_of_zero_mem hzero) (by simp)⟩
    · have hfind : w.find path = .error .nameTooLong := Tree.find_of_tooLong h w.tree w.workingDirectory
      exact ⟨_, artifact_of_read (read_of_find hzero hfind) (by simp)⟩
  | tooManyLinks h hlinks => exact ⟨_, artifact_of_read (read_of_exceeds h hlinks) (by simp)⟩
  | notDirectory h | nameTooLong h | directory h =>
    exact ⟨_, artifact_of_read h.read_eq (by simp)⟩
  | @notText place f h hcontent =>
    refine ⟨.notUtf8, ?_⟩
    rw [artifact_eq h.read_file, Artifact.ofBytes_illFormed hcontent]
    rfl

theorem artifact_of_text {place : Location} {f : File} {text : List Char}
    (h : w.ComesTo path (.found (.file place f))) (hcontent : f.content = Utf8.encode text) :
    w.artifact path = Artifact.located path (Artifact.ofText text) := by
  rw [artifact_eq h.read_file, hcontent, Artifact.ofBytes_encode]

theorem isMissing_or_isUnreadable_or_text (w : World) (path : Bytes) :
    w.IsMissing path ∨ w.IsUnreadable path ∨ ∃ place f text,
      w.ComesTo path (.found (.file place f)) ∧ f.content = Utf8.encode text := by
  by_cases hempty : path = []
  · exact .inl (.empty hempty)
  by_cases hzero : 0 ∈ path
  · exact .inr (.inl (.zero hzero))
  by_cases hlong : pathBound ≤ path.length
  · exact .inr (.inl (.pathTooLong hlong))
  have hresolved : IsResolved path := ⟨hempty, hzero, Nat.not_le.1 hlong⟩
  obtain ⟨s, hstop⟩ | hlinks := stopsWithin_or_exceeds w.tree linkLimit (w.start path)
  · have hcomes : w.ComesTo path s := ⟨hresolved, hstop⟩
    cases s with
    | missing => exact .inl (.name hcomes)
    | notDirectory => exact .inr (.inl (.notDirectory hcomes))
    | nameTooLong => exact .inr (.inl (.nameTooLong hcomes))
    | found what =>
      cases what with
      | directory place => exact .inr (.inl (.directory hcomes))
      | file place f =>
        by_cases hcontent : Utf8.WellFormed f.content
        · obtain ⟨text, htext⟩ := hcontent
          exact .inr (.inr ⟨place, f, text, hcomes, htext⟩)
        · exact .inr (.inl (.notText hcomes hcontent))
  · exact .inr (.inl (.tooManyLinks hresolved hlinks))

/-- A link that leads to itself keeps everything behind it from being read. -/
theorem isUnreadable_of_meetsCycle (h : MeetsCycle w.tree (w.start path)) :
    w.IsUnreadable path := by
  -- The resolution of an empty path would stop at once.
  have hne : path ≠ [] := by
    rintro rfl
    cases (h.endless 0).walk_eq
  by_cases hzero : 0 ∈ path
  · exact .zero hzero
  by_cases hlong : pathBound ≤ path.length
  · exact .pathTooLong hlong
  exact .tooManyLinks ⟨hne, hzero, Nat.not_le.1 hlong⟩ (h.endless linkLimit)

/-- An artifact is missing exactly if its path is empty or the resolution stops at a name that does
not exist. It cannot be read exactly if the path holds a byte zero or is too long, or if the
resolution follows too many links, or stops at a file used as a directory, a name that is too long,
a directory, or a file that is no UTF-8 text. In every other case it stops at a file with a text,
which decides. Every error is about the path as it is. There are always too many links where one of
them leads to itself; anywhere else the resolution would stop after more links than are allowed. -/
theorem artifact_of_path (w : World) (path : Bytes) :
    ((∃ e, w.artifact path = .error e ∧ e.problem = .notFound) ↔ w.IsMissing path) ∧
    ((∃ e s, w.artifact path = .error e ∧ e.problem = .reading s) ↔ w.IsUnreadable path) ∧
    (w.IsMissing path ∨ w.IsUnreadable path ∨ ∃ place f text,
      w.ComesTo path (.found (.file place f)) ∧ f.content = Utf8.encode text ∧
        w.artifact path = Artifact.located path (Artifact.ofText text)) ∧
    (∀ e, w.artifact path = .error e → e.path = path) ∧
    (MeetsCycle w.tree (w.start path) → w.IsUnreadable path) ∧
    (Exceeds w.tree linkLimit (w.start path) → MeetsCycle w.tree (w.start path) ∨
      ∃ n > linkLimit, ∃ q s, Reaches w.tree n (w.start path) q ∧ Stops w.tree q s) := by
  have hcases := isMissing_or_isUnreadable_or_text w path
  refine ⟨⟨?_, fun h => ⟨_, artifact_of_isMissing h, rfl⟩⟩, ⟨?_, fun h => ?_⟩, ?_,
    fun _ => path_of_artifact, isUnreadable_of_meetsCycle, meetsCycle_or_stops_of_exceeds⟩
  · rintro ⟨e, he, hproblem⟩
    obtain hmissing | hunreadable | ⟨place, f, text, hcomes, hcontent⟩ := hcases
    · exact hmissing
    · obtain ⟨s, hs⟩ := artifact_of_isUnreadable hunreadable
      cases hs.symm.trans he
      cases hproblem
    · rw [artifact_of_text hcomes hcontent] at he
      exact absurd hproblem (Artifact.problem_of_located he).1
  · rintro ⟨e, s, he, hproblem⟩
    obtain hmissing | hunreadable | ⟨place, f, text, hcomes, hcontent⟩ := hcases
    · cases (artifact_of_isMissing hmissing).symm.trans he
      cases hproblem
    · exact hunreadable
    · rw [artifact_of_text hcomes hcontent] at he
      exact absurd hproblem ((Artifact.problem_of_located he).2 s)
  · obtain ⟨s, hs⟩ := artifact_of_isUnreadable h
    exact ⟨_, s, hs, rfl⟩
  · obtain hmissing | hunreadable | ⟨place, f, text, hcomes, hcontent⟩ := hcases
    · exact .inl hmissing
    · exact .inr (.inl hunreadable)
    · exact .inr (.inr ⟨place, f, text, hcomes, hcontent, artifact_of_text hcomes hcontent⟩)

/-! ### Texts out of reach -/

/-- A name of one letter for each number. -/
def chainName (k : Nat) : Name := [UInt8.ofNat (0x30 + k)]

def chainText : String := "\x7b\"sierra_program\":[\"0x1\"]\x7d"

def chainFile : File := ⟨Bytes.ofString chainText, .notExecutable⟩

/-- A number of links, each of which leads to the one before it, and the first one to a file. -/
def chained (links : Nat) : World :=
  ⟨⟨([chainName 0], .file chainFile) ::
    (List.range links).map fun k => ([chainName (k + 1)], .link (chainName k))⟩, [], none, none⟩

/-- The name of the file after a number of names that lead nowhere else. -/
def roundabout : Nat → Bytes
  | 0 => chainName 0
  | n + 1 => selfName ++ slash :: roundabout n

theorem names_roundabout (n : Nat) :
    names (roundabout n) = List.replicate n selfName ++ [chainName 0] := by
  induction n with
  | zero => rfl
  | succ n ih =>
    rw [roundabout, names_append, ih]
    rfl

theorem length_roundabout (n : Nat) : (roundabout n).length = 2 * n + 1 := by
  induction n with
  | zero => rfl
  | succ n ih =>
    have hself : selfName.length = 1 := rfl
    rw [roundabout, List.length_append, List.length_cons, ih, hself]
    omega

theorem zero_not_mem_roundabout (n : Nat) : 0 ∉ roundabout n := by
  induction n with
  | zero => decide
  | succ n ih =>
    have hpart : (0 : UInt8) ∉ selfName ∧ 0 ≠ slash := by decide
    simp [roundabout, hpart, ih]

theorem reaches_replicate_self (tree : Tree) (place : Location) (rest : List Name) (n : Nat) :
    Reaches tree 0 ⟨place, List.replicate n selfName ++ rest⟩ ⟨place, rest⟩ := by
  induction n with
  | zero => exact .refl _
  | succ n ih => exact .move (.stays (.inr rfl)) ih

/-- However many useless names there are, the resolution stops at the file. -/
theorem stopsWithin_roundabout (n : Nat) :
    StopsWithin (chained 41).tree 0 ((chained 41).start (roundabout n))
      (.found (.file [chainName 0] chainFile)) := by
  have hstart : (chained 41).start (roundabout n) =
      ⟨[], List.replicate n selfName ++ [chainName 0]⟩ := by
    simp [start, origin, names_roundabout, chained]
  have hlooks : LooksUp (chained 41).tree [] (chainName 0) (some (.file chainFile)) :=
    ⟨by decide, by decide, by decide, by decide, rfl⟩
  rw [hstart]
  exact ⟨0, Nat.le_refl 0, _, reaches_replicate_self _ [] [chainName 0] n, .file hlooks⟩

/-- A text at the end of 41 links and none that leads to itself cannot be read, nor one whose path
has 4097 bytes and only short names. -/
theorem artifact_out_of_reach :
    (StopsWithin (chained 41).tree 41 ((chained 41).start (chainName 41))
        (.found (.file [chainName 0] chainFile)) ∧
      ¬ MeetsCycle (chained 41).tree ((chained 41).start (chainName 41)) ∧
      ∃ e, (chained 41).artifact (chainName 41) = .error ⟨chainName 41, .reading e⟩) ∧
    (StopsWithin (chained 41).tree 0 ((chained 41).start (roundabout 2048))
        (.found (.file [chainName 0] chainFile)) ∧
      0 ∉ roundabout 2048 ∧
      ∃ e, (chained 41).artifact (roundabout 2048) = .error ⟨roundabout 2048, .reading e⟩) ∧
    chainFile.content = Utf8.encode chainText.toList ∧
    Artifact.ofText chainText.toList = .ok ⟨⟨["0x1"]⟩⟩ := by
  have hchain : StopsWithin (chained 41).tree 41 ((chained 41).start (chainName 41))
      (.found (.file [chainName 0] chainFile)) := by
    rw [← walk_eq_result_iff]
    decide +kernel
  have hlong : pathBound ≤ (roundabout 2048).length := by
    rw [length_roundabout]
    decide
  exact ⟨⟨hchain, fun h => h.endless.not_stopsWithin hchain, .os .tooManyLinks, rfl⟩,
    ⟨stopsWithin_roundabout 2048, zero_not_mem_roundabout 2048,
      artifact_of_isUnreadable (.pathTooLong hlong)⟩, rfl, rfl⟩

end World
end SierraFootprint
