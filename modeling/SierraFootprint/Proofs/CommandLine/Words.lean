import SierraFootprint.CommandLine.Arguments
import SierraFootprint.Proofs.Program.ModeNames
import SierraFootprint.Proofs.Text.WellFormed

/-!
# Commands word by word

A word of a command is a path or an option with its value, which stands in an argument of its own or
behind an equals sign. Reading the arguments of some words collects the values of the words one
after the other, although a value is only looked at when the next word begins.
-/
namespace SierraFootprint.CommandLine

/-! ### Words -/

/-- Where the value of an option stands. -/
inductive Form
  | apart
  | joined
  deriving DecidableEq, Repr

/-- A part of a command with its value. -/
inductive Word
  | path (value : Bytes)
  | setting (o : Setting) (form : Form) (value : Bytes)
  deriving DecidableEq, Repr

/-- The argument that starts an option. -/
def Setting.flag (o : Setting) : Bytes :=
  Bytes.ofString ("--" ++ o.name)

namespace Word

def arguments : Word → List Bytes
  | path value => [value]
  | setting o .apart value => [o.flag, value]
  | setting o .joined value => [o.flag ++ equals :: value]

def part : Word → Part
  | path _ => .path
  | setting o _ _ => .setting o

end Word

/-- A text that is not taken for an option. -/
def IsPlain (value : Bytes) : Prop :=
  value ≠ [] ∧ value.head? ≠ some dash

instance (value : Bytes) : Decidable (IsPlain value) :=
  inferInstanceAs (Decidable (_ ∧ _))

theorem ofBytes_plain {value : Bytes} (h : IsPlain value) : Argument.ofBytes value = .plain := by
  obtain ⟨hne, hdash⟩ := h
  match value with
  | first :: rest =>
    have hfirst : first ≠ dash := by simpa using hdash
    simp [Argument.ofBytes, hfirst]

theorem ofBytes_flag (o : Setting) : Argument.ofBytes o.flag = .setting o none := by
  cases o <;> decide

theorem splitValue_append {name : Bytes} (h : equals ∉ name) (value : Bytes) :
    splitValue (name ++ equals :: value) = (name, some value) := by
  have hname : ∀ b ∈ name, decide (b ≠ equals) = true :=
    fun b hb => decide_eq_true (ne_of_mem_of_not_mem hb h)
  rw [splitValue, List.dropWhile_append_of_pos hname, List.takeWhile_append_of_pos hname]
  simp

theorem ofBytes_joined (o : Setting) (value : Bytes) :
    Argument.ofBytes (o.flag ++ equals :: value) = .setting o (some value) := by
  have hflag : o.flag = dash :: dash :: Bytes.ofString o.name := by cases o <;> decide
  have hequals : equals ∉ Bytes.ofString o.name := by cases o <;> decide
  have hlong : Argument.ofLong (Bytes.ofString o.name ++ equals :: value) =
      .setting o (some value) := by
    rw [Argument.ofLong, splitValue_append hequals]
    cases o <;> rfl
  rw [hflag, List.cons_append, List.cons_append]
  simpa [Argument.ofBytes] using hlong

/-! ### What a word adds -/

/-- A mode name that is accepted, or a text that could be one. -/
def IsModeValue (value : Bytes) : Prop :=
  ∃ name, value = Bytes.ofString name ∧
    ((∃ mode, StripMode.ofName name = .ok mode) ∨ name ≠ "" ∧ name.toList.head? ≠ some '-')

/-- What may stand as the value of a word. -/
def Word.IsValid : Word → Prop
  | .path value => IsPlain value
  | .setting .jq .apart value => IsPlain value
  | .setting .jq .joined value => value ≠ []
  | .setting .stripMode _ value => IsModeValue value

/-- The choices with those of one more word, if that is accepted. -/
def Word.addTo (c : Choices) : Word → Option Choices
  | .path value => if c.path.isSome then none else (c.setPath value).toOption
  | .setting o _ value => (c.set o value).toOption

/-- The choices with those of some words. -/
def gather (c : Choices) (words : List Word) : Option Choices :=
  words.foldlM Word.addTo c

@[simp] theorem gather_nil (c : Choices) : gather c [] = some c := rfl

theorem gather_cons (c : Choices) (word : Word) (rest : List Word) :
    gather c (word :: rest) = (word.addTo c).bind (gather · rest) := rfl

/-! ### Names that are no options -/

/-- Only the dash is encoded with the byte of a dash in front. -/
theorem isPlain_ofString {name : String} (hne : name ≠ "")
    (hdash : name.toList.head? ≠ some '-') : IsPlain (Bytes.ofString name) := by
  unfold Bytes.ofString
  cases hname : name.toList with
  | nil => exact absurd (String.toList_eq_nil_iff.1 hname) hne
  | cons c rest =>
    rw [hname] at hdash
    rw [Utf8.encode_cons]
    have hc := Utf8.sequence_encodeChar c
    generalize String.utf8EncodeChar c = bytes at hc
    have hd : dash.toNat = 45 := rfl
    cases hc with
    | @one a ha =>
      refine ⟨by simp, ?_⟩
      rintro he
      obtain rfl : a = dash := by simpa using he
      exact hdash rfl
    | two | three | four =>
      refine ⟨by simp, ?_⟩
      intro he
      obtain rfl := Option.some.inj he
      omega

/-- A name of a mode starts with a letter, in whatever case it is written. -/
theorem isPlain_of_ofName {name : String} {mode : StripMode}
    (h : StripMode.ofName name = .ok mode) : IsPlain (Bytes.ofString name) := by
  have hlower := StripMode.ofName_eq_ok_iff.1 h
  rw [Text.lowercase_eq] at hlower
  apply isPlain_ofString
  · rintro rfl
    cases mode <;> simp [StripMode.name, Text.lowerFrom] at hlower
  · intro hdash
    cases hname : name.toList with
    | nil => simp [hname] at hdash
    | cons c rest =>
      obtain rfl : c = '-' := by simpa [hname] using hdash
      have hkept : Text.lowerIn [] '-' rest = ['-'] := by
        rw [Text.lowerIn, if_neg (by decide), if_neg (by decide)]
        decide
      rw [hname, Text.lowerFrom, hkept] at hlower
      cases mode <;> simp [StripMode.name] at hlower

theorem IsModeValue.isPlain {value : Bytes} (h : IsModeValue value) : IsPlain value := by
  obtain ⟨name, rfl, ⟨mode, hmode⟩ | ⟨hne, hdash⟩⟩ := h
  · exact isPlain_of_ofName hmode
  · exact isPlain_ofString hne hdash

theorem Word.IsValid.isPlain {o : Setting} {value : Bytes}
    (h : (setting o .apart value).IsValid) : IsPlain value := by
  cases o with
  | jq => exact h
  | stripMode => exact IsModeValue.isPlain h

/-! ### Reading words -/

theorem Choices.set_eq_ok_iff {c c' : Choices} {o : Setting} {value : Bytes} :
    c.set o value = .ok c' ↔
      o = .jq ∧ c.jq = .none ∧ value ≠ [] ∧ c' = { c with jq := some value } ∨
        o = .stripMode ∧ c.mode = .none ∧
          ∃ mode, readMode value = .ok mode ∧ c' = { c with mode := some mode } := by
  cases o with
  | jq =>
    cases hjq : c.jq <;> by_cases hv : value = [] <;> simp [set, has, hjq, hv, eq_comm]
  | stripMode =>
    cases hmode : c.mode <;> cases hread : readMode value <;>
      simp [set, has, hmode, hread, eq_comm]

namespace Progress

/-- The choices with the value that has not been looked at, if that is accepted. -/
def total (p : Progress) : Option Choices :=
  p.settle.toOption.map (·.choices)

/-- No option waits for its value. -/
def IsReady (p : Progress) : Prop :=
  ∀ o, p.pending ≠ some (.setting o none)

theorem settle_cases (p : Progress) :
    (∃ e, p.settle = .error e) ∧ p.total = none ∨
      ∃ q, p.settle = .ok q ∧ q.pending = none ∧ p.total = some q.choices := by
  unfold total settle
  cases hp : p.pending with
  | none => exact .inr ⟨p, rfl, hp, rfl⟩
  | some part =>
    simp only [take]
    cases accept p.choices part with
    | error e => exact .inl ⟨⟨e, rfl⟩, rfl⟩
    | ok c => exact .inr ⟨_, rfl, rfl, rfl⟩

/-- A path counts before it has been looked at. -/
theorem hasPath_of_settle {p q : Progress} (h : p.settle = .ok q) :
    p.hasPath = q.choices.path.isSome := by
  unfold settle at h
  unfold hasPath
  cases hp : p.pending with
  | none =>
    obtain rfl : p = q := by simpa [hp] using h
    rfl
  | some part =>
    simp only [hp, take] at h
    cases hpart : accept p.choices part with
    | error e => simp [hpart] at h
    | ok c =>
      obtain rfl : ⟨c, usedWith p.used part, none⟩ = q := by simpa [hpart] using h
      cases part with
      | path value =>
        simp only [accept, Choices.setPath] at hpart
        split_ifs at hpart
        cases hpart
        rfl
      | setting o value =>
        cases value with
        | none => cases hpart
        | some value =>
          obtain ⟨-, -, -, rfl⟩ | ⟨-, -, mode, -, rfl⟩ := Choices.set_eq_ok_iff.1 hpart <;> rfl

theorem total_hold (p : Progress) (part : Pending) :
    (p.hold part).total = (accept p.choices part).toOption := by
  simp only [total, settle, hold, take]
  cases accept p.choices part <;> rfl

theorem read_plain {a : Bytes} (ha : Argument.ofBytes a = .plain) (p : Progress)
    (rest : List Bytes) : p.read (a :: rest) = (p.addPlain a).bind (read · rest) := by
  rw [read, ha]
  rfl

theorem read_setting {a : Bytes} {o : Setting} {value : Option Bytes}
    (ha : Argument.ofBytes a = .setting o value) (p : Progress) (rest : List Bytes) :
    p.read (a :: rest) = (p.addSetting o value).bind (read · rest) := by
  rw [read, ha]
  rfl

/-- Reading some arguments either fails whatever follows, or goes on with the choices `total`. A
value that is only looked at later makes the reader fail later. -/
def ReadsTo (p : Progress) (arguments : List Bytes) (total : Option Choices) : Prop :=
  (∃ e, ∀ rest, p.read (arguments ++ rest) = .error e) ∧ total = none ∨
    ∃ q : Progress, (∀ rest, p.read (arguments ++ rest) = q.read rest) ∧ q.IsReady ∧
      q.total = total

theorem readsTo_path {p : Progress} (hp : p.IsReady) {value : Bytes} (hvalue : IsPlain value) :
    p.ReadsTo [value] (p.total.bind (Word.path value).addTo) := by
  have hplain : p.addPlain value = p.addPath value := by
    unfold addPlain
    split
    next o hpending => exact absurd hpending (hp o)
    next => rfl
  have hread : ∀ rest, p.read ([value] ++ rest) = (p.addPath value).bind (read · rest) :=
    fun rest => by rw [List.singleton_append, read_plain (ofBytes_plain hvalue), hplain]
  obtain ⟨⟨e, he⟩, htotal⟩ | ⟨q, hq, -, htotal⟩ := p.settle_cases
  · obtain ⟨e', he'⟩ : ∃ e', p.addPath value = .error e' := by
      unfold addPath
      rw [he]
      split_ifs
      · exact ⟨_, rfl⟩
      · exact ⟨_, rfl⟩
    exact .inl ⟨⟨e', fun rest => by rw [hread, he']; rfl⟩, by rw [htotal]; rfl⟩
  · rw [htotal, Option.bind_some, Word.addTo, ← hasPath_of_settle hq]
    by_cases hpath : p.hasPath = true
    · have herror : p.addPath value = .error (.extraPath value) := if_pos hpath
      exact .inl ⟨⟨_, fun rest => by rw [hread, herror]; rfl⟩, if_pos hpath⟩
    · have hok : p.addPath value = .ok (q.hold (.path value)) := by
        rw [addPath, if_neg hpath, hq]
        rfl
      refine .inr ⟨q.hold (.path value), fun rest => by rw [hread, hok]; rfl, ?_, ?_⟩
      · intro o
        simp [hold]
      · rw [total_hold, if_neg hpath]
        rfl

theorem readsTo_apart {p : Progress} {o : Setting} {value : Bytes} (hvalue : IsPlain value) :
    p.ReadsTo [o.flag, value] (p.total.bind (Word.setting o .apart value).addTo) := by
  have hread : ∀ rest, p.read ([o.flag, value] ++ rest) =
      (p.addSetting o none).bind (read · (value :: rest)) :=
    fun rest => read_setting (ofBytes_flag o) p (value :: rest)
  obtain ⟨⟨e, he⟩, htotal⟩ | ⟨q, hq, -, htotal⟩ := p.settle_cases
  · have herror : p.addSetting o none = .error e := by
      rw [addSetting, he]
      rfl
    exact .inl ⟨⟨e, fun rest => by rw [hread, herror]; rfl⟩, by rw [htotal]; rfl⟩
  · have hok : p.addSetting o none = .ok (q.hold (.setting o none)) := by
      rw [addSetting, hq]
      rfl
    refine .inr ⟨q.hold (.setting o (some value)), fun rest => ?_, ?_, ?_⟩
    · rw [hread, hok]
      exact read_plain (ofBytes_plain hvalue) _ rest
    · intro o'
      simp [hold]
    · rw [total_hold, htotal]
      rfl

theorem readsTo_joined (p : Progress) (o : Setting) (value : Bytes) :
    p.ReadsTo [o.flag ++ equals :: value] (p.total.bind (Word.setting o .joined value).addTo) := by
  have hread : ∀ rest, p.read ([o.flag ++ equals :: value] ++ rest) =
      (p.addSetting o (some value)).bind (read · rest) :=
    fun rest => read_setting (ofBytes_joined o value) p rest
  obtain ⟨⟨e, he⟩, htotal⟩ | ⟨q, hq, -, htotal⟩ := p.settle_cases
  · have herror : p.addSetting o (some value) = .error e := by
      rw [addSetting, he]
      rfl
    exact .inl ⟨⟨e, fun rest => by rw [hread, herror]; rfl⟩, by rw [htotal]; rfl⟩
  · have htake : p.addSetting o (some value) = q.take (.setting o (some value)) := by
      rw [addSetting, hq]
      rfl
    rw [htotal, Option.bind_some, Word.addTo]
    cases hset : q.choices.set o value with
    | error e =>
      have herror : q.take (.setting o (some value)) = .error e := by
        rw [take, accept, hset]
      exact .inl ⟨⟨e, fun rest => by rw [hread, htake, herror]; rfl⟩, rfl⟩
    | ok c =>
      have hok : q.take (.setting o (some value)) =
          .ok ⟨c, usedWith q.used (.setting o (some value)), none⟩ := by
        rw [take, accept, hset]
      refine .inr ⟨_, fun rest => by rw [hread, htake, hok]; rfl, ?_, rfl⟩
      intro o'
      simp

theorem readsTo_word {word : Word} (hword : word.IsValid) {p : Progress} (hp : p.IsReady) :
    p.ReadsTo word.arguments (p.total.bind word.addTo) := by
  cases word with
  | path value => exact readsTo_path hp hword
  | setting o form value =>
    cases form with
    | apart => exact readsTo_apart hword.isPlain
    | joined => exact readsTo_joined p o value

/-- Reading the arguments of some words gathers the words. -/
theorem read_words {words : List Word} (hwords : ∀ word ∈ words, word.IsValid) {p : Progress}
    (hp : p.IsReady) : (p.read (words.flatMap Word.arguments)).toOption =
      (p.total.bind (gather · words)).map .report := by
  induction words generalizing p with
  | nil =>
    rw [List.flatMap_nil, read, finish]
    simp only [total]
    cases p.settle <;> rfl
  | cons word rest ih =>
    have hgather : p.total.bind (gather · (word :: rest)) =
        (p.total.bind word.addTo).bind (gather · rest) := by
      simp [gather_cons, Option.bind_assoc]
    have hword := hwords word (by simp)
    have hrest : ∀ w ∈ rest, w.IsValid := fun w hw => hwords w (List.mem_cons_of_mem word hw)
    rw [List.flatMap_cons, hgather]
    obtain ⟨⟨e, he⟩, hnone⟩ | ⟨q, hq, hready, htotal⟩ := readsTo_word hword hp
    · rw [he, hnone]
      rfl
    · rw [hq, ih hrest hready, htotal]

end Progress

/-- The words are gathered from no choices at all. -/
theorem toOption_read {words : List Word} (hwords : ∀ word ∈ words, word.IsValid) :
    (read (words.flatMap Word.arguments)).toOption =
      (gather .none words).map .report :=
  Progress.read_words hwords (fun _ => by simp [Progress.start])

end SierraFootprint.CommandLine
