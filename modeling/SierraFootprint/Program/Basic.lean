import SierraFootprint.Text.Lowercase

/-!
# Sierra programs

A program is a sequence of felts, each written as a hexadecimal token. Two modes take the marker `0x`
off a token: one deletes it wherever it stands, the other deletes one at the front and accepts a
capital X there. Two characters of a stripped token make one byte, and a character left over is
dropped.
-/
namespace SierraFootprint

/-! ### Stripping a token -/

/-- Which markers are deleted from a token. -/
inductive StripMode
  /-- Every `0x`, wherever it stands. -/
  | global
  /-- One `0x` or `0X` at the front. -/
  | leading
  deriving DecidableEq, Repr

namespace StripMode

/-- The two characters in front of the digits of a felt. -/
def marker : String := "0x"

/-- The mode used where none is asked for. -/
def default : StripMode := .global

instance : Inhabited StripMode := ⟨default⟩

/-- Deletes every marker in one pass from the left. -/
def deleteMarkers : List Char → List Char
  | [] => []
  | [c] => [c]
  | c :: d :: rest =>
    if c = '0' ∧ d = 'x' then deleteMarkers rest else c :: deleteMarkers (d :: rest)

/-- `deleteMarkers` after the characters in `kept`, which come latest first. -/
def deleteMarkersAfter (kept : List Char) : List Char → List Char
  | [] => kept.reverse
  | [c] => (c :: kept).reverse
  | c :: d :: rest =>
    if c = '0' ∧ d = 'x' then deleteMarkersAfter kept rest
    else deleteMarkersAfter (c :: kept) (d :: rest)

theorem deleteMarkersAfter_eq (kept text : List Char) :
    deleteMarkersAfter kept text = kept.reverse ++ deleteMarkers text := by
  fun_induction deleteMarkersAfter kept text with
  | case1 kept => simp [deleteMarkers]
  | case2 kept c => simp [deleteMarkers]
  | case3 kept c d rest h ih => simp [deleteMarkers, h, ih]
  | case4 kept c d rest h ih => simp [deleteMarkers, h, ih]

/-- Whether there is a marker somewhere. -/
def hasMarker : List Char → Bool
  | [] | [_] => false
  | c :: d :: rest => (c = '0' ∧ d = 'x') || hasMarker (d :: rest)

theorem deleteMarkers_of_not_hasMarker {text : List Char} (h : hasMarker text = false) :
    deleteMarkers text = text := by
  fun_induction hasMarker text with
  | case1 => rfl
  | case2 c => rfl
  | case3 c d rest ih =>
    simp only [Bool.or_eq_false_iff, decide_eq_false_iff_not] at h
    rw [deleteMarkers, if_neg h.1, ih h.2]

/-- Deletes one marker at the front, in either case. -/
def deleteLeading : List Char → List Char
  | '0' :: 'x' :: rest => rest
  | '0' :: 'X' :: rest => rest
  | text => text

/-- The characters of a token that are left in a mode. A token without a marker is handed on as it
is. -/
def stripText : StripMode → List Char → List Char
  | global, text => if hasMarker text then deleteMarkersAfter [] text else text
  | leading, text => deleteLeading text

@[simp] theorem stripText_global (text : List Char) :
    stripText global text = deleteMarkers text := by
  cases h : hasMarker text with
  | true => simp [stripText, h, deleteMarkersAfter_eq]
  | false => simp [stripText, h, deleteMarkers_of_not_hasMarker h]

@[simp] theorem stripText_leading (text : List Char) :
    stripText leading text = deleteLeading text := rfl

/-- A token without the markers that a mode deletes. -/
def strip (mode : StripMode) (token : String) : String :=
  String.ofList (mode.stripText token.toList)

@[simp] theorem toList_strip (mode : StripMode) (token : String) :
    (mode.strip token).toList = mode.stripText token.toList := by
  simp [strip]

/-- All modes, in the order in which they are listed to a reader. -/
def all : List StripMode := [.global, .leading]

/-- The name a mode is chosen by. -/
def name : StripMode → String
  | global => "global"
  | leading => "prefix"

/-- A mode name that is none of the known ones, in lowercase. -/
structure Unknown where
  name : String
  deriving DecidableEq, Repr

def Unknown.message (e : Unknown) : String :=
  "Unknown strip mode `" ++ e.name ++ "`. Supported modes: " ++
    ", ".intercalate (StripMode.all.map StripMode.name)

/-- The mode with a name, which may be written in any case. -/
def ofName (text : String) : Except Unknown StripMode :=
  let lower := String.ofList (Text.lowercase text.toList)
  match all.find? (fun mode => mode.name == lower) with
  | some mode => .ok mode
  | none => .error ⟨lower⟩

end StripMode

/-! ### Sizes -/

/-- The bytes that one token stands for. -/
def tokenSize (mode : StripMode) (token : String) : Nat :=
  (mode.strip token).length / 2

/-- The bytes that a list of tokens stands for. The tokens need not be hexadecimal. -/
def byteSize (mode : StripMode) (tokens : List String) : Nat :=
  tokens.foldl (fun total token => total + tokenSize mode token) 0

/-- The felts of a program, in order. -/
structure Program where
  felts : List String
  deriving DecidableEq, Repr

namespace Program

/-- The program of no felts. -/
def empty : Program := ⟨[]⟩

instance : Inhabited Program := ⟨empty⟩

def length (program : Program) : Nat :=
  program.felts.length

def isEmpty (program : Program) : Bool :=
  program.felts.isEmpty

def byteSize (program : Program) (mode : StripMode) : Nat :=
  SierraFootprint.byteSize mode program.felts

end Program

theorem foldl_add_tokenSize (mode : StripMode) (n : Nat) (tokens : List String) :
    tokens.foldl (fun total token => total + tokenSize mode token) n = n + byteSize mode tokens := by
  induction tokens generalizing n with
  | nil => rfl
  | cons t rest ih =>
    rw [byteSize, List.foldl_cons, List.foldl_cons, ih, ih, Nat.zero_add, Nat.add_assoc]

@[simp] theorem byteSize_nil (mode : StripMode) : byteSize mode [] = 0 := rfl

@[simp] theorem byteSize_cons (mode : StripMode) (token : String) (rest : List String) :
    byteSize mode (token :: rest) = tokenSize mode token + byteSize mode rest := by
  rw [byteSize, List.foldl_cons, foldl_add_tokenSize, Nat.zero_add]

end SierraFootprint
