/-!
# UTF-8 text in byte strings

A byte string is read in one pass into items: a character for each well-formed sequence and a gap
for each maximal ill-formed stretch. Strict decoding asks for no gap, lossy decoding writes the
replacement character for each.
-/
namespace SierraFootprint

/-- Uninterpreted bytes: paths, arguments, file contents and program output. -/
abbrev Bytes := List UInt8

namespace Utf8

/-- The bytes of a text. -/
def encode (text : List Char) : Bytes :=
  text.flatMap String.utf8EncodeChar

@[simp] theorem encode_nil : encode [] = [] := rfl

@[simp] theorem encode_cons (c : Char) (text : List Char) :
    encode (c :: text) = String.utf8EncodeChar c ++ encode text := by
  simp [encode]

@[simp] theorem encode_append (a b : List Char) : encode (a ++ b) = encode a ++ encode b := by
  simp [encode]

/-- A character whose first bytes have been seen: the bits so far, how many more bytes follow the
next one, and the range of the next one. -/
structure Partial where
  bits : Nat
  more : Nat
  low : Nat
  high : Nat

/-- What a byte means at the start of a character. -/
inductive Lead
  | char (c : Char)
  | opens (p : Partial)
  | illFormed

/-- Overlong forms, surrogates and values above U+10FFFF are kept out by narrowing the range of the
second byte. -/
def lead (byte : UInt8) : Lead :=
  let b := byte.toNat
  if b < 0x80 then .char (Char.ofNat b)
  else if b < 0xC2 then .illFormed
  else if b < 0xE0 then .opens ⟨b - 0xC0, 0, 0x80, 0xBF⟩
  else if b = 0xE0 then .opens ⟨0, 1, 0xA0, 0xBF⟩
  else if b = 0xED then .opens ⟨0xD, 1, 0x80, 0x9F⟩
  else if b < 0xF0 then .opens ⟨b - 0xE0, 1, 0x80, 0xBF⟩
  else if b = 0xF0 then .opens ⟨0, 2, 0x90, 0xBF⟩
  else if b < 0xF4 then .opens ⟨b - 0xF0, 2, 0x80, 0xBF⟩
  else if b = 0xF4 then .opens ⟨4, 2, 0x80, 0x8F⟩
  else .illFormed

/-- The items a byte completes, and the character it leaves open. -/
structure Fed where
  items : List (Option Char)
  still : Option Partial

/-- A byte between characters. -/
def start (byte : UInt8) : Fed :=
  match lead byte with
  | .char c => ⟨[some c], none⟩
  | .opens p => ⟨[], some p⟩
  | .illFormed => ⟨[none], none⟩

/-- A byte that cannot continue the open character ends it as a gap and starts anew. -/
def feed (still : Option Partial) (byte : UInt8) : Fed :=
  match still with
  | none => start byte
  | some p =>
    if p.low ≤ byte.toNat ∧ byte.toNat ≤ p.high then
      let bits := p.bits * 64 + (byte.toNat - 0x80)
      match p.more with
      | 0 => ⟨[some (Char.ofNat bits)], none⟩
      | more + 1 => ⟨[], some ⟨bits, more, 0x80, 0xBF⟩⟩
    else ⟨none :: (start byte).items, (start byte).still⟩

/-- The items of a byte string, from an open character on. -/
def items (still : Option Partial) : Bytes → List (Option Char)
  | [] => if still.isSome then [none] else []
  | b :: rest => (feed still b).items ++ items (feed still b).still rest

/-- `items` after the items in `done`, which come latest first. -/
def itemsAfter (done : List (Option Char)) (still : Option Partial) : Bytes → List (Option Char)
  | [] => (if still.isSome then none :: done else done).reverse
  | b :: rest =>
    let fed := feed still b
    itemsAfter (fed.items.reverse ++ done) fed.still rest

theorem itemsAfter_eq (done : List (Option Char)) (still : Option Partial) (bytes : Bytes) :
    itemsAfter done still bytes = done.reverse ++ items still bytes := by
  induction bytes generalizing done still with
  | nil => simp only [itemsAfter, items]; split <;> simp
  | cons b rest ih => simp [itemsAfter, items, ih]

/-- The characters and gaps of a byte string. -/
def scan (bytes : Bytes) : List (Option Char) :=
  itemsAfter [] none bytes

theorem scan_eq (bytes : Bytes) : scan bytes = items none bytes := by
  simp [scan, itemsAfter_eq]

/-- The text of a well-formed byte string. -/
def decode? (bytes : Bytes) : Option (List Char) :=
  let found := scan bytes
  if found.all Option.isSome then some (found.filterMap id) else none

/-- Stands for an ill-formed stretch. -/
def replacement : Char := '\uFFFD'

/-- The text of any byte string, with one replacement character for each ill-formed stretch. -/
def lossy (bytes : Bytes) : List Char :=
  (scan bytes).map (Option.getD · replacement)

end Utf8

namespace Bytes

/-- The bytes of a string. -/
def ofString (s : String) : Bytes :=
  Utf8.encode s.toList

/-- A byte string as it is shown to a reader. -/
def display (bytes : Bytes) : String :=
  String.ofList (Utf8.lossy bytes)

/-- The stretches between the occurrences of a separator, empty ones included. -/
def pieces (separator : UInt8) : Bytes → List Bytes
  | [] => [[]]
  | b :: rest =>
    if b = separator then [] :: pieces separator rest
    else (pieces separator rest).modifyHead (b :: ·)

/-- `pieces` after the pieces in `done`, which come latest first, with the bytes in `piece`, also
latest first, at the start of the next one. -/
def piecesAfter (separator : UInt8) (done : List Bytes) (piece : Bytes) : Bytes → List Bytes
  | [] => (piece.reverse :: done).reverse
  | b :: rest =>
    if b = separator then piecesAfter separator (piece.reverse :: done) [] rest
    else piecesAfter separator done (b :: piece) rest

theorem piecesAfter_eq (separator : UInt8) (done : List Bytes) (piece bytes : Bytes) :
    piecesAfter separator done piece bytes =
      done.reverse ++ (pieces separator bytes).modifyHead (piece.reverse ++ ·) := by
  induction bytes generalizing done piece with
  | nil => simp [piecesAfter, pieces]
  | cons b rest ih =>
    by_cases h : b = separator
    · simp [piecesAfter, pieces, h, ih]
      cases pieces separator rest <;> simp
    · simp only [piecesAfter, pieces, h, if_false, ih]
      cases pieces separator rest <;> simp

/-- A byte string cut at every separator. -/
def splitOn (separator : UInt8) (bytes : Bytes) : List Bytes :=
  piecesAfter separator [] [] bytes

theorem splitOn_eq (separator : UInt8) (bytes : Bytes) :
    bytes.splitOn separator = pieces separator bytes := by
  simp only [splitOn, piecesAfter_eq]
  cases pieces separator bytes <;> simp

end Bytes
end SierraFootprint
