/-! UTF-8 read out of arbitrary bytes. A byte string is cut into pieces: each is one decoded
character, or a longest run of bytes that starts like a character and cannot become one. Showing
the pieces with a replacement character for every broken one gives the text a person sees; a
byte string is text if no piece is broken. -/
namespace FileTransfer.Text.Utf8

/-- One decoded character, or a longest run of bytes that is the start of no character. -/
inductive Piece where
  | scalar (c : Char)
  | broken (bytes : List UInt8)
  deriving DecidableEq, Repr

/-- A character under way: the bytes seen, the value they carry, how many bytes are owed, and
the bounds of the next one. -/
structure Pending where
  seen : List UInt8
  value : Nat
  owed : Nat
  low : UInt8 := 0x80
  high : UInt8 := 0xBF
  deriving DecidableEq, Repr

/-- What the first byte of a character promises, if it can be one. The bounds of the second byte
keep out overlong forms, surrogates and values past the last code point. -/
def lead (b : UInt8) : Option Pending :=
  if 0xC2 ≤ b ∧ b ≤ 0xDF then some ⟨[b], b.toNat - 0xC0, 1, 0x80, 0xBF⟩
  else if b = 0xE0 then some ⟨[b], 0, 2, 0xA0, 0xBF⟩
  else if b = 0xED then some ⟨[b], 0xD, 2, 0x80, 0x9F⟩
  else if 0xE1 ≤ b ∧ b ≤ 0xEF then some ⟨[b], b.toNat - 0xE0, 2, 0x80, 0xBF⟩
  else if b = 0xF0 then some ⟨[b], 0, 3, 0x90, 0xBF⟩
  else if 0xF1 ≤ b ∧ b ≤ 0xF3 then some ⟨[b], b.toNat - 0xF0, 3, 0x80, 0xBF⟩
  else if b = 0xF4 then some ⟨[b], 4, 3, 0x80, 0x8F⟩
  else none

/-- A byte between characters: a piece of its own, or the start of a longer character. -/
def start (b : UInt8) : List Piece × Option Pending :=
  if b < 0x80 then ([.scalar (Char.ofNat b.toNat)], none)
  else match lead b with
    | some p => ([], some p)
    | none => ([.broken [b]], none)

/-- One byte: the pieces it completes and the character under way after it. A byte that cannot
go on with the character under way breaks it off and starts anew. -/
def step : Option Pending → UInt8 → List Piece × Option Pending
  | none, b => start b
  | some p, b =>
    if p.low ≤ b ∧ b ≤ p.high then
      let value := p.value * 64 + (b.toNat - 0x80)
      if p.owed ≤ 1 then ([.scalar (Char.ofNat value)], none)
      else ([], some ⟨p.seen ++ [b], value, p.owed - 1, 0x80, 0xBF⟩)
    else
      let (pieces, next) := start b
      (.broken p.seen :: pieces, next)

/-- The pieces of the bytes to come, given the character under way. -/
def piecesFrom : Option Pending → List UInt8 → List Piece
  | none, [] => []
  | some p, [] => [.broken p.seen]
  | state, b :: rest =>
    let (pieces, next) := step state b
    pieces ++ piecesFrom next rest

/-- A byte string cut into characters and broken runs. -/
def pieces (bytes : List UInt8) : List Piece :=
  piecesFrom none bytes

/-- The character itself, or the replacement character for a broken run. -/
def Piece.shown : Piece → Char
  | .scalar c => c
  | .broken _ => '\uFFFD'

/-- The character of an unbroken piece. -/
def Piece.scalar? : Piece → Option Char
  | .scalar c => some c
  | .broken _ => none

/-- The text a person sees: one replacement character for each broken run. -/
def lossy (bytes : List UInt8) : String :=
  String.ofList ((pieces bytes).map Piece.shown)

/-- The text the bytes encode, if they encode one. -/
def decode? (bytes : List UInt8) : Option String :=
  ((pieces bytes).mapM Piece.scalar?).map String.ofList

/-- The bytes of a text. -/
def encode (s : String) : List UInt8 :=
  s.toList.flatMap String.utf8EncodeChar

theorem piecesFrom_cons (state : Option Pending) (b : UInt8) (rest : List UInt8) :
    piecesFrom state (b :: rest) = (step state b).1 ++ piecesFrom (step state b).2 rest := by
  cases state <;> rfl

end FileTransfer.Text.Utf8
