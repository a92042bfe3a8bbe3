import FileTransfer.Text.DefaultIgnorable
import FileTransfer.Text.GraphemeExtend
import FileTransfer.Text.Numeral
import FileTransfer.Text.Unprintable
import FileTransfer.Text.Utf8

/-! Text between double quotes, for diagnostics. What could be mistaken for the quotes, would not
show or would merge with its neighbour is escaped; a byte that belongs to no character is written
in hexadecimal. No control character comes out, whatever goes in. -/
namespace FileTransfer.Text.Quoted

/-- The half-width sound marks of kana. They take a place of their own, although they extend the
character before them. -/
def isSoundMark (c : Char) : Bool :=
  c == '\uFF9E' || c == '\uFF9F'

/-- Characters that cannot be shown as they are. -/
def hidden (c : Char) : Bool :=
  unprintable.contains c || defaultIgnorable.contains c ||
    (graphemeExtend.contains c && !isSoundMark c)

/-- A character as it stands between the quotes. -/
def escapeChar (c : Char) : List Char :=
  match c with
  | '\x00' => ['\\', '0']
  | '\t' => ['\\', 't']
  | '\n' => ['\\', 'n']
  | '\r' => ['\\', 'r']
  | '"' => ['\\', '"']
  | '\\' => ['\\', '\\']
  | c =>
    if hidden c then ['\\', 'u', '\x7b'] ++ Numeral.hex c.toNat ++ ['\x7d'] else [c]

/-- A byte outside every character: a backslash, an `x` and two upper-case digits. -/
def escapeByte (b : UInt8) : List Char :=
  ['\\', 'x'] ++ Numeral.hexByte true b

def escapePiece : Utf8.Piece → List Char
  | .scalar c => escapeChar c
  | .broken bytes => bytes.flatMap escapeByte

/-- A text between quotes. -/
def text (s : String) : String :=
  String.ofList ('"' :: (s.toList.flatMap escapeChar ++ ['"']))

/-- A byte string between quotes. -/
def bytes (bs : List UInt8) : String :=
  String.ofList ('"' :: ((Utf8.pieces bs).flatMap escapePiece ++ ['"']))

end FileTransfer.Text.Quoted
