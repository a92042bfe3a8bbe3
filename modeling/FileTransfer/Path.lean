import FileTransfer.Text.Outline
import FileTransfer.Text.Utf8

/-! Paths as bytes, and their lexical parents. A path is a lead, which is a slash, a single dot or
nothing, and a body of pieces between slashes. Empty pieces and single dots in the body name
nothing: they are dropped from the end before a parent is taken, and kept elsewhere. Two dots are
a piece like any other. -/
namespace FileTransfer

/-- A path: any bytes. -/
structure Path where
  bytes : List UInt8
  deriving DecidableEq, Repr, Inhabited

namespace Path

def slash : UInt8 := 47

def dot : UInt8 := 46

/-- The path of a text. -/
def ofString (s : String) : Path :=
  ⟨Text.Utf8.encode s⟩

/-- The path as a person sees it. -/
def shown (p : Path) : String :=
  Text.Utf8.lossy p.bytes

/-- The path in an outline. -/
def outline (p : Path) : Text.Outline :=
  .quotedBytes p.bytes

/-- A path between quotes, for messages. -/
def quoted (p : Path) : String :=
  Text.Quoted.bytes p.bytes

def isEmpty (p : Path) : Bool :=
  p.bytes.isEmpty

def endsInSlash (p : Path) : Bool :=
  p.bytes.getLast? == some slash

/-! ### Pieces -/

/-- Bytes cut at every slash: one piece more than there are slashes. -/
def cut : List UInt8 → List (List UInt8)
  | [] => [[]]
  | b :: rest =>
    if b = slash then [] :: cut rest
    else match cut rest with
      | [] => [[b]]
      | piece :: pieces => (b :: piece) :: pieces

/-- Pieces put together with slashes between them. -/
def glue : List (List UInt8) → List UInt8
  | [] => []
  | [piece] => piece
  | piece :: pieces => piece ++ slash :: glue pieces

/-- A piece that names nothing. -/
def isVoid (piece : List UInt8) : Bool :=
  piece.isEmpty || piece == [dot]

/-- A path as a lead and a body. -/
structure Split where
  lead : List UInt8
  body : List UInt8
  deriving DecidableEq, Repr

/-- Takes the lead off a path. A single dot is a lead if nothing or a slash follows it. -/
def split (p : Path) : Split :=
  match p.bytes with
  | [] => ⟨[], []⟩
  | b :: rest =>
    if b = slash then ⟨[slash], rest⟩
    else if b = dot ∧ (rest = [] ∨ rest.head? = some slash) then ⟨[dot], rest⟩
    else ⟨[], b :: rest⟩

/-! ### Parents -/

/-- The proper ancestors of a path, nearest first, from its lead and the pieces of its body, last
piece first. Below the lead comes the lead itself, and below a dot the empty path. -/
def parentsFrom (lead : List UInt8) : List (List UInt8) → List Path
  | [] => if lead = [dot] then [⟨[]⟩] else []
  | piece :: before =>
    if isVoid piece then parentsFrom lead before
    else ⟨lead ++ glue (before.dropWhile isVoid).reverse⟩ :: parentsFrom lead before

/-- The proper ancestors of a path, nearest first. -/
def parents (p : Path) : List Path :=
  parentsFrom p.split.lead (cut p.split.body).reverse

/-- The path without its last name, if it has one. -/
def parent? (p : Path) : Option Path :=
  p.parents.head?

/-- The path and its ancestors, nearest first. -/
def ancestors (p : Path) : List Path :=
  p :: p.parents

/-- The name under another path. -/
def child (p : Path) (name : List UInt8) : Path :=
  ⟨p.bytes ++ slash :: name⟩

theorem cut_ne_nil (bytes : List UInt8) : cut bytes ≠ [] := by
  cases bytes with
  | nil => simp [cut]
  | cons b rest =>
    unfold cut
    split
    · simp
    · split <;> simp

theorem glue_cut (bytes : List UInt8) : glue (cut bytes) = bytes := by
  induction bytes with
  | nil => rfl
  | cons b rest ih =>
    unfold cut
    split
    · next h =>
      subst h
      cases hc : cut rest with
      | nil => exact absurd hc (cut_ne_nil rest)
      | cons piece pieces => rw [hc] at ih; simp [glue, ih]
    · cases hc : cut rest with
      | nil => exact absurd hc (cut_ne_nil rest)
      | cons piece pieces =>
        rw [hc] at ih
        cases pieces with
        | nil => simpa [glue] using ih
        | cons next more => simpa [glue] using ih

end Path

end FileTransfer
