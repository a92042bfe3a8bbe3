/-! The content of a file: bytes that were written, and a run of zeros after them. A file can be
made long without its zeros being stored one by one. -/
namespace FileTransfer

/-- The bytes of a file: those written, and the number of zeros after them. -/
structure Content where
  written : List UInt8 := []
  zeros : Nat := 0
  deriving DecidableEq, Repr, Inhabited

namespace Content

/-- No bytes at all. -/
def empty : Content := ⟨[], 0⟩

def length (c : Content) : Nat :=
  c.written.length + c.zeros

/-- All bytes, one by one. -/
def toList (c : Content) : List UInt8 :=
  c.written ++ List.replicate c.zeros 0

/-- The content cut off or filled up with zeros to a length. -/
def resize (n : Nat) (c : Content) : Content :=
  ⟨c.written.take n, n - c.written.length⟩

/-- The content after bytes were written at an offset. A gap before them is filled with zeros. -/
def write (offset : Nat) (bytes : List UInt8) (c : Content) : Content :=
  let before := c.written.take offset ++ List.replicate (offset - c.written.length) 0
  let all := before ++ bytes ++ c.written.drop (offset + bytes.length)
  ⟨all, c.length - all.length⟩

@[simp] theorem length_toList (c : Content) : c.toList.length = c.length := by
  simp [toList, length]

theorem length_resize (n : Nat) (c : Content) : (c.resize n).length = n := by
  simp only [length, resize, List.length_take]
  omega

end Content

end FileTransfer
