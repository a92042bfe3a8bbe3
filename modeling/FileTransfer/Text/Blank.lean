import FileTransfer.Text.RangeTable

/-! White space: the characters with the property of that name. -/
namespace FileTransfer.Text

/-- The white space characters: five controls, the space, the next line and the no-break space,
and the spaces and separators of other scripts. -/
def blank : RangeTable :=
  ⟨[0x9, 0xE, 0x20, 0x21, 0x85, 0x86, 0xA0, 0xA1, 0x1680, 0x1681, 0x2000, 0x200B, 0x2028,
    0x202A, 0x202F, 0x2030, 0x205F, 0x2060, 0x3000, 0x3001]⟩

def isBlank (c : Char) : Bool :=
  blank.contains c

/-- A text without the white space at its front. -/
def trimStart (s : List Char) : List Char :=
  s.dropWhile isBlank

/-- A text without the white space at its end. -/
def trimEnd (s : List Char) : List Char :=
  (trimStart s.reverse).reverse

/-- A text without the white space around it. -/
def trim (s : List Char) : List Char :=
  trimEnd (trimStart s)

end FileTransfer.Text
