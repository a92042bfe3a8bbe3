import FileTransfer.Pattern.Complaint
import FileTransfer.Pattern.Expr
import FileTransfer.Pattern.Tree

/-! What the parts of a pattern ask for. It hangs on the ways of reading that are set before them.
Characters are those of all scripts unless that is unset; but classes and cases are known for the
basic characters only, so that what asks for more is refused. -/
namespace FileTransfer.Pattern

/-- The ways of reading that matter for what is found. -/
structure Flags where
  anyCase : Bool := false
  manyLines : Bool := false
  dotAll : Bool := false
  unicode : Bool := true
  returns : Bool := false
  deriving DecidableEq, Repr

namespace Flags

def set (f : Flags) (change : Flag × Bool) : Flags :=
  match change with
  | (.anyCase, on) => { f with anyCase := on }
  | (.manyLines, on) => { f with manyLines := on }
  | (.dotAll, on) => { f with dotAll := on }
  | (.unicode, on) => { f with unicode := on }
  | (.returns, on) => { f with returns := on }
  | (.swapGreed, _) => f
  | (.loose, _) => f

def setAll (f : Flags) (changes : FlagChanges) : Flags :=
  changes.foldl set f

end Flags

/-- A meaning, or a complaint. -/
abbrev Meaning := Except Complaint

def refuse {α : Type} (m : Mistake) (span : Span) : Meaning α :=
  .error ⟨m, span, none⟩

/-! ### Characters and classes -/

/-- The ranges of a class of basic characters. -/
def NamedClass.ranges : NamedClass → List (Char × Char)
  | .alnum => [('0', '9'), ('A', 'Z'), ('a', 'z')]
  | .alpha => [('A', 'Z'), ('a', 'z')]
  | .ascii => [('\x00', '\x7f')]
  | .blank => [('\t', '\t'), (' ', ' ')]
  | .cntrl => [('\x00', '\x1f'), ('\x7f', '\x7f')]
  | .digit => [('0', '9')]
  | .graph => [('!', '~')]
  | .lower => [('a', 'z')]
  | .print => [(' ', '~')]
  | .punct => [('!', '/'), (':', '@'), ('[', '\x60'), ('\x7b', '~')]
  | .space => [('\t', '\r'), (' ', ' ')]
  | .upper => [('A', 'Z')]
  | .word => [('0', '9'), ('A', 'Z'), ('_', '_'), ('a', 'z')]
  | .xdigit => [('0', '9'), ('A', 'F'), ('a', 'f')]

/-- The basic characters of a class with a letter. -/
def ShortClass.basic : ShortClass → NamedClass
  | .digit => .digit
  | .space => .space
  | .word => .word

/-- A byte that is no basic character would stand for a part of one. -/
def Literal.isBroken (l : Literal) : Bool :=
  l.isByte && 127 < l.char.toNat

/-- A set, and whether it is the same in either case: it is if no characters were put into it
one by one. -/
structure CasedSet where
  set : CharSet
  isCaseless : Bool
  deriving DecidableEq, Repr

namespace CasedSet

/-- A set as it is given. -/
def cased (set : CharSet) : CasedSet := ⟨set, false⟩

def empty : CasedSet := ⟨.none, true⟩

def join (a b : CasedSet) : CasedSet :=
  ⟨.union a.set b.set, a.isCaseless && b.isCaseless⟩

/-- A set in either case, if that is asked for. -/
def fold (f : Flags) (span : Span) (a : CasedSet) : Meaning CasedSet :=
  if !f.anyCase then .ok a
  else if !f.unicode then .ok ⟨.anyCase a.set, true⟩
  else if a.isCaseless then .ok a
  else refuse .caseUnknown span

/-- A set in either case if that is asked for, or all characters but those. -/
def close (f : Flags) (span : Span) (negated : Bool) (a : CasedSet) : Meaning CasedSet := do
  let a ← a.fold f span
  if !negated then return a
  else if f.unicode then return ⟨.others a.set, a.isCaseless⟩
  else refuse .brokenText span

end CasedSet

/-- The set of a class with a letter. -/
def ShortClass.meaning (f : Flags) (span : Span) (negated : Bool) (k : ShortClass) :
    Meaning CharSet :=
  if f.unicode then refuse .shortClassUnknown span
  else if negated then refuse .brokenText span
  else .ok (.ofRanges k.basic.ranges)

/-- The name of a property without case, blanks, dashes and a leading "is". -/
def plainName (name : List Char) : List Char :=
  let small := name.map fun c => if 'A' ≤ c ∧ c ≤ 'Z' then otherCase c else c
  let rest := if ['i', 's'].isPrefixOf small then small.drop 2 else small
  let rest := rest.filter fun c => c.toNat < 128 && c != ' ' && c != '_' && c != '-'
  if ['i', 's'].isPrefixOf small ∧ rest = ['c'] then ['i', 's', 'c'] else rest

/-- The names that are taken for values of the general category at once. -/
def categoryNames : List (List Char) :=
  [['c', 'f'], ['s', 'c'], ['l', 'c']]

/-- No property is known. -/
def refuseProperty {α : Type} (f : Flags) (span : Span) (name : List Char) : Meaning α :=
  if !f.unicode then refuse .unicodeNotAllowed span
  else if categoryNames.contains (plainName name) then refuse .propertyValueUnknown span
  else refuse .propertyUnknown span

/-- The character of a literal in a class. -/
def Literal.classChar (f : Flags) (l : Literal) : Meaning Char :=
  if f.unicode then .ok l.char
  else if l.isBroken then refuse .brokenText l.span
  else if l.char.toNat < 128 then .ok l.char
  else refuse .unicodeNotAllowed l.span

def SetOp.apply (op : SetOp) (a b : CharSet) : CharSet :=
  match op with
  | .both => .both a b
  | .without => .without a b
  | .either => .either a b

mutual

/-- The set of a class. -/
def ClassSet.meaning (f : Flags) : ClassSet → Meaning CasedSet
  | .empty _ => .ok .empty
  | .literal l => return .cased (.single (← l.classChar f))
  | .range _ first last => return .cased (.range (← first.classChar f) (← last.classChar f))
  | .named span kind negated => (CasedSet.cased (.ofRanges kind.ranges)).close f span negated
  | .short span kind negated => return .cased (← kind.meaning f span negated)
  | .property span name => refuseProperty f span name
  | .bracket span negated set => do (← set.meaning f).close f span negated
  | .union _ parts => ClassSet.meanings f parts
  | .combine _ op left right => do
    let a ← left.meaning f
    let b ← right.meaning f
    let b ← b.fold f right.span
    let a ← a.fold f left.span
    return ⟨op.apply a.set b.set, a.isCaseless && b.isCaseless⟩

/-- The set of several parts of a class together. -/
def ClassSet.meanings (f : Flags) : List ClassSet → Meaning CasedSet
  | [] => .ok .empty
  | part :: rest => return (← part.meaning f).join (← ClassSet.meanings f rest)

end

/-! ### Parts of a pattern -/

/-- A character. -/
def Literal.meaning (f : Flags) (l : Literal) : Meaning Expr :=
  if f.unicode then
    if f.anyCase then refuse .caseUnknown l.span else .ok (.oneOf (.single l.char))
  else if l.isBroken then refuse .brokenText l.span
  else if f.anyCase && otherCase l.char != l.char then .ok (.oneOf (.anyCase (.single l.char)))
  else .ok (.oneOf (.single l.char))

/-- Any character, but for line ends unless they are asked for. -/
def dotMeaning (f : Flags) (span : Span) : Meaning Expr :=
  if !f.unicode then refuse .brokenText span
  else if f.dotAll then .ok (.oneOf .all)
  else if f.returns then .ok (.oneOf (.others (.union (.single '\n') (.single '\r'))))
  else .ok (.oneOf (.others (.single '\n')))

/-- The place that is asked for. -/
def Assertion.look (f : Flags) (a : Assertion) : Look :=
  let word (l : Look) := if f.unicode then .anyScript else l
  match a with
  | .lineStart =>
    if !f.manyLines then .textStart else if f.returns then .returnStart else .lineStart
  | .lineStop =>
    if !f.manyLines then .textStop else if f.returns then .returnStop else .lineStop
  | .textStart => .textStart
  | .textStop => .textStop
  | .boundary => word .boundary
  | .noBoundary => word .noBoundary
  | .wordStart => word .wordStart
  | .wordStop => word .wordStop
  | .wordStartHalf => word .wordStartHalf
  | .wordStopHalf => word .wordStopHalf

mutual

/-- What a part asks for, and the ways of reading after it. -/
def Tree.meaning (f : Flags) : Tree → Meaning (Expr × Flags)
  | .empty _ => .ok (.empty, f)
  | .flags _ changes => .ok (.empty, f.setAll changes)
  | .literal l => return (← l.meaning f, f)
  | .dot span => return (← dotMeaning f span, f)
  | .assertion _ kind => .ok (.look (kind.look f), f)
  | .short span kind negated => return (.oneOf (← kind.meaning f span negated), f)
  | .property span name => refuseProperty f span name
  | .bracket span negated set => do
    return (.oneOf (← (← set.meaning f).close f span negated).set, f)
  | .repetition _ least most part => do
    let (e, f) ← part.meaning f
    return (.repeated least most e, f)
  | .group _ changes part => do
    let (e, _) ← part.meaning (f.setAll changes)
    return (e, f)
  | .concat _ parts => Tree.meaningInRow f parts
  | .alternation _ parts => Tree.meaningOfAny f parts

/-- What parts in a row ask for. -/
def Tree.meaningInRow (f : Flags) : List Tree → Meaning (Expr × Flags)
  | [] => .ok (.empty, f)
  | part :: rest => do
    let (e, f) ← part.meaning f
    let (more, f) ← Tree.meaningInRow f rest
    return (.seq e more, f)

/-- What alternatives ask for. -/
def Tree.meaningOfAny (f : Flags) : List Tree → Meaning (Expr × Flags)
  | [] => .ok (.oneOf .none, f)
  | part :: rest => do
    let (e, f) ← part.meaning f
    let (more, f) ← Tree.meaningOfAny f rest
    return (.alt e more, f)

end

end FileTransfer.Pattern
