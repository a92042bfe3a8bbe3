import FileTransfer.Log.Record
import FileTransfer.Pattern.Basic
import FileTransfer.Text.Blank
import FileTransfer.Text.Utf8

/-! Which records of a log are written. A filter is a list of directives, each for the targets
that begin with some text, or for all; the directive with the longest such text decides. A filter
is read from a text of directives between commas; what cannot be read is complained of and left
out. After a slash there may be a pattern that the message must hold. -/
namespace FileTransfer.Log

/-- Up to which level the records of some targets pass. -/
structure Directive where
  /-- How the targets begin; without it, all targets. -/
  target : Option String
  /-- The last level that passes; without it, none does. -/
  most : Option Level
  deriving DecidableEq, Repr

structure Filter where
  directives : List Directive
  /-- What a message must hold. -/
  pattern : Option Pattern := none
  deriving DecidableEq, Repr

namespace Directive

/-- The number of bytes of the text that targets begin with. -/
def weight (d : Directive) : Nat :=
  (d.target.map String.utf8ByteSize).getD 0

/-- Whether a directive is about a target. -/
def concerns (d : Directive) (target : String) : Bool :=
  match d.target with
  | some start => start.toList.isPrefixOf target.toList
  | none => true

/-- Whether a directive lets a level pass. -/
def passes (d : Directive) (level : Level) : Bool :=
  match d.most with
  | some most => decide (level.depth ≤ most.depth)
  | none => false

end Directive

namespace Filter

/-! ### Filtering -/

/-- The directive that decides about a target: of those that concern it, the heaviest, and of
equally heavy ones the last. -/
def decisive? (f : Filter) (target : String) : Option Directive :=
  (f.directives.mergeSort fun a b => decide (a.weight ≤ b.weight)).reverse.find?
    fun d => d.concerns target

/-- Whether a record is written. -/
def passes (f : Filter) (r : Record) : Bool :=
  (f.decisive? r.speaker.target).any (fun d => d.passes r.level) &&
    f.pattern.all fun p => p.occursIn r.message

/-! ### Reading -/

/-- The names of the levels, and the name of none. -/
def levelNames : List (String × Option Level) :=
  [("OFF", none), ("ERROR", some .error), ("WARN", some .warn), ("INFO", some .info),
    ("DEBUG", some .debug), ("TRACE", some .trace)]

/-- A letter as a capital, if it is one of the basic ones. -/
def capital (c : Char) : Char :=
  if 'a' ≤ c ∧ c ≤ 'z' then Char.ofNat (c.toNat - 32) else c

/-- The level of a name, in letters of either case. -/
def level? (s : List Char) : Option (Option Level) :=
  levelNames.lookup (String.ofList (s.map capital))

/-- A text cut at every occurrence of a character. -/
def cutAt (c : Char) : List Char → List (List Char)
  | [] => [[]]
  | d :: rest =>
    if d = c then [] :: cutAt c rest
    else match cutAt c rest with
      | [] => [[d]]
      | piece :: pieces => (d :: piece) :: pieces

/-- Reads a directive, or gives the text to complain of. A name alone, or one with nothing after
its equals sign, lets all levels pass. -/
def directive (s : List Char) : Except String Directive :=
  match cutAt '=' s with
  | [one] =>
    match level? one with
    | some most => .ok ⟨none, most⟩
    | none => .ok ⟨some (String.ofList one), some .trace⟩
  | [name, value] =>
    let value := Text.trim value
    if value.isEmpty then .ok ⟨some (String.ofList name), some .trace⟩
    else match level? value with
      | some most => .ok ⟨some (String.ofList name), most⟩
      | none => .error (String.ofList value)
  | _ => .error (String.ofList s)

/-- A directive in place of the one for the same targets, or after all others. -/
def insert (d : Directive) : List Directive → List Directive
  | [] => [d]
  | e :: rest => if e.target = d.target then d :: rest else e :: insert d rest

/-- The directives of a text, and what to complain of. -/
def items (s : List Char) : List (Except String Directive) :=
  ((cutAt ',' s).map Text.trim).filterMap fun item =>
    if item.isEmpty then none else some (directive item)

/-- What lets only errors pass, where nothing else is said. -/
def errorsOnly : List Directive := [⟨none, some .error⟩]

/-- The directives that could be read. -/
def readable (items : List (Except String Directive)) : List Directive :=
  items.foldl (fun ds item => match item with
    | .ok d => insert d ds
    | .error _ => ds) []

/-- The texts that could not be read. -/
def unreadable (items : List (Except String Directive)) : List String :=
  items.filterMap fun item => match item with
    | .ok _ => none
    | .error s => some s

/-- A complaint about a text. -/
def complaint (s : String) : String :=
  "warning: invalid logging spec '" ++ s ++ "', ignoring it"

/-- A complaint about a text with more than one slash. -/
def slashComplaint (s : String) : String :=
  "warning: invalid logging spec '" ++ s ++ "' (too many '/'s), ignoring it"

/-- A complaint about what follows a slash. -/
def patternComplaint (r : Pattern.Refusal) : String :=
  "warning: invalid regex filter - " ++ r.message ++ ", ignoring it"

/-- A filter of these directives, or of the one for errors if there are none. -/
def ofDirectives (ds : List Directive) (pattern : Option Pattern) : Filter :=
  ⟨if ds.isEmpty then errorsOnly else ds, pattern⟩

/-- Reads a filter, with complaints about what could not be read. -/
def ofText (spec : String) : Filter × List String :=
  match cutAt '/' spec.toList with
  | [all] =>
    let read := items all
    (ofDirectives (readable read) none, (unreadable read).map complaint)
  | [all, part] =>
    let read := items all
    let complaints := (unreadable read).map complaint
    match Pattern.ofText (String.ofList part) with
    | .ok p => (ofDirectives (readable read) (some p), complaints)
    | .error r => (ofDirectives (readable read) none, complaints ++ [patternComplaint r])
  | _ => (ofDirectives [] none, [slashComplaint spec])

/-- The variable that holds a filter. -/
def variableName : String := "RUST_LOG"

/-- The filter where the variable is not set to a text. -/
def defaultText : String := "warn,transfer_platform=info,transfer_info=info"

end Filter

end FileTransfer.Log
