import FileTransfer.Pattern.Group
import FileTransfer.Pattern.Meaning

/-! Patterns that are looked for in texts, read from a text of their own. -/
namespace FileTransfer

/-- A pattern. -/
structure Pattern where
  expr : Pattern.Expr
  deriving DecidableEq, Repr

namespace Pattern

/-- Why a text is no pattern. -/
inductive Refusal where
  /-- Something in it is wrong. -/
  | wrong (pattern : String) (complaint : Complaint)
  | tooLarge
  /-- It asks for words of all scripts. -/
  | anyScript
  deriving DecidableEq, Repr

/-- The report on a text that is no pattern. -/
def Refusal.message : Refusal → String
  | .wrong pattern complaint => complaint.report pattern
  | .tooLarge =>
    "Compiled regex exceeds size limit of " ++ Text.Numeral.nat Expr.maxSize ++ " bytes."
  | .anyScript => "error building NFA"

/-- Reads a pattern. -/
def ofText (s : String) : Except Refusal Pattern :=
  match do (← Tree.ofText s).meaning {} with
  | .error c => .error (.wrong s c)
  | .ok (expr, _) =>
    if Expr.maxSize < expr.size then .error .tooLarge
    else if expr.asksAnyScript then .error .anyScript
    else .ok ⟨expr⟩

/-- Whether a pattern is found anywhere in a text. -/
def occursIn (p : Pattern) (text : String) : Bool :=
  p.expr.occursIn text.toList

end Pattern

end FileTransfer
