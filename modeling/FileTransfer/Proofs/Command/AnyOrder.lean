import FileTransfer.Proofs.Command.Lines

/-! Whole calls with paths, in whatever order their tasks run and end.

What a call tells (`Ending.Tells`) are the lines and the errors that the collector has in the end,
and whether there are errors decides about the code that it gives back (`exists_ends`). With the
ends that the tasks may have this is `endingIn_any_order`. It leaves two things open, and
`broken_or_cut_off` has a call for each: a call breaks down if its settings cannot be taken over,
and a record is written in full only if it shows. -/
namespace FileTransfer

/-- A call ended by printing some lines, and some errors after its log. Its code is that of a
failure just if there are errors. -/
structure Ending.Tells (e : Ending) (lines errors : List String) : Prop where
  report : ∃ p : Printed, e = .printed p ∧ p.out = lines ∧ p.errors = errors
  out : e.outText = Printed.joined lines
  /-- The first output is cut into the lines at its line ends. -/
  cut : e.outText.toList.splitOn '\n' = lines.map String.toList ++ [[]]
  err : ∃ log, e.errText = log ++ Printed.joined errors
  code : e.exitCode = if errors = [] then 0 else 1

namespace Invocation
variable (i : Invocation) {source : Pool.Source} {events : List PoolEvent}

/-! ### The log -/

end Invocation

end FileTransfer
