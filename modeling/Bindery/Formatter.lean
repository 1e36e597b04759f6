import Bindery.Path
import Bindery.Value.Basic

/-!
# The code formatter

An outside program that is called on every source file. A call is the command with the file's
path at its end; how it went (`Outcome`) either satisfies or leaves a complaint, and a
complaint never stops a build. A call that breaks leaves nothing, and stops who made it.
-/

namespace Bindery

namespace Formatter

/-- One call: the command, and the seconds it may take. The limit is whatever value was asked for,
null for none. -/
structure Call where
  command : List Text
  timeout : Value
  deriving Repr

/-- How a call went: the program ended with a status and what it printed, or it is not there,
took too long, or could not be started. -/
inductive Outcome where
  | finished (status : Int) (printed errors : Option Text)
  | notFound
  | timedOut
  | refused (text : Text)
  /-- The call broke: its command cannot be passed on, its limit is no time that can be waited, or
  what the program printed is no text. -/
  | broken (f : Fault)
  deriving DecidableEq, Repr

/-- What a program that failed says: the first line of its errors, or of what it printed when
there are no errors. -/
def detail (printed errors : Option Text) : Text :=
  let said := ((Text.filled? errors).or printed).getD ""
  Text.firstLine (Text.trim said)

/-- What is wrong after a call of a program, if anything is. Nothing can be said of a call that
broke. -/
def Outcome.complaint (program : Text) : Outcome → Except Fault (Option Text)
  | .finished status printed errors =>
    if status = 0 then .ok none
    else
      let ending := program ++ " exited with status " ++ toString status
      let detail := detail printed errors
      .ok (some (if detail.isEmpty then ending else ending ++ ": " ++ detail))
  | .notFound => .ok (some (program ++ " not found"))
  | .timedOut => .ok (some (program ++ " timed out"))
  | .refused text => .ok (some text)
  | .broken f => .error f

/-- How a call of nothing ends. -/
def noCommand : Text := "no formatter command configured"

end Formatter

/-- What became of one file: a complaint, or none. -/
structure FormatResult where
  path : Path
  complaint : Option Text
  deriving DecidableEq, Repr

namespace FormatResult

def ok (r : FormatResult) : Bool := r.complaint.isNone

/-- The complaint, empty when all is well. -/
def message (r : FormatResult) : Text := r.complaint.getD ""

/-- The results with a complaint. -/
def failed (results : List FormatResult) : List FormatResult := results.filter fun r => !r.ok

end FormatResult

end Bindery
