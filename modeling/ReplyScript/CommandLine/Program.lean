import ReplyScript.CommandLine.TalkToModel
import ReplyScript.Trial.Report

/-! # The program

What the program does with its arguments.
-/

namespace ReplyScript.CommandLine

/-- Run the trials that the options ask for, or list their categories. -/
def test (c : Context) (o : TestOptions) (noColor : Bool) : Ending :=
  if o.listCategories then c.finish 0 (Trial.listCategories c.disk c.here o.path)
  else
    let ((printed, status), _) :=
      (Trial.runAll c.environment c.disk c.here o.path o.categories ⟨!noColor⟩).run c.input
    c.finish status printed

def Task.perform (c : Context) : Task → Ending
  | .run o => runReply c o
  | .chat o => CommandLine.chat c o
  | .models o => CommandLine.models c o
  | .test o noColor => CommandLine.test c o noColor
  | .help lines => c.finish 0 (lines.map .outputLine)
  | .version => c.finish 0 [.outputLine "pilot 0.1.0"]
  | .misuse problem =>
      c.finish 2 [.errorLine problem, .messageLine "", .messageLine
        "For more information, try '--help'."]

/-- Run the program with arguments. -/
def program (c : Context) (args : List String) : Ending :=
  (Task.ofArguments args).perform c.withEnvironmentFile

end ReplyScript.CommandLine
