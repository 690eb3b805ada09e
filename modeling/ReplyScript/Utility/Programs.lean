import ReplyScript.Utility.Columns
import ReplyScript.Utility.Compare
import ReplyScript.Utility.Dump
import ReplyScript.Utility.Expr
import ReplyScript.Utility.Find
import ReplyScript.Utility.Grep
import ReplyScript.Utility.Launch
import ReplyScript.Utility.LineEdit
import ReplyScript.Utility.Names
import ReplyScript.Utility.Parts
import ReplyScript.Utility.Printing

/-! # The programs

The utilities by the names of their programs.
-/

namespace ReplyScript.Utility

/-- The utilities by name. -/
def programs : List (String × Utility) :=
  [("cat", cat), ("tac", tac), ("rev", rev), ("head", head), ("tail", tail), ("wc", wc), ("nl", nl),
   ("fold", fold), ("expand", expand), ("sort", sort), ("uniq", uniq), ("comm", comm),
   ("join", join), ("cut", cut), ("paste", paste), ("tr", tr), ("grep", grep), ("egrep", egrep),
   ("fgrep", fgrep), ("sed", sed), ("echo", echo), ("printf", printf), ("seq", seq),
   ("expr", expr), ("mkdir", mkdir), ("rmdir", rmdir), ("rm", rm), ("touch", touch), ("cp", cp),
   ("mv", mv), ("ln", ln), ("tee", tee), ("chmod", chmod), ("ls", ls), ("find", find),
   ("basename", basename), ("dirname", dirname), ("realpath", realpath), ("readlink", readlink),
   ("pwd", pwd), ("stat", stat), ("uname", uname), ("whoami", whoami), ("sleep", sleep),
   ("yes", yes), ("true", succeed), ("false", giveUp), ("sync", succeed), ("env", env),
   ("printenv", printenv), ("xargs", xargs), ("nohup", launchRest "nohup" 0),
   ("nice", launchRest "nice" 0), ("setsid", launchRest "setsid" 0),
   ("timeout", launchRest "timeout" 1), ("stdbuf", launchRest "stdbuf" 0), ("diff", diff),
   ("cmp", cmp), ("od", od), ("base64", base64)]

def programDirectories : List String :=
  ["/usr/bin", "/bin"]

/-- Where programs are looked for unless something else is asked for. -/
def usualPath : String :=
  "/usr/local/sbin:/usr/local/bin:/usr/sbin:/usr/bin:/sbin:/bin"

def systemDirectories : List (List String) :=
  [["bin"], ["dev"], ["etc"], ["home"], ["lib"], ["mnt"], ["opt"], ["proc"], ["root"], ["run"],
   ["sbin"], ["srv"], ["sys"], ["tmp"], ["usr"], ["usr", "bin"], ["usr", "lib"], ["usr", "local"],
   ["usr", "local", "bin"], ["usr", "sbin"], ["usr", "share"], ["var"], ["var", "tmp"]]

end ReplyScript.Utility
