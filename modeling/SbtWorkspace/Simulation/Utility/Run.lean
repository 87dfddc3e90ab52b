import SbtWorkspace.Simulation.Editing.Run
import SbtWorkspace.Simulation.Records.Run
import SbtWorkspace.Simulation.Utility.Batches
import SbtWorkspace.Simulation.Utility.Characters
import SbtWorkspace.Simulation.Utility.Columns
import SbtWorkspace.Simulation.Utility.Comparison
import SbtWorkspace.Simulation.Utility.Encoding
import SbtWorkspace.Simulation.Utility.Expression
import SbtWorkspace.Simulation.Utility.Listing
import SbtWorkspace.Simulation.Utility.Numbers
import SbtWorkspace.Simulation.Utility.Pieces
import SbtWorkspace.Simulation.Utility.Search
import SbtWorkspace.Simulation.Utility.Sorting
import SbtWorkspace.Simulation.Utility.Surroundings

/-! The programs that come with a machine, by name: those that work alone, and those that run others. -/

namespace SbtWorkspace.Simulation.Utility

def alone : List (String × Work) :=
  [("true", answering 0), ("false", answering 1), ("sync", answering 0), ("kill", answering 1), ("tty", terminal),
    ("echo", echo), ("printf", printf), ("pwd", pwd), ("printenv", printenv), ("test", test), ("[", bracketed),
    ("sleep", sleep), ("yes", yes), ("uname", uname), ("arch", telling "x86_64"), ("whoami", telling "root"),
    ("groups", groups), ("id", identity), ("which", which),
    ("mkdir", mkdir), ("touch", touch), ("rm", rm), ("rmdir", rmdir), ("unlink", unlink), ("cp", cp), ("mv", mv),
    ("ln", ln), ("link", link), ("chmod", chmod), ("install", install), ("chown", chown false), ("chgrp", chown true),
    ("truncate", truncate), ("mktemp", mktemp), ("mknod", mknod),
    ("cat", cat), ("tac", tac), ("head", portion false), ("tail", portion true), ("nl", nl), ("tee", tee),
    ("cut", cut), ("paste", paste), ("fold", fold), ("expand", expand), ("unexpand", unexpand), ("tr", tr),
    ("wc", wc), ("sort", sort), ("uniq", uniq), ("comm", comm), ("join", join),
    ("grep", grep (some .basic)), ("egrep", grep (some .lenient)), ("fgrep", grep none),
    ("basename", basename), ("dirname", dirname), ("realpath", realpath), ("readlink", readlink), ("ls", ls ""),
    ("dir", ls "C"), ("vdir", ls "l"), ("stat", stat),
    ("seq", seq), ("factor", factor), ("expr", expr), ("split", split), ("dd", dd), ("cmp", cmp), ("diff", diff),
    ("date", date), ("cksum", cksum), ("sum", sum),
    ("md5sum", digests "MD5" 16 Digest.md5), ("sha1sum", digests "SHA1" 20 Digest.sha1),
    ("sha224sum", digests "SHA224" 28 Digest.sha224), ("sha256sum", digests "SHA256" 32 Digest.sha256),
    ("sha384sum", digests "SHA384" 48 Digest.sha384), ("sha512sum", digests "SHA512" 64 Digest.sha512),
    ("base64", encoding base64Alphabet), ("base32", encoding base32Alphabet), ("od", od)]

/-- The programs that run others. `launch` runs one by its name, and `execute` runs a script and gives what it
writes. -/
def running (launch : Launching) (execute : Call → World → List Char → World × Bytes) :
    List (String × Work) :=
  [("find", find launch), ("xargs", xargs launch), ("sed", sed execute), ("awk", awk launch),
    ("mawk", awk launch)]

end SbtWorkspace.Simulation.Utility
