import Sexpr.Form.Printer
import Sexpr.Reader.Basic

/-!
Reading a text, printing its first form, and reading that again.
-/

namespace Sexpr.Reader

structure RoundTrip where
  before : Form
  after : Form

namespace RoundTrip

def printed (trip : RoundTrip) : String := trip.before.print

def isSame (trip : RoundTrip) : Bool := trip.before.same trip.after

def hasSameHash (trip : RoundTrip) : Bool := decide (trip.before.key = trip.after.key)

end RoundTrip

/-- The round trip of a text with the notices of both readings, or the text that could not be
read and why. -/
def roundTrip (options : Options) (text : String) :
    Except (String × Failure) RoundTrip × List Notice :=
  let first := readFirst options text
  match first.outcome with
  | .error failure => (.error (text, failure), first.notices)
  | .ok before =>
      let second := readFirst options before.print
      let notices := first.notices ++ second.notices
      match second.outcome with
      | .error failure => (.error (before.print, failure), notices)
      | .ok after => (.ok ⟨before, after⟩, notices)

end Sexpr.Reader
