/-!
# Methods

The methods of requests as the views of the site tell them apart.
-/

namespace Http

inductive Method where
  | GET | HEAD | POST | PUT | DELETE | OPTIONS | other
deriving DecidableEq, Repr

end Http
