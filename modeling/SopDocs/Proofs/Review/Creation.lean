import SopDocs.Proofs.Exchange
import SopDocs.Proofs.Review.Entry

/-!
# What it takes to create an issue

A draft is posted to the issues of a repository, by one request that holds all of it. It has become
an issue if the response is a success that tells of one. Without an address for the issues nothing
is sent.
-/

namespace SopDocs.Review.Tracker

open Web (Request Transport Url)

variable {tracker : Tracker} {transport : Transport} {draft : Draft} {issue : Issue} {url : Url}
  {requests : List Request}

end SopDocs.Review.Tracker
