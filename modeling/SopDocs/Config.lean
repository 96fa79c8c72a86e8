import SopDocs.Path
/-!
The configuration of a run, with the values that hold where none is given.
-/

namespace SopDocs

structure Config where
  titlePrefix : String
  identifierPrefix : String
  imagesDir : String
  charterPath : String
  rootMarker : String
  remoteHosts : List String
  checkRemote : Bool
  requestTimeoutSecs : Nat
  exclude : List String
  reviewDays : Int
  repository : String
  baseDir : Option Path
deriving Inhabited

namespace Config

def standard : Config where
  titlePrefix := "European GDI - "
  identifierPrefix := "GDI-SOP"
  imagesDir := "images/"
  charterPath := "docs/GDI-SOP_charter.md"
  rootMarker := ".git"
  remoteHosts := ["github.com"]
  checkRemote := true
  requestTimeoutSecs := 10
  exclude := []
  reviewDays := 365
  repository := "GenomicDataInfrastructure/standard-operating-procedures"
  baseDir := none

end Config

end SopDocs
