import SopDocs.Lint.Context
/-!
The rule about images: the target of each one names the directory of images.
-/

namespace SopDocs.Lint

def imageTargets (root : Tree.Node) : List String :=
  (root.findAll .image).map fun image => image.target.getD ""

def imagePaths (ctx : Context) : List Problem :=
  let dir := ctx.conventions.imagesDir
  ((imageTargets ctx.root).filter fun url => !Text.contains url dir).map (.imageDirectory · dir)

end SopDocs.Lint
