import SopDocs.Sorted
import SopDocs.Tree.Table
/-!
Glossaries: terms with their definitions, in ascending order of the terms.
-/

namespace SopDocs

structure Glossary where
  entries : List (String × String)
deriving DecidableEq, Inhabited

namespace Glossary

def empty : Glossary := ⟨[]⟩

def insert (g : Glossary) (term definition : String) : Glossary :=
  ⟨Sorted.put term definition g.entries⟩

def definition? (g : Glossary) (term : String) : Option String :=
  Sorted.get? term g.entries

def contains (g : Glossary) (term : String) : Bool := (g.definition? term).isSome

def terms (g : Glossary) : List String := Sorted.keys g.entries

/-- A row defines its first cell, unless that is empty, as its second cell. -/
def addRow (g : Glossary) (row : Tree.Row) : Glossary :=
  match row with
  | [] => g
  | term :: rest => if term.isEmpty then g else g.insert term (rest.headD "")

def ofRows (rows : List Tree.Row) : Glossary := rows.foldl addRow empty

/-- The glossary of a document: the body rows of its first glossary table. -/
def ofTree (root : Tree.Node) : Glossary :=
  match Tree.tableWith? Tree.glossaryHeader root with
  | none => empty
  | some table => ofRows table.bodyRows

/-- A glossary of terms without definitions. -/
def ofTerms (terms : List String) : Glossary := terms.foldl (fun g t => g.insert t "") empty

end Glossary

end SopDocs
