/-
Closed vocabularies.

A vocabulary is a list of all its members and a name for each; a name is looked up in the
order of the list.
-/
import RetrievalTelemetry.Text.Quoted

namespace RetrievalTelemetry

/-- A name that a vocabulary does not have. -/
structure UnknownName where
  name : String
  /-- What the vocabulary is called. -/
  vocabulary : String
deriving DecidableEq, Repr

def UnknownName.message (e : UnknownName) : String :=
  Text.quoted e.name ++ " is not a valid " ++ e.vocabulary

/-- The member of a vocabulary with a given name. -/
def findNamed {α : Type} (vocabulary : String) (all : List α) (nameOf : α → String) (name : String) :
    Except UnknownName α :=
  match all.find? fun a => nameOf a == name with
  | some a => .ok a
  | none => .error ⟨name, vocabulary⟩

end RetrievalTelemetry
