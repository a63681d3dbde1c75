import DerivedFields.Text.Search

/-!
# Entities

A script that is stored in markup writes some characters as entities. The ampersand is decoded
last, so that no decoded text is decoded again.
-/

namespace DerivedFields.Script

/-- The entities in the order in which they are decoded. -/
def entities : List (List Char × Char) := [
  (['&', 'l', 't', ';'], '<'),
  (['&', 'g', 't', ';'], '>'),
  (['&', 'q', 'u', 'o', 't', ';'], '"'),
  (['&', 'a', 'p', 'o', 's', ';'], '\''),
  (['&', 'a', 'm', 'p', ';'], '&')]

/-- Replaces each of the five predefined entities by its character. -/
def decodeEntities (script : String) : String :=
  String.ofList <| entities.foldl
    (fun text (entity, c) => Text.replaceAll entity [c] text) script.toList

end DerivedFields.Script
