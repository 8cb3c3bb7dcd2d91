import Polyquery.Lexicon.Basic
import Polyquery.Query.Piece

/-!
# Language detection

A query may be written in every language in which each of its terms is known.  A query without terms may
be written in any language of the catalog.  Segments are read one after the other, and no further segment
is read once no language is left.
-/

namespace Polyquery
namespace Lexicon

def narrow (lexicon : Lexicon) (languages : LanguageSet) (text : Text) : LanguageSet :=
  let segment := Segment.ofText text
  if segment.hasTerm then
    let key := Text.folded segment.core
    languages.inter (.ofList (languages.toList.filter fun language =>
      (lexicon.resolveKey? key language segment.searchType).isSome))
  else languages

def narrowAll (lexicon : Lexicon) (languages : LanguageSet) : List Text → LanguageSet
  | [] => languages
  | text :: rest =>
    let narrowed := lexicon.narrow languages text
    if narrowed.isEmpty then narrowed else lexicon.narrowAll narrowed rest

def detect (lexicon : Lexicon) (text : Text) : LanguageSet :=
  lexicon.narrowAll lexicon.catalog.languages (Piece.segments text)

end Lexicon
end Polyquery
