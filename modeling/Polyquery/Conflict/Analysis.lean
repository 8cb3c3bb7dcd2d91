import Polyquery.Conflict.Extraction
import Polyquery.Query.Check
import Polyquery.Query.Parser

/-!
# Analysis of a query text

A text is checked, parsed and searched for conflicts.  A text that fails on the way has no terms and one
conflict, which says what is wrong.
-/

namespace Polyquery
namespace Query

def analyzeWithTree (text : Text) (rules : ConflictRules) : Option Query × Extraction :=
  match check text with
  | .error error => (none, .failed .refused error.message)
  | .ok () =>
    match parse text with
    | .ok (some query) => (some query, query.extract rules)
    | .ok none => (none, .empty)
    | .error error => (none, .failed .unparsed error.message)

def analyze (text : Text) (rules : ConflictRules) : Extraction :=
  (analyzeWithTree text rules).2

end Query
end Polyquery
