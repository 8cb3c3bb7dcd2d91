import Polyquery.Unicode.SearchTree

/-!
# Spans of simple case mappings

Most case mappings move a whole alphabet by one fixed distance, or every second letter of a script that
alternates capitals and small letters.  A span records such a stretch.
-/

namespace Polyquery
namespace Unicode

/-- Every `stride`-th code point from `first` to `last` maps to the one `shift` places further on. -/
structure CaseSpan where
  first : Nat
  last : Nat
  stride : Nat
  shift : Int
  deriving Repr, DecidableEq

namespace CaseSpan

def interval (span : CaseSpan) : Interval :=
  { first := span.first, last := span.last }

def covers (span : CaseSpan) (code : Nat) : Bool :=
  span.interval.covers code && decide ((code - span.first) % span.stride = 0)

def image (span : CaseSpan) (code : Nat) : Char :=
  Char.ofNat (Int.toNat (code + span.shift))

end CaseSpan

/-- The image of a character under the span that covers it, and the character itself if none does. -/
def shiftCase (spans : SearchTree CaseSpan) (c : Char) : Char :=
  match spans.find? CaseSpan.interval c.toNat with
  | some span => if span.covers c.toNat then span.image c.toNat else c
  | none => c

end Unicode
end Polyquery
