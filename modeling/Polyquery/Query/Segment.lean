import Polyquery.Text

/-!
# Segments

A segment is the text between two separators.  Punctuation and digits around its term say how the term
is meant, so a segment is split into what leads, the core, and what trails:

* `!@fire` is `!@`, `fire` and nothing;
* `cp1500-2500` is nothing, `cp` and `1500-2500`;
* `4*` is `4`, nothing and `*`.

The leading run is taken first, as far as it goes; the trailing run is taken from what remains.
-/

namespace Polyquery

/-- How the marks around a term want it to be read.  One word can name both a type of creature and an
attack, so a look-up asks for one of these. -/
inductive SearchType where
  /-- A move: the leading part holds the move marker. -/
  | move
  /-- A search by number: the trailing part holds a digit, a dash or a star. -/
  | search
  | name
  deriving Repr, DecidableEq

structure Segment where
  lead : Text
  core : Text
  trail : Text
  deriving Repr, DecidableEq

namespace Segment

def moveMarker : Char := '@'

def tagMarker : Char := '#'

def isLeadChar (c : Char) : Bool :=
  c == ' ' || c == '\n' || c == '!' || c == '+' || c == '@' || c == '#' || c == '-' || c.isDigit

def isTrailChar (c : Char) : Bool :=
  c == ' ' || c == '\n' || c == '-' || c == '*' || c.isDigit

def ofText (text : Text) : Segment :=
  let rest := text.dropWhile isLeadChar
  { lead := text.takeWhile isLeadChar
    core := Text.dropTrailing isTrailChar rest
    trail := Text.takeTrailing isTrailChar rest }

def withCore (segment : Segment) (core : Text) : Text :=
  segment.lead ++ core ++ segment.trail

def searchType (segment : Segment) : SearchType :=
  if segment.lead.contains moveMarker then .move
  else if segment.trail.any fun c => c.isDigit || c == '-' || c == '*' then .search
  else .name

def isTag (segment : Segment) : Bool :=
  segment.lead.contains tagMarker

/-- Tags and bare markers carry nothing to look up. -/
def hasTerm (segment : Segment) : Bool :=
  !segment.core.isEmpty && !segment.isTag

theorem withCore_core_ofText (text : Text) : (ofText text).withCore (ofText text).core = text := by
  simp [withCore, ofText, List.append_assoc, Text.dropTrailing_append_takeTrailing]

end Segment
end Polyquery
