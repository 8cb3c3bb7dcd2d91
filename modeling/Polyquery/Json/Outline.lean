import Polyquery.Json.Basic
import Polyquery.Json.Mark
import Polyquery.Text.Escaped

/-!
# Outlines

The outline of a JSON text is the tree of its values as far as the text goes, with every fault at its
place.  A decoder walks the outline from left to right, asking for the types it needs, and fails at the
first place that has the wrong type or a fault.  A text whose outline has no fault is JSON.
-/

namespace Polyquery
namespace Json

inductive Stop where
  | closed
  /-- The text ends where a comma or the closing bracket is due. -/
  | ended (ending : Ending)
  /-- Something else stands there. -/
  | junk
  /-- The closing bracket comes right behind a comma. -/
  | closedAfterComma
  | endedAfterComma (ending : Ending)
  /-- An object goes on with something that is no string. -/
  | noKey
  /-- An object begins with something that is no string: what it is, or the fault in it. -/
  | noFirstKey (found : Except Fault Text)
  /-- An object goes on with a string that does not end. -/
  | brokenKey (read skipped : Fault)
  deriving Repr

inductive Outline where
  | scalar (value : Scalar)
  | array (items : List Outline) (stop : Stop)
  | object (members : List (Except Fault Text × Outline)) (stop : Stop)
  /-- No value can be read here: the fault for one who reads it and for one who skips it. -/
  | broken (read skipped : Fault)
  deriving Repr

namespace Stop

/-- The fault that a reader meets behind the entries of a list, if any. -/
def listFault? : Stop → Option Fault
  | .closed => none
  | .ended ending => some (ending.fault .endInList)
  | .closedAfterComma => some .trailingComma
  | .endedAfterComma ending => some (ending.fault .endInValue)
  | _ => some .expectedListEnd

def skippedListFault? : Stop → Option Fault
  | .closed => none
  | .ended ending => some (ending.fault .endInList)
  | .closedAfterComma => some .expectedValue
  | .endedAfterComma ending => some (ending.fault .endInValue)
  | _ => some .expectedListEnd

def tupleFault? : Stop → Option Fault
  | .closed => none
  | .ended ending => some (ending.fault .endInList)
  | .closedAfterComma => some .trailingComma
  | _ => some .trailingCharacters

def objectFault? : Stop → Option Fault
  | .closed => none
  | .ended ending => some (ending.fault .endInObject)
  | .closedAfterComma => some .trailingComma
  | .endedAfterComma ending => some (ending.fault .endInValue)
  | .junk => some .expectedObjectEnd
  | .noKey => some .keyNotString
  | .noFirstKey _ => some .keyNotString
  | .brokenKey read _ => some read

def skippedObjectFault? : Stop → Option Fault
  | .closed => none
  | .ended ending => some (ending.fault .endInObject)
  | .closedAfterComma => some .keyNotString
  | .endedAfterComma ending => some (ending.fault .endInObject)
  | .junk => some .expectedObjectEnd
  | .noKey => some .keyNotString
  | .noFirstKey _ => some .keyNotString
  | .brokenKey _ skipped => some skipped

end Stop

namespace Scalar

def describe : Scalar → Except Fault Text
  | .null => .ok "null".toList
  | .boolean b => .ok ("boolean ".toList ++ Text.quoted (if b then "true".toList else "false".toList))
  | .number numeral => numeral.quantity.map Quantity.describe
  | .string content => content.map fun text => "string ".toList ++ text.escaped

end Scalar

namespace Mark

def describe : Mark → Except Fault Text
  | .scalar value => value.describe
  | .openList => .ok "sequence".toList
  | .openObject => .ok "map".toList
  | .brokenString read _ => .error read
  | .broken read _ => .error read
  | .ended ending => .error (ending.fault .endInValue)
  | _ => .error .expectedValue

end Mark

namespace Outline

def describe : Outline → Except Fault Text
  | .scalar value => value.describe
  | .array _ _ => .ok "sequence".toList
  | .object _ _ => .ok "map".toList
  | .broken read _ => .error read

mutual

/-- The first fault met by one who skips the value. -/
def skipFault? : Outline → Option Fault
  | .scalar _ => none
  | .array items stop => skipItems? items |>.or stop.skippedListFault?
  | .object members stop => skipMembers? members |>.or stop.skippedObjectFault?
  | .broken _ skipped => some skipped

def skipItems? : List Outline → Option Fault
  | [] => none
  | item :: rest => item.skipFault?.or (skipItems? rest)

def skipMembers? : List (Except Fault Text × Outline) → Option Fault
  | [] => none
  | (_, value) :: rest => value.skipFault?.or (skipMembers? rest)

end

def missing (fault : Fault) : Outline :=
  .broken fault fault

mutual

/-- Reads a value, with a bound on the marks it takes, and gives the marks behind it. -/
def ofMarks : Nat → List Mark → Outline × List Mark
  | 0, marks => (missing .expectedValue, marks)
  | _, [] => (missing .endInValue, [])
  | bound + 1, mark :: rest =>
    match mark with
    | .scalar value => (.scalar value, rest)
    | .openList =>
      match rest with
      | .closeList :: rest => (.array [] .closed, rest)
      | .ended ending :: _ => (.array [] (.ended ending), rest)
      | _ =>
        let (items, stop, rest) := itemsOfMarks bound rest
        (.array items stop, rest)
    | .openObject =>
      match rest with
      | .closeObject :: rest => (.object [] .closed, rest)
      | .ended ending :: _ => (.object [] (.ended ending), rest)
      | .scalar (.string _) :: _ =>
        let (members, stop, rest) := membersOfMarks bound rest
        (.object members stop, rest)
      | .brokenString read skipped :: _ => (.object [] (.brokenKey read skipped), rest)
      | other :: _ => (.object [] (.noFirstKey other.describe), rest)
      | [] => (.object [] (.ended .finished), rest)
    | .brokenString read skipped => (.broken read skipped, rest)
    | .broken read skipped => (.broken read skipped, rest)
    | .ended ending => (missing (ending.fault .endInValue), mark :: rest)
    | _ => (missing .expectedValue, rest)

def itemsOfMarks : Nat → List Mark → List Outline × Stop × List Mark
  | 0, marks => ([], .junk, marks)
  | bound + 1, marks =>
    let (item, rest) := ofMarks bound marks
    match rest with
    | .closeList :: rest => ([item], .closed, rest)
    | .comma :: .closeList :: rest => ([item], .closedAfterComma, rest)
    | .comma :: .ended ending :: rest => ([item], .endedAfterComma ending, rest)
    | .comma :: rest =>
      let (items, stop, rest) := itemsOfMarks bound rest
      (item :: items, stop, rest)
    | .ended ending :: rest => ([item], .ended ending, rest)
    | _ => ([item], .junk, rest)

def membersOfMarks : Nat → List Mark → List (Except Fault Text × Outline) × Stop × List Mark
  | bound + 1, .scalar (.string key) :: .colon :: rest =>
    let (value, rest) := ofMarks bound rest
    match rest with
    | .closeObject :: rest => ([(key, value)], .closed, rest)
    | .comma :: .closeObject :: rest => ([(key, value)], .closedAfterComma, rest)
    | .comma :: .ended ending :: rest => ([(key, value)], .endedAfterComma ending, rest)
    | .comma :: .scalar (.string next) :: rest =>
      let (members, stop, rest) := membersOfMarks bound (.scalar (.string next) :: rest)
      ((key, value) :: members, stop, rest)
    | .comma :: .brokenString read skipped :: rest =>
      ([(key, value)], .brokenKey read skipped, rest)
    | .comma :: rest => ([(key, value)], .noKey, rest)
    | .ended ending :: rest => ([(key, value)], .ended ending, rest)
    | _ => ([(key, value)], .junk, rest)
  | _, .scalar (.string key) :: .ended ending :: rest =>
    ([(key, missing (ending.fault .endInObject))], .closed, rest)
  | _, .scalar (.string key) :: rest => ([(key, missing .expectedColon)], .closed, rest)
  | _, marks => ([], .junk, marks)

end

def ofSymbols (symbols : List Symbol) : Outline × Option Fault :=
  let marks := Mark.list symbols
  let (value, rest) := ofMarks (2 * marks.length + 1) marks
  match rest with
  | [.ended .finished] => (value, none)
  | .ended (.unreadable reason) :: _ => (value, some (.unreadable reason))
  | _ => (value, some .trailingCharacters)

end Outline
end Json
end Polyquery
