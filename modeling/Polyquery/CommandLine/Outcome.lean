import Polyquery.Text

/-!
# Outcomes

What a run of the program leaves behind: what it printed as its answer, what it reported beside it, and
whether it succeeded.
-/

namespace Polyquery
namespace CommandLine

structure Outcome where
  code : UInt32
  output : Text
  report : Text
  deriving Repr, DecidableEq

def lines (texts : List Text) : Text :=
  texts.flatMap fun text => text ++ ['\n']

namespace Outcome

def failure : UInt32 := 1

def misuse : UInt32 := 2

def hanging (width : Nat) (text : Text) : Text :=
  text.flatMap fun c => if c = '\n' then '\n' :: List.replicate width ' ' else [c]

def numbered (index : Nat) (cause : Text) : Text :=
  let number := Text.decimal index
  List.replicate (5 - number.length) ' ' ++ number ++ ": ".toList ++ hanging 7 cause

/-- An error with its causes, the nearest one first.  Several causes are numbered. -/
def errorReport (error : Text) (causes : List Text) : Text :=
  let heading := "Error: ".toList ++ error
  match causes with
  | [] => lines [heading]
  | [cause] => lines [heading, [], "Caused by:".toList, "    ".toList ++ hanging 4 cause]
  | _ =>
    lines ([heading, [], "Caused by:".toList] ++
      causes.zipIdx.map fun (cause, index) => numbered index cause)

/-- The outcome of a run that failed.  The first text of the chain says what failed, the others why. -/
def failed (chain : List Text) : Outcome :=
  { code := failure
    output := []
    report := errorReport (chain.headD []) chain.tail }

def after (outcome : Outcome) (report : Text) : Outcome :=
  { outcome with report := report ++ outcome.report }

end Outcome
end CommandLine
end Polyquery
