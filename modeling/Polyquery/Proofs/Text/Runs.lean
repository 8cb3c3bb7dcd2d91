import Mathlib.Data.List.DropRight
import Mathlib.Data.List.TakeWhile
import Polyquery.Text

/-!
# Runs of characters

Scanning takes the longest run of characters of one class from an end of a text.  When a text is put
together from a run and a remainder that does not go on with it, scanning gives back the two parts.
-/

namespace Polyquery
namespace Text

variable {p : Char → Bool}

def StartsOutside (p : Char → Bool) (text : Text) : Prop :=
  ∀ c ∈ text.head?, p c = false

def BeginsWith (p : Char → Bool) (text : Text) : Prop :=
  ∃ c ∈ text.head?, p c = true

def EndsOutside (p : Char → Bool) (text : Text) : Prop :=
  ∀ c ∈ text.getLast?, p c = false

def Avoids (p : Char → Bool) (text : Text) : Prop :=
  ∀ c ∈ text, p c = false

-- only the characters of the text are tried, not all there are
instance (p : Char → Bool) (text : Text) : Decidable (StartsOutside p text) :=
  @Option.decidableForallMem Char (fun c => p c = false) (fun _ => inferInstance) text.head?

instance (p : Char → Bool) (text : Text) : Decidable (BeginsWith p text) :=
  @Option.decidableExistsMem Char (fun c => p c = true) (fun _ => inferInstance) text.head?

instance (p : Char → Bool) (text : Text) : Decidable (EndsOutside p text) :=
  @Option.decidableForallMem Char (fun c => p c = false) (fun _ => inferInstance) text.getLast?

instance (p : Char → Bool) (text : Text) : Decidable (Avoids p text) :=
  @List.decidableBAll Char (fun c => p c = false) (fun _ => inferInstance) text

theorem Avoids.startsOutside {text : Text} (h : Avoids p text) : StartsOutside p text := by
  intro c hc
  exact h c (List.mem_of_mem_head? hc)

theorem Avoids.endsOutside {text : Text} (h : Avoids p text) : EndsOutside p text := by
  intro c hc
  exact h c (List.mem_of_mem_getLast? hc)

theorem avoids_append {left right : Text} :
    Avoids p (left ++ right) ↔ Avoids p left ∧ Avoids p right :=
  List.forall_mem_append

theorem avoids_cons {c : Char} {rest : Text} :
    Avoids p (c :: rest) ↔ p c = false ∧ Avoids p rest :=
  List.forall_mem_cons

theorem avoids_nil : Avoids p [] := by
  intro c hc
  cases hc

/-!
# Leading runs
-/

theorem startsOutside_cons {c : Char} {rest : Text} :
    StartsOutside p (c :: rest) ↔ p c = false := by
  simp [StartsOutside]

theorem startsOutside_append {left right : Text} (hne : left ≠ []) :
    StartsOutside p (left ++ right) ↔ StartsOutside p left := by
  cases left with
  | nil => exact absurd rfl hne
  | cons c rest =>
      rw [List.cons_append, startsOutside_cons, startsOutside_cons]

theorem beginsWith_cons {c : Char} {rest : Text} :
    BeginsWith p (c :: rest) ↔ p c = true := by
  simp [BeginsWith]

theorem beginsWith_append {left right : Text} (hne : left ≠ []) :
    BeginsWith p (left ++ right) ↔ BeginsWith p left := by
  cases left with
  | nil => exact absurd rfl hne
  | cons c rest => rw [List.cons_append, beginsWith_cons, beginsWith_cons]

theorem dropWhile_eq_self_of_startsOutside {rest : Text} (h : StartsOutside p rest) :
    rest.dropWhile p = rest := by
  cases rest with
  | nil => rfl
  | cons c rest =>
      have hc : p c = false := startsOutside_cons.mp h
      simp [hc]

theorem takeWhile_eq_nil_of_startsOutside {rest : Text} (h : StartsOutside p rest) :
    rest.takeWhile p = [] := by
  cases rest with
  | nil => rfl
  | cons c rest =>
      have hc : p c = false := startsOutside_cons.mp h
      simp [hc]

theorem startsOutside_dropWhile (p : Char → Bool) (text : Text) :
    StartsOutside p (text.dropWhile p) := by
  intro c hc
  have h := List.head?_dropWhile_not p text
  rw [Option.mem_def.mp hc] at h
  exact h

theorem dropWhile_append_run {run rest : Text} (hrun : ∀ c ∈ run, p c = true)
    (hrest : StartsOutside p rest) : (run ++ rest).dropWhile p = rest := by
  rw [List.dropWhile_append_of_pos hrun]
  exact dropWhile_eq_self_of_startsOutside hrest

theorem takeWhile_append_run {run rest : Text} (hrun : ∀ c ∈ run, p c = true)
    (hrest : StartsOutside p rest) : (run ++ rest).takeWhile p = run := by
  rw [List.takeWhile_append_of_pos hrun, takeWhile_eq_nil_of_startsOutside hrest,
    List.append_nil]

/-!
# Trailing runs
-/

theorem takeTrailing_eq_rtakeWhile (p : Char → Bool) (text : Text) :
    takeTrailing p text = text.rtakeWhile p := rfl

theorem startsOutside_reverse {text : Text} :
    StartsOutside p text.reverse ↔ EndsOutside p text := by
  simp [StartsOutside, EndsOutside]

theorem endsOutside_dropTrailing (p : Char → Bool) (text : Text) :
    EndsOutside p (dropTrailing p text) := by
  rw [← startsOutside_reverse, dropTrailing, List.reverse_reverse]
  exact startsOutside_dropWhile p text.reverse

theorem mem_takeTrailing {c : Char} {text : Text} (h : c ∈ takeTrailing p text) : p c = true := by
  rw [takeTrailing_eq_rtakeWhile] at h
  exact List.mem_rtakeWhile_imp h

theorem endsOutside_append {left right : Text} (hne : right ≠ []) :
    EndsOutside p (left ++ right) ↔ EndsOutside p right := by
  rw [← startsOutside_reverse, List.reverse_append,
    startsOutside_append (by simpa using hne), startsOutside_reverse]

theorem dropTrailing_append_run {body run : Text} (hbody : EndsOutside p body)
    (hrun : ∀ c ∈ run, p c = true) : dropTrailing p (body ++ run) = body := by
  rw [dropTrailing, List.reverse_append, dropWhile_append_run (by simpa using hrun)
    (startsOutside_reverse.mpr hbody), List.reverse_reverse]

theorem takeTrailing_append_run {body run : Text} (hbody : EndsOutside p body)
    (hrun : ∀ c ∈ run, p c = true) : takeTrailing p (body ++ run) = run := by
  rw [takeTrailing, List.reverse_append, takeWhile_append_run (by simpa using hrun)
    (startsOutside_reverse.mpr hbody), List.reverse_reverse]

theorem takeTrailing_append_break {c : Char} (hc : p c = false) (left right : Text) :
    takeTrailing p (left ++ c :: right) = takeTrailing p right := by
  have hsplit := dropTrailing_append_takeTrailing p right
  have hbody : EndsOutside p (left ++ c :: dropTrailing p right) := by
    rw [endsOutside_append (List.cons_ne_nil _ _)]
    by_cases hnil : dropTrailing p right = []
    · rw [hnil]
      exact (avoids_cons.mpr ⟨hc, avoids_nil⟩).endsOutside
    · rw [← List.singleton_append, endsOutside_append hnil]
      exact endsOutside_dropTrailing p right
  have hrun : ∀ d ∈ takeTrailing p right, p d = true := fun d hd => mem_takeTrailing hd
  have happend := takeTrailing_append_run hbody hrun
  rw [List.append_assoc, List.cons_append, hsplit] at happend
  exact happend

theorem dropTrailing_append {body : Text} (hbody : EndsOutside p body) (rest : Text) :
    dropTrailing p (body ++ rest) = body ++ dropTrailing p rest := by
  have hrun : ∀ c ∈ takeTrailing p rest, p c = true := fun c hc => mem_takeTrailing hc
  have hend : EndsOutside p (body ++ dropTrailing p rest) := by
    by_cases hnil : dropTrailing p rest = []
    · rw [hnil, List.append_nil]
      exact hbody
    · exact (endsOutside_append hnil).mpr (endsOutside_dropTrailing p rest)
  have happend := dropTrailing_append_run hend hrun
  rw [List.append_assoc, dropTrailing_append_takeTrailing] at happend
  exact happend

theorem dropTrailing_ne_nil {c : Char} {text : Text} (hmem : c ∈ text) (hc : p c = false) :
    dropTrailing p text ≠ [] := by
  intro hnil
  have hsplit := dropTrailing_append_takeTrailing p text
  rw [hnil, List.nil_append] at hsplit
  rw [← hsplit] at hmem
  rw [mem_takeTrailing hmem] at hc
  cases hc

theorem startsOutside_dropTrailing {q : Char → Bool} {text : Text} (h : StartsOutside q text) :
    StartsOutside q (dropTrailing p text) := by
  by_cases hnil : dropTrailing p text = []
  · rw [hnil]
    intro c hc
    cases hc
  · have hsplit := dropTrailing_append_takeTrailing p text
    rw [← hsplit] at h
    exact (startsOutside_append hnil).mp h

/-!
# Induction along the breaks of a text

A text either has no character of a class, or it is a stretch without one, then the first such character,
then a shorter text.
-/

theorem eq_append_of_not_avoids {text : Text} (h : ¬Avoids p text) :
    ∃ run c rest, text = run ++ c :: rest ∧ Avoids p run ∧ p c = true := by
  induction text with
  | nil => exact absurd avoids_nil h
  | cons d tail ih =>
      cases hd : p d with
      | true => exact ⟨[], d, tail, rfl, avoids_nil, hd⟩
      | false =>
          have htail : ¬Avoids p tail := fun hall => h (avoids_cons.mpr ⟨hd, hall⟩)
          rcases ih htail with ⟨run, c, rest, hsplit, hrun, hc⟩
          exact ⟨d :: run, c, rest, by rw [hsplit, List.cons_append],
            avoids_cons.mpr ⟨hd, hrun⟩, hc⟩

/-- A statement about all texts follows from the case without breaks and the step over the first one. -/
theorem induction_on_breaks (p : Char → Bool) {motive : Text → Prop}
    (whole : ∀ run, Avoids p run → motive run)
    (step : ∀ run c rest, Avoids p run → p c = true → motive rest → motive (run ++ c :: rest))
    (text : Text) : motive text := by
  induction hlength : text.length using Nat.strong_induction_on generalizing text with
  | _ n ih =>
      by_cases h : Avoids p text
      · exact whole text h
      · rcases eq_append_of_not_avoids h with ⟨run, c, rest, rfl, hrun, hc⟩
        refine step run c rest hrun hc (ih rest.length ?_ rest rfl)
        rw [← hlength, List.length_append, List.length_cons]
        omega

end Text
end Polyquery
