import Polyquery.Proofs.Text.Runs
import Polyquery.Text.Trim

/-!
# Trimmed texts

A text is its trimmed text with white space on both sides, and no other text without white space at its
ends has that property.
-/

namespace Polyquery
namespace Text

open Unicode

theorem isBlankText_iff {text : Text} :
    isBlankText text = true ↔ ∀ c ∈ text, isBlank c = true := by
  simp [isBlankText]

theorem not_isBlankText_of_mem {c : Char} {text : Text} (hc : c ∈ text)
    (hblank : isBlank c = false) : isBlankText text = false := by
  cases htext : isBlankText text with
  | false => rfl
  | true =>
      rw [isBlankText_iff.mp htext c hc] at hblank
      exact absurd hblank.symm Bool.false_ne_true

theorem eq_nil_of_isBlankText {text : Text} (havoids : Avoids isBlank text)
    (hblank : isBlankText text = true) : text = [] := by
  cases text with
  | nil => rfl
  | cons c rest =>
      have hc := isBlankText_iff.mp hblank c List.mem_cons_self
      exact absurd hc (ne_true_of_eq_false (havoids c List.mem_cons_self))

theorem trimLeft_eq_nil_iff {text : Text} : trimLeft text = [] ↔ isBlankText text = true := by
  rw [trimLeft, List.dropWhile_eq_nil_iff, isBlankText_iff]

theorem exists_trimLeft_eq_cons {text : Text} (h : isBlankText text = false) :
    ∃ c tail, trimLeft text = c :: tail ∧ isBlank c = false := by
  cases htrim : trimLeft text with
  | nil =>
      rw [trimLeft_eq_nil_iff.mp htrim] at h
      exact absurd h.symm Bool.false_ne_true
  | cons c tail =>
      have hstart := startsOutside_dropWhile isBlank text
      rw [← trimLeft, htrim, startsOutside_cons] at hstart
      exact ⟨c, tail, rfl, hstart⟩

theorem exists_blank_append_trimmed (text : Text) :
    ∃ before after, isBlankText before = true ∧ isBlankText after = true ∧
      text = before ++ (trimmed text ++ after) := by
  refine ⟨text.takeWhile isBlank, takeTrailing isBlank (trimLeft text), ?_, ?_, ?_⟩
  · rw [isBlankText_iff]
    intro c hc
    exact List.mem_takeWhile_imp hc
  · rw [isBlankText_iff]
    intro c hc
    exact mem_takeTrailing hc
  · rw [trimmed, trimRight, dropTrailing_append_takeTrailing, trimLeft,
      List.takeWhile_append_dropWhile]

theorem startsOutside_trimmed (text : Text) : StartsOutside isBlank (trimmed text) :=
  startsOutside_dropTrailing (startsOutside_dropWhile isBlank text)

theorem endsOutside_trimmed (text : Text) : EndsOutside isBlank (trimmed text) :=
  endsOutside_dropTrailing isBlank (trimLeft text)

theorem trimmed_blank_append {before core after : Text} (hbefore : isBlankText before = true)
    (hne : core ≠ []) (hstart : StartsOutside isBlank core) (hend : EndsOutside isBlank core)
    (hafter : isBlankText after = true) : trimmed (before ++ (core ++ after)) = core := by
  have hrest : StartsOutside isBlank (core ++ after) := (startsOutside_append hne).mpr hstart
  rw [trimmed, trimLeft, dropWhile_append_run (isBlankText_iff.mp hbefore) hrest, trimRight,
    dropTrailing_append_run hend (isBlankText_iff.mp hafter)]

theorem trimmed_eq_self {text : Text} (hstart : StartsOutside isBlank text)
    (hend : EndsOutside isBlank text) : trimmed text = text := by
  have hall : ∀ c ∈ ([] : Text), isBlank c = true := by
    intro c hc
    cases hc
  have htrail := dropTrailing_append_run hend hall
  rw [List.append_nil] at htrail
  rw [trimmed, trimLeft, dropWhile_eq_self_of_startsOutside hstart, trimRight, htrail]

theorem trimmed_ne_nil {text : Text} (h : isBlankText text = false) : trimmed text ≠ [] := by
  intro hnil
  rcases exists_blank_append_trimmed text with ⟨before, after, hbefore, hafter, htext⟩
  rw [hnil, List.nil_append] at htext
  have hall : isBlankText text = true := by
    rw [htext, isBlankText_iff]
    intro c hc
    rcases List.mem_append.mp hc with hc | hc
    · exact isBlankText_iff.mp hbefore c hc
    · exact isBlankText_iff.mp hafter c hc
  rw [hall] at h
  exact absurd h.symm Bool.false_ne_true

theorem mem_of_mem_trimmed {c : Char} {text : Text} (h : c ∈ trimmed text) : c ∈ text := by
  rcases exists_blank_append_trimmed text with ⟨before, after, _, _, htext⟩
  rw [htext]
  exact List.mem_append_right before (List.mem_append_left after h)

end Text
end Polyquery
