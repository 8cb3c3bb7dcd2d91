import Polyquery.Files.Path
import Polyquery.Proofs.Text.Runs

/-!
# The names in a path

Taking the last part off a path, or putting another extension behind it, works on the text and has to respect
slashes and dots that mean nothing.  What comes of it is said here by the names that the texts list.
-/

namespace Polyquery

open Text

namespace Path

/-!
# Stretches and names
-/

theorem stretches_ne_nil (text : Text) : stretches text ≠ [] := by
  fun_induction stretches text with
  | case1 => exact List.cons_ne_nil _ _
  | case2 rest ih => exact List.cons_ne_nil _ _
  | case3 c rest hc hnone ih => exact List.cons_ne_nil _ _
  | case4 c rest hc stretch more hsome ih => exact List.cons_ne_nil _ _

theorem stretches_append_slash (left right : Text) :
    stretches (left ++ '/' :: right) = stretches left ++ stretches right := by
  induction left with
  | nil => rfl
  | cons c left ih =>
      by_cases hc : c = '/'
      · subst hc
        rw [List.cons_append, stretches, ih, stretches, List.cons_append]
      · rw [List.cons_append]
        cases hleft : stretches left with
        | nil => exact absurd hleft (stretches_ne_nil left)
        | cons stretch more =>
            rw [hleft, List.cons_append] at ih
            rw [stretches, ih, stretches, hleft]
            · rfl
            · exact hc
            · exact hc

theorem stretches_of_not_mem {text : Text} (h : '/' ∉ text) : stretches text = [text] := by
  induction text with
  | nil => rfl
  | cons c text ih =>
      rw [List.mem_cons, not_or] at h
      rw [stretches, ih h.right]
      exact fun hc => h.left hc.symm

def namesOf (text : Text) : List Text :=
  (stretches text).filter fun part => part ≠ [] ∧ part ≠ ['.']

theorem namesOf_append_slash (left right : Text) :
    namesOf (left ++ '/' :: right) = namesOf left ++ namesOf right := by
  rw [namesOf, stretches_append_slash, List.filter_append]
  rfl

theorem namesOf_name {name : Text} (hslash : '/' ∉ name) (hne : name ≠ []) (hdot : name ≠ ['.']) :
    namesOf name = [name] := by
  rw [namesOf, stretches_of_not_mem hslash]
  simp [hne, hdot]

theorem namesOf_trimReversed (text : Text) :
    namesOf (trimReversed text).reverse = namesOf text.reverse := by
  fun_induction trimReversed text with
  | case1 rest ih =>
      rw [ih, List.reverse_cons, namesOf_append_slash]
      exact (List.append_nil _).symm
  | case2 => rfl
  | case3 rest ih =>
      rw [ih, List.reverse_cons, List.reverse_cons, List.append_assoc, List.singleton_append,
        namesOf_append_slash]
      exact (List.append_nil _).symm
  | case4 text => rfl

theorem namesOf_trimEnd (text : Text) : namesOf (trimEnd text) = namesOf text := by
  rw [trimEnd, namesOf_trimReversed, List.reverse_reverse]

theorem trimReversed_suffix (text : Text) : trimReversed text <:+ text := by
  fun_induction trimReversed text with
  | case1 rest ih => exact ih.trans (List.suffix_cons _ _)
  | case2 => exact List.nil_suffix
  | case3 rest ih => exact ih.trans ((List.suffix_cons _ _).trans (List.suffix_cons _ _))
  | case4 text => exact List.suffix_refl text

theorem trimEnd_beginning (text : Text) : trimEnd text <+: text := by
  have hsuffix := List.reverse_prefix.mpr (trimReversed_suffix text.reverse)
  rw [List.reverse_reverse] at hsuffix
  exact hsuffix

structure Trimmed (text : Text) : Prop where
  slash : ∀ before, text ≠ before ++ ['/']
  dot : text ≠ ['.']
  slashDot : ∀ before, text ≠ before ++ ['/', '.']

theorem trimmed_trimEnd (text : Text) : Trimmed (trimEnd text) := by
  have hreversed : ∀ reversed : Text, Trimmed (trimReversed reversed).reverse := by
    intro reversed
    fun_induction trimReversed reversed with
    | case1 rest ih => exact ih
    | case2 => exact ⟨by simp, by simp, by simp⟩
    | case3 rest ih => exact ih
    | case4 text hslash hdot hslashDot =>
        refine ⟨?_, ?_, ?_⟩
        · intro before h
          exact hslash before.reverse (by simpa using congrArg List.reverse h)
        · intro h
          exact hdot (by simpa using congrArg List.reverse h)
        · intro before h
          exact hslashDot before.reverse (by simpa using congrArg List.reverse h)
  exact hreversed text.reverse

/-!
# The last part
-/

variable {path parent : Path} {before last rest : Text}

def afterLead (path : Path) : Text :=
  path.text.drop path.lead.length

theorem lead_cases (path : Path) :
    (path.lead = [] ∧ path.text = path.afterLead) ∨
      (path.lead = ['/'] ∧ path.text = '/' :: path.afterLead) ∨
      (path.lead = ['.'] ∧ path.text = '.' :: path.afterLead ∧
        (path.afterLead = [] ∨ ∃ rest, path.afterLead = '/' :: rest)) := by
  rcases path with ⟨text⟩
  unfold afterLead lead
  split
  · exact Or.inr (Or.inl ⟨rfl, by simp_all⟩)
  · exact Or.inr (Or.inr ⟨rfl, by simp_all⟩)
  · exact Or.inr (Or.inr ⟨rfl, by simp_all⟩)
  · exact Or.inl ⟨rfl, rfl⟩

theorem namesOf_lead_append (h : rest <+: path.afterLead) :
    namesOf (path.lead ++ rest) = namesOf rest := by
  rcases path.lead_cases with ⟨hlead, _⟩ | ⟨hlead, _⟩ | ⟨hlead, _, hslash⟩
  · rw [hlead, List.nil_append]
  · rw [hlead]
    exact namesOf_append_slash [] rest
  · rw [hlead]
    cases rest with
    | nil => rfl
    | cons c rest =>
        rcases hslash with hnil | ⟨tail, htail⟩
        · rw [hnil] at h
          exact absurd h (by simp)
        · rw [htail, List.cons_prefix_cons] at h
          rw [h.left]
          exact (namesOf_append_slash ['.'] rest).trans (namesOf_append_slash [] rest).symm

theorem namesOf_text (path : Path) : namesOf path.text = namesOf path.afterLead := by
  have hwhole : path.text = path.lead ++ path.afterLead := by
    rcases path.lead_cases with ⟨hlead, htext⟩ | ⟨hlead, htext⟩ | ⟨hlead, htext, _⟩
    · rw [hlead, List.nil_append]
      exact htext
    · rw [hlead]
      exact htext
    · rw [hlead]
      exact htext
  rw [hwhole, namesOf_lead_append (List.prefix_refl _)]

theorem ends_with_slash {text : Text} (h : EndsOutside (· ≠ '/') text) :
    text = [] ∨ ∃ front, text = front ++ ['/'] := by
  rcases List.eq_nil_or_concat' text with hnil | ⟨front, c, rfl⟩
  · exact Or.inl hnil
  · have hc : c = '/' := by simpa using h c (by simp)
    exact Or.inr ⟨front, by rw [hc]⟩

theorem body?_eq_some (h : path.body? = some (before, last)) :
    trimEnd path.afterLead = before ++ last ∧ last ≠ [] ∧ '/' ∉ last ∧
      (before = [] ∨ ∃ front, before = front ++ ['/']) := by
  rw [body?] at h
  split at h
  · cases h
  · rename_i hlast
    rw [Option.some.injEq, Prod.mk.injEq] at h
    rcases h with ⟨rfl, rfl⟩
    refine ⟨(dropTrailing_append_takeTrailing _ _).symm, hlast, ?_, ?_⟩
    · intro hslash
      exact absurd (mem_takeTrailing hslash) (by simp)
    · exact ends_with_slash (endsOutside_dropTrailing _ _)

theorem body?_eq_none (h : path.body? = none) : namesOf path.text = [] := by
  rw [body?] at h
  split at h
  · rename_i hlast
    have hend := endsOutside_dropTrailing (· ≠ '/') (trimEnd path.afterLead)
    have hall := dropTrailing_append_takeTrailing (· ≠ '/') (trimEnd path.afterLead)
    rw [afterLead, hlast, List.append_nil] at hall
    rw [afterLead, hall] at hend
    rcases ends_with_slash hend with hnil | ⟨front, hfront⟩
    · rw [namesOf_text, ← namesOf_trimEnd, afterLead, hnil]
      rfl
    · exact absurd hfront ((trimmed_trimEnd path.afterLead).slash front)
  · cases h

theorem names_of_body? (h : path.body? = some (before, last)) :
    last ≠ ['.'] ∧ namesOf path.text = namesOf before ++ [last] := by
  rcases body?_eq_some h with ⟨htrim, hne, hslash, hbefore⟩
  have htrimmed := trimmed_trimEnd path.afterLead
  rw [htrim] at htrimmed
  have hdot : last ≠ ['.'] := by
    rintro rfl
    rcases hbefore with rfl | ⟨front, rfl⟩
    · exact htrimmed.dot rfl
    · exact htrimmed.slashDot front (by simp)
  refine ⟨hdot, ?_⟩
  rw [namesOf_text, ← namesOf_trimEnd, htrim]
  rcases hbefore with rfl | ⟨front, rfl⟩
  · rw [List.nil_append, namesOf_name hslash hne hdot]
    rfl
  · rw [List.append_assoc, List.singleton_append, namesOf_append_slash, namesOf_append_slash,
      namesOf_name hslash hne hdot, List.append_assoc]
    rfl

theorem front_cases (h : path.body? = some (before, last)) :
    path.lead ++ before = [] ∨ ∃ front, path.lead ++ before = front ++ ['/'] := by
  rcases body?_eq_some h with ⟨htrim, hne, hslash, hbefore⟩
  rcases hbefore with rfl | ⟨front, rfl⟩
  · rcases path.lead_cases with ⟨hlead, _⟩ | ⟨hlead, _⟩ | ⟨hlead, _, hafter⟩
    · exact Or.inl (by rw [hlead, List.nil_append])
    · exact Or.inr ⟨[], by rw [hlead, List.append_nil, List.nil_append]⟩
    · -- behind a dot that leads there is a slash, which would begin the last part
      have hbeginning := trimEnd_beginning path.afterLead
      rw [htrim, List.nil_append] at hbeginning
      rcases hafter with hnil | ⟨rest, hrest⟩
      · rw [hnil, List.prefix_nil] at hbeginning
        exact absurd hbeginning hne
      · cases last with
        | nil => exact absurd rfl hne
        | cons c last =>
            rw [hrest, List.cons_prefix_cons] at hbeginning
            rw [hbeginning.left] at hslash
            exact absurd List.mem_cons_self hslash
  · exact Or.inr ⟨path.lead ++ front, by rw [List.append_assoc]⟩

/-!
# Parents
-/

theorem namesOf_parent (h : path.body? = some (before, last)) (hparent : path.parent? = some parent) :
    namesOf parent.text = namesOf before := by
  rw [parent?, h, Option.some.injEq] at hparent
  rw [← hparent]
  have hbeginning : trimEnd before <+: path.afterLead := by
    have htrim := trimEnd_beginning path.afterLead
    rw [(body?_eq_some h).left] at htrim
    exact (trimEnd_beginning before).trans ((List.prefix_append before last).trans htrim)
  exact (namesOf_lead_append hbeginning).trans (namesOf_trimEnd before)

theorem length_namesOf_parent_le (hparent : path.parent? = some parent) :
    (namesOf parent.text).length ≤ (namesOf path.text).length := by
  cases hbody : path.body? with
  | none =>
      rw [parent?, hbody] at hparent
      simp only [] at hparent
      split at hparent
      · cases hparent
        exact Nat.zero_le _
      · cases hparent
  | some body =>
      rcases body with ⟨before, last⟩
      rw [namesOf_parent hbody hparent, (names_of_body? hbody).right, List.length_append]
      exact Nat.le_add_right _ _

/-!
# The last part of a path that names a file
-/

theorem namesOf_text_eq_filter (path : Path) :
    namesOf path.text = path.parts.filter (· ≠ ['.']) := by
  rw [namesOf, parts, List.filter_filter]
  congr 1
  funext part
  simp [Bool.and_comm]

theorem namesOf_of_parts {earlier : List Text} (h : path.parts = earlier ++ [last])
    (hdot : last ≠ ['.']) : namesOf path.text = earlier.filter (· ≠ ['.']) ++ [last] := by
  rw [namesOf_text_eq_filter, h, List.filter_append, List.filter_cons_of_pos (by simpa using hdot)]
  rfl

theorem body?_of_parts {earlier : List Text} (h : path.parts = earlier ++ [last])
    (hdot : last ≠ ['.']) : ∃ before, path.body? = some (before, last) ∧
      namesOf before = earlier.filter (· ≠ ['.']) := by
  have hnames := namesOf_of_parts h hdot
  cases hbody : path.body? with
  | none =>
      rw [body?_eq_none hbody] at hnames
      exact absurd hnames.symm (List.append_ne_nil_of_right_ne_nil _ (List.cons_ne_nil _ _))
  | some body =>
      rcases body with ⟨before, name⟩
      rw [(names_of_body? hbody).right] at hnames
      rcases List.append_inj' hnames rfl with ⟨hbefore, hlast⟩
      rw [List.singleton_inj.mp hlast]
      exact ⟨before, rfl, hbefore⟩

theorem name?_of_parts {earlier : List Text} (h : path.parts = earlier ++ [last])
    (hdot : last ≠ ['.']) (hback : last ≠ "..".toList) : path.name? = some last := by
  rcases body?_of_parts h hdot with ⟨before, hbody, _⟩
  rw [name?, hbody]
  exact if_neg hback

/-!
# Extensions
-/

variable {extension stem name front : Text}

theorem splitName_stem (hname : name ≠ []) (hslash : '/' ∉ name) :
    (splitName name).1 ≠ [] ∧ '/' ∉ (splitName name).1 := by
  rw [splitName]
  split
  · exact ⟨hname, hslash⟩
  · rename_i hstem
    refine ⟨hstem, ?_⟩
    intro hmem
    have hbefore := (List.dropLast_sublist _).subset hmem
    have hsplit := dropTrailing_append_takeTrailing (· ≠ '.') name
    rw [← hsplit] at hslash
    exact hslash (List.mem_append_left _ hbefore)

theorem splitName_extension (hstem : stem ≠ []) (hdot : '.' ∉ extension) :
    splitName (stem ++ '.' :: extension) = (stem, some extension) := by
  have hrun : ∀ c ∈ extension, (decide (c ≠ '.')) = true := by
    intro c hc
    rw [decide_eq_true_iff]
    rintro rfl
    exact hdot hc
  have hbody : EndsOutside (· ≠ '.') (stem ++ ['.']) := by
    rw [endsOutside_append (List.cons_ne_nil _ _)]
    exact (avoids_cons.mpr ⟨by simp, avoids_nil⟩).endsOutside
  have htext : stem ++ '.' :: extension = (stem ++ ['.']) ++ extension := by simp
  rw [splitName, htext, takeTrailing_append_run hbody hrun, dropTrailing_append_run hbody hrun,
    List.dropLast_concat, if_neg hstem]

theorem withExtension_cases (path : Path) (extension : Text) :
    (path.withExtension extension).name? = none ∨
      ∃ front stem, (path.withExtension extension).text = front ++ (stem ++ '.' :: extension) ∧
        (front = [] ∨ ∃ earlier, front = earlier ++ ['/']) ∧ stem ≠ [] ∧ '/' ∉ stem := by
  have hput : ∀ cut : Path, (cut.putExtension extension).name? = none ∨
      ∃ front stem, (cut.putExtension extension).text = front ++ (stem ++ '.' :: extension) ∧
        (front = [] ∨ ∃ earlier, front = earlier ++ ['/']) ∧ stem ≠ [] ∧ '/' ∉ stem := by
    intro cut
    cases hbody : cut.body? with
    | none =>
        left
        simp [putExtension, hbody, name?]
    | some body =>
        rcases body with ⟨before, last⟩
        rcases body?_eq_some hbody with ⟨_, hne, hslash, _⟩
        by_cases hback : last = "..".toList
        · left
          have hname : cut.name? = none := by
            rw [name?, hbody]
            exact if_pos hback
          simp only [putExtension, hbody, hname]
        · right
          have hname : cut.name? = some last := by
            rw [name?, hbody]
            exact if_neg hback
          rcases splitName_stem hne hslash with ⟨hstem, hplain⟩
          refine ⟨cut.lead ++ before, (splitName last).1, ?_, front_cases hbody, hstem, hplain⟩
          simp [putExtension, hbody, hname]
  exact hput { text := path.text.take (path.text.length - (path.extension?.getD []).length) }

theorem parts_withExtension (hslash : '/' ∉ extension)
    (hfront : front = [] ∨ ∃ earlier, front = earlier ++ ['/']) (hplain : '/' ∉ stem) :
    ∃ earlier, (Path.mk (front ++ (stem ++ '.' :: extension))).parts =
      earlier ++ [stem ++ '.' :: extension] := by
  have hname : '/' ∉ stem ++ '.' :: extension := by
    simp [hplain, hslash]
  rcases hfront with rfl | ⟨earlier, rfl⟩
  · refine ⟨[], ?_⟩
    rw [parts, List.nil_append, stretches_of_not_mem hname]
    simp
  · refine ⟨(stretches earlier).filter (· ≠ []), ?_⟩
    rw [parts, List.append_assoc, List.singleton_append, stretches_append_slash,
      stretches_of_not_mem hname, List.filter_append]
    simp

end Path
end Polyquery
