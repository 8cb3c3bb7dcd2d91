import Polyquery.Lexicon.Document
import Polyquery.Proofs.Distinct
import Polyquery.Proofs.Lexicon.Rendering

/-!
# Warnings of a translation

Every segment that gets a new term meets the warnings twice, with the term it had and with the term it has
now.  What it meets is reported unless the warning is meant for another reading of the term, or a warning of
the same term, language and side has been reported before.  So of all that is met and meant, the first of each
kind is reported, in the order of the query.
-/

namespace Polyquery

/-!
# First entries
-/

section FirstEntries

variable {α β γ : Type} [DecidableEq β] {key : α → β} {entries : List α} {a : α}

/-- The entries before which the list has none with the same key. -/
def firstByKey (key : α → β) (entries : List α) : List α :=
  (entries.zipIdx.filter fun entry =>
    (entries.take entry.2).all fun earlier => decide (key earlier ≠ key entry.1)).map Prod.fst

theorem firstByKey_concat (key : α → β) (entries : List α) (a : α) :
    firstByKey key (entries ++ [a]) =
      firstByKey key entries ++
        if entries.all fun earlier => decide (key earlier ≠ key a) then [a] else [] := by
  have hold : (entries.zipIdx.filter fun entry =>
      ((entries ++ [a]).take entry.2).all fun earlier => decide (key earlier ≠ key entry.1)) =
        entries.zipIdx.filter fun entry =>
          (entries.take entry.2).all fun earlier => decide (key earlier ≠ key entry.1) := by
    apply List.filter_congr
    rintro ⟨b, index⟩ hmem
    have hindex : index < entries.length :=
      (List.getElem?_eq_some_iff.mp (List.mk_mem_zipIdx_iff_getElem?.mp hmem)).choose
    rw [List.take_append_of_le_length (Nat.le_of_lt hindex)]
  rw [firstByKey, List.zipIdx_append, List.filter_append, List.map_append, hold, firstByKey]
  congr 1
  rw [List.zipIdx_singleton, List.filter_cons, Nat.zero_add, List.take_left]
  split
  · rfl
  · rfl

/-- Keeping new keys entry by entry keeps the first entry of each key. -/
theorem distinctBy_eq_firstByKey (key : α → β) (entries : List α) :
    distinctBy key entries = firstByKey key entries := by
  induction entries using List.reverseRecOn with
  | nil => rfl
  | append_singleton entries a ih => rw [distinctBy_concat, firstByKey_concat, ih]

theorem mem_distinctBy_iff :
    a ∈ distinctBy key entries ↔
      ∃ before after, entries = before ++ a :: after ∧ ∀ earlier ∈ before, key earlier ≠ key a := by
  induction entries with
  | nil => simp [distinctBy]
  | cons first rest ih =>
      rw [distinctBy, List.mem_cons, List.mem_filter, decide_eq_true_iff, ih]
      constructor
      · intro h
        rcases h with rfl | ⟨⟨before, after, rfl, hbefore⟩, hne⟩
        · refine ⟨[], rest, rfl, ?_⟩
          intro earlier hearlier
          cases hearlier
        · exact ⟨first :: before, after, rfl,
            List.forall_mem_cons.mpr ⟨hne.symm, hbefore⟩⟩
      · intro h
        rcases h with ⟨before, after, hsplit, hbefore⟩
        cases before with
        | nil =>
            cases hsplit
            exact Or.inl rfl
        | cons b before =>
            cases hsplit
            rcases List.forall_mem_cons.mp hbefore with ⟨hne, hbefore⟩
            exact Or.inr ⟨⟨before, after, rfl, hbefore⟩, hne.symm⟩

/-- What is left out by `f` does not stand in the way of a later entry with its key. -/
theorem mem_distinctBy_filterMap_iff {f : γ → Option α} {items : List γ} :
    a ∈ distinctBy key (items.filterMap f) ↔
      ∃ before item after, items = before ++ item :: after ∧ f item = some a ∧
        ∀ earlier ∈ before, ∀ b, f earlier = some b → key b ≠ key a := by
  rw [mem_distinctBy_iff]
  constructor
  · intro h
    rcases h with ⟨before, after, hsplit, hbefore⟩
    rcases List.filterMap_eq_append_iff.mp hsplit with ⟨left, right, rfl, rfl, hright⟩
    rcases List.filterMap_eq_cons_iff.mp hright with ⟨skipped, item, rest, rfl, hskipped, ha, _⟩
    refine ⟨left ++ skipped, item, rest, (List.append_assoc _ _ _).symm, ha, ?_⟩
    intro earlier hearlier b hb
    rcases List.mem_append.mp hearlier with hearlier | hearlier
    · exact hbefore b (List.mem_filterMap.mpr ⟨earlier, hearlier, hb⟩)
    · rw [hskipped earlier hearlier] at hb
      cases hb
  · intro h
    rcases h with ⟨before, item, after, rfl, ha, hbefore⟩
    refine ⟨before.filterMap f, after.filterMap f, ?_, ?_⟩
    · rw [List.filterMap_append, List.filterMap_cons_some ha]
    · intro b hb
      rcases List.mem_filterMap.mp hb with ⟨earlier, hearlier, hearlierKey⟩
      exact hbefore earlier hearlier b hearlierKey

end FirstEntries

/-!
# What a segment meets
-/

namespace Lexicon

variable {lexicon : Lexicon} {source target : Language} {s text : Text}

def replacement? (lexicon : Lexicon) (source target : Language) (s : Text) : Option Text :=
  if (Segment.ofText s).hasTerm then
    (lexicon.concept? source s).bind (lexicon.catalog.surface? target)
  else none

/-- A segment that gets a new term is met in the source language and then in the target language. -/
def encounters (lexicon : Lexicon) (source target : Language) (s : Text) : List Occurrence :=
  match lexicon.replacement? source target s with
  | none => []
  | some term => [
      { term := (Segment.ofText s).core
        language := source
        role := .source
        type := (Segment.ofText s).searchType },
      { term := term
        language := target
        role := .target
        type := (Segment.ofText s).searchType }]

theorem encounters_eq_occurrences (lexicon : Lexicon) (source target : Language) (s : Text) :
    lexicon.encounters source target s =
      occurrences source target (lexicon.renderSegment source target s) := by
  rw [encounters, replacement?, renderSegment, concept?]
  cases hterm : (Segment.ofText s).hasTerm with
  | false => rfl
  | true =>
      cases hresolve : lexicon.resolve? (Segment.ofText s).core source
          (Segment.ofText s).searchType with
      | none => rfl
      | some concept =>
          cases hsurface : lexicon.catalog.surface? target concept with
          | none => simp [occurrences, hsurface]
          | some term => simp [occurrences, hsurface]

theorem warnings_translate (hne : source ≠ target) (text : Text) :
    (lexicon.translate text source target).warnings =
      distinctBy Warning.key
        (((Piece.segments text).flatMap (lexicon.encounters source target)).filterMap
          fun met => met.warning? lexicon.warnings) := by
  have hmet : lexicon.encounters source target = fun s =>
      occurrences source target (lexicon.renderSegment source target s) :=
    funext fun s => encounters_eq_occurrences lexicon source target s
  rw [translate_of_ne hne, hmet]
  simp only [List.flatMap_map]

end Lexicon

/-!
# What is warned of
-/

/-- The entry is about the term and language that are met, and about this reading or any. -/
structure WarningEntry.Concerns (entry : WarningEntry) (table : WarningTable) (met : Occurrence) :
    Prop where
  listed : table.entries[({ term := Text.upper met.term, language := met.language } : WarningKey)]? =
    some entry
  reading : entry.qualifier = .any ∨ entry.qualifier = .only met.type

def WarningEntry.warning (entry : WarningEntry) (met : Occurrence) : Warning :=
  { term := met.term
    language := met.language
    role := met.role
    message :=
      match met.role with
      | .source => entry.sourceMessage
      | .target => entry.targetMessage }

theorem Qualifier.admits_iff {qualifier : Qualifier} {type : SearchType} :
    qualifier.admits type = true ↔ qualifier = .any ∨ qualifier = .only type := by
  cases qualifier with
  | any => simp [admits]
  | only other => simp [admits]

theorem Occurrence.warning?_eq_some_iff {met : Occurrence} {table : WarningTable}
    {warning : Warning} :
    met.warning? table = some warning ↔
      ∃ entry : WarningEntry, entry.Concerns table met ∧ entry.warning met = warning := by
  rw [warning?, Option.map_eq_some_iff]
  apply exists_congr
  intro entry
  apply and_congr_left'
  rw [WarningTable.lookup?, Option.filter_eq_some_iff, Qualifier.admits_iff, WarningKey.ofTerm]
  constructor
  · intro h
    exact ⟨h.left, h.right⟩
  · intro h
    exact ⟨h.listed, h.reading⟩

namespace Lexicon

/-- Of everything that is met and warned of, the first of each term, language and side is reported, in order.
What the qualifier of an entry refuses leaves the place to a later one. -/
theorem warnings_fire_once (lexicon : Lexicon) {source target : Language} (hne : source ≠ target)
    (text : Text) :
    let met := (Piece.segments text).flatMap (lexicon.encounters source target)
    let reported := (lexicon.translate text source target).warnings
    reported =
      firstByKey Warning.key (met.filterMap fun occurrence =>
        occurrence.warning? lexicon.warnings) ∧
    (∀ (occurrence : Occurrence) (warning : Warning),
      occurrence.warning? lexicon.warnings = some warning ↔
        ∃ entry : WarningEntry, entry.Concerns lexicon.warnings occurrence ∧
          entry.warning occurrence = warning) ∧
    (reported.Pairwise fun first second => first.key ≠ second.key) ∧
    (∀ occurrence ∈ met, ∀ warning, occurrence.warning? lexicon.warnings = some warning →
      ∃ other ∈ reported, other.key = warning.key) ∧
    ∀ warning, warning ∈ reported ↔
      ∃ before occurrence after, met = before ++ occurrence :: after ∧
        occurrence.warning? lexicon.warnings = some warning ∧
        ∀ earlier ∈ before, ∀ other, earlier.warning? lexicon.warnings = some other →
          other.key ≠ warning.key := by
  intro met reported
  have hreported : reported = distinctBy Warning.key (met.filterMap fun occurrence =>
      occurrence.warning? lexicon.warnings) := warnings_translate hne text
  rw [hreported]
  refine ⟨distinctBy_eq_firstByKey _ _, fun _ _ => Occurrence.warning?_eq_some_iff,
    pairwise_distinctBy _ _, ?_, fun _ => mem_distinctBy_filterMap_iff⟩
  intro occurrence hmem warning hwarning
  exact exists_mem_distinctBy (List.mem_filterMap.mpr ⟨occurrence, hmem, hwarning⟩)

end Lexicon

def warnedAge : CatalogDocument :=
  { languages := .ofList [(.english, ["age".toList]), (.german, ["alter".toList])]
    pins := []
    warnings := [
      { term := "Age".toList
        language := .english
        entry := {
          qualifier := .only .search
          sourceMessage := "days since the catch".toList
          targetMessage := "read as days".toList } },
      { term := "alter".toList
        language := .german
        entry := {
          qualifier := .any
          sourceMessage := "from alter".toList
          targetMessage := "to alter".toList } }] }

theorem loads_warnedAge : warnedAge.toLexicon.toOption.isSome = true := by
  decide +kernel

theorem warnings_fire_once_age :
    Language.english ≠ .german ∧
    ((warnedAge.toLexicon.toOption.get loads_warnedAge).translate "age,!AGE5,age1".toList
        .english .german).warnings = [
      { term := "alter".toList
        language := .german
        role := .target
        message := "to alter".toList },
      { term := "AGE".toList
        language := .english
        role := .source
        message := "days since the catch".toList }] := by
  refine ⟨by decide, ?_⟩
  rw [(Lexicon.warnings_fire_once (warnedAge.toLexicon.toOption.get loads_warnedAge)
    (by decide : Language.english ≠ .german) "age,!AGE5,age1".toList).left]
  decide +kernel

end Polyquery
