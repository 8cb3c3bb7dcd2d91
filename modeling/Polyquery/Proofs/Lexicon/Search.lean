import Mathlib.Data.List.Find
import Polyquery.Proofs.Lexicon.Bundled
import Polyquery.Proofs.Lexicon.Resolution
import Polyquery.Proofs.Lexicon.Tables

/-!
# The first admitted concept

A look-up goes through the concepts with the key in their order and asks about one after the other, up to the
first one that is admitted.  Being asked may have an effect, so it matters who is asked and when.

In a lexicon the pins answer, those that were put in last.  One more pin is a matter of one language and of one
key.  There it can bring in its concept for the reading that it permits, and pass over it for the others.
-/

namespace Polyquery

namespace Catalog

variable {σ : Type} {catalog : Catalog} {language : Language} {key : Text}

def HasKey (catalog : Catalog) (language : Language) (key : Text) (concept : Concept) : Prop :=
  ∃ surface, catalog.surface? language concept = some surface ∧ Text.folded surface = key

theorem mem_candidates_iff_hasKey {concept : Concept} :
    concept ∈ catalog.candidates language key ↔ catalog.HasKey language key concept :=
  mem_candidates

theorem candidates_of_not_hasLanguage (h : catalog.hasLanguage language = false) :
    catalog.candidates language key = [] := by
  rw [hasLanguage, Option.isSome_eq_false_iff, Option.isNone_iff_eq_none] at h
  rw [candidates, h]

/-!
# Questions with an effect
-/

/-- The concepts are asked about in order, from the first state to the last one, and none is admitted. -/
inductive Refused (accept : Concept → StateM σ Bool) : σ → List Concept → σ → Prop where
  | nil (state : σ) : Refused accept state [] state
  | cons {first next last : σ} {concept : Concept} {rest : List Concept}
      (h : (accept concept).run first = (false, next)) (hrest : Refused accept next rest last) :
      Refused accept first (concept :: rest) last

/-- A search among the candidates that begins in the state `first` finds a concept or none, has asked about
some of the candidates, and ends in a state. -/
inductive Searched (accept : Concept → StateM σ Bool) (candidates : List Concept) (first : σ) :
    Option Concept → List Concept → σ → Prop where
  | found {before after : List Concept} {concept : Concept} {middle last : σ}
      (hsplit : candidates = before ++ concept :: after)
      (hbefore : Refused accept first before middle)
      (h : (accept concept).run middle = (true, last)) :
      Searched accept candidates first (some concept) (before ++ [concept]) last
  | exhausted {last : σ} (h : Refused accept first candidates last) :
      Searched accept candidates first none candidates last

/-- The same answers, with a record of the concepts that were asked about. -/
def recorded (accept : Concept → StateM σ Bool) (concept : Concept) :
    StateM (List Concept × σ) Bool := do
  let (asked, state) ← get
  let (answer, next) := (accept concept).run state
  set (asked ++ [concept], next)
  return answer

variable {accept : Concept → StateM σ Bool}

theorem run_findM?_cons (concept : Concept) (rest : List Concept) (first : σ) :
    ((concept :: rest).findM? accept).run first =
      if ((accept concept).run first).1 = true then (some concept, ((accept concept).run first).2)
      else (rest.findM? accept).run ((accept concept).run first).2 := by
  rw [List.findM?, StateT.run_bind]
  rcases (accept concept).run first with ⟨answer, next⟩
  cases answer with
  | true => rfl
  | false => rfl

theorem run_recorded {answer : Bool} {concept : Concept} {first next : σ}
    (h : (accept concept).run first = (answer, next)) (asked : List Concept) :
    (recorded accept concept).run (asked, first) = (answer, asked ++ [concept], next) := by
  have hrun : (recorded accept concept).run (asked, first) =
      (((accept concept).run first).1, asked ++ [concept], ((accept concept).run first).2) := rfl
  rw [hrun, h]

theorem Searched.cons {first next last : σ} {concept : Concept} {rest asked : List Concept}
    {found : Option Concept} (h : (accept concept).run first = (false, next))
    (hrest : Searched accept rest next found asked last) :
    Searched accept (concept :: rest) first found (concept :: asked) last := by
  cases hrest with
  | found hsplit hbefore hfound =>
      rw [hsplit]
      exact .found rfl (.cons h hbefore) hfound
  | exhausted hrefused => exact .exhausted (.cons h hrefused)

/-- A search asks about each candidate once, in order, and about none behind the one that it finds. -/
theorem exists_searched (accept : Concept → StateM σ Bool) (candidates asked : List Concept)
    (first : σ) :
    ∃ found here last, Searched accept candidates first found here last ∧
      (candidates.findM? accept).run first = (found, last) ∧
      (candidates.findM? (recorded accept)).run (asked, first) = (found, asked ++ here, last) := by
  induction candidates generalizing asked first with
  | nil =>
      refine ⟨none, [], first, .exhausted (.nil first), rfl, ?_⟩
      rw [List.append_nil]
      rfl
  | cons concept rest ih =>
      rcases hanswer : (accept concept).run first with ⟨answer, next⟩
      rw [run_findM?_cons, run_findM?_cons, run_recorded hanswer, hanswer]
      cases answer with
      | true => exact ⟨some concept, [concept], next, .found rfl (.nil first) hanswer, rfl, rfl⟩
      | false =>
          rcases ih (asked ++ [concept]) next with ⟨found, here, last, hsearched, hrun, hlog⟩
          refine ⟨found, concept :: here, last, hsearched.cons hanswer, hrun, ?_⟩
          rw [List.append_assoc, List.singleton_append] at hlog
          exact hlog

theorem findM?_pure (catalog : Catalog) (language : Language) (key : Text) (accept : Concept → Bool) :
    catalog.findM? (m := StateM σ) language key (fun concept => pure (accept concept)) =
      pure (catalog.find? language key accept) :=
  List.findM?_pure accept (catalog.candidates language key)

end Catalog

/-!
# Pins that are put in one after the other
-/

namespace PinTable

theorem entries_ofList (pins : List (Concept × Language × SearchType)) :
    (ofList pins).entries =
      pins.foldl (fun entries pin =>
        entries.insert { concept := pin.1, language := pin.2.1 } pin.2.2) ∅ :=
  (List.foldl_hom PinTable.entries fun _ _ => rfl).symm

theorem get?_ofList {pins : List (Concept × Language × SearchType)} {concept : Concept}
    {language : Language} {type : SearchType} :
    (ofList pins).get? concept language = some type ↔
      LastOf (fun pin => pin.1 = concept ∧ pin.2.1 = language) pins (concept, language, type) := by
  have hkey : ∀ pin : Concept × Language × SearchType,
      ({ concept := pin.1, language := pin.2.1 } : PinKey) =
        { concept := concept, language := language } ↔
      pin.1 = concept ∧ pin.2.1 = language := by
    intro pin
    rw [PinKey.mk.injEq]
  rw [get?, entries_ofList, getElem?_foldl_insert_empty]
  simp only [LastOf.congr hkey]
  constructor
  · rintro ⟨⟨found, other, pinned⟩, hlast, rfl⟩
    rcases hlast.holds with ⟨rfl, rfl⟩
    exact hlast
  · intro hlast
    exact ⟨_, hlast, rfl⟩

variable {table : PinTable} {concept other : Concept} {language second : Language}
  {type pinned : SearchType}

theorem admits_insert_of_ne (h : concept = other → language ≠ second) :
    (table.insert concept language pinned).admits other second type =
      table.admits other second type := by
  rw [admits, admits, get?_insert, if_neg (not_and.mpr h)]

theorem admits_insert_self :
    (table.insert concept language pinned).admits concept language type = decide (pinned = type) := by
  rw [admits, get?_insert, if_pos ⟨rfl, rfl⟩]
  rfl

end PinTable

namespace Lexicon

variable {lexicon : Lexicon} {concept found : Concept} {language second : Language} {key : Text}
  {type pinned : SearchType}

def pin (lexicon : Lexicon) (concept : Concept) (language : Language) (pinned : SearchType) :
    Lexicon :=
  { lexicon with pins := lexicon.pins.insert concept language pinned }

/-- The concept has the key in the language, and what was put in last for it there, if anything was, is the
reading `type`. -/
def Fits (lexicon : Lexicon) (pins : List (Concept × Language × SearchType)) (key : Text)
    (language : Language) (type : SearchType) (concept : Concept) : Prop :=
  lexicon.catalog.HasKey language key concept ∧
    ∀ pinned, LastOf (fun pin => pin.1 = concept ∧ pin.2.1 = language) pins
      (concept, language, pinned) → pinned = type

/-!
# Look-ups among pins
-/

theorem fits_iff {pins : List (Concept × Language × SearchType)}
    (hpins : lexicon.pins = .ofList pins) :
    lexicon.Fits pins key language type concept ↔
      ∃ surface, lexicon.catalog.surface? language concept = some surface ∧
        Text.folded surface = key ∧ lexicon.pins.admits concept language type = true := by
  simp only [Fits, Catalog.HasKey, admits_iff, hpins, PinTable.get?_ofList, ← and_assoc,
    exists_and_right]

theorem resolveKey?_eq_some_iff_fits {pins : List (Concept × Language × SearchType)}
    (hpins : lexicon.pins = .ofList pins) :
    lexicon.resolveKey? key language type = some concept ↔
      lexicon.Fits pins key language type concept ∧
        ∀ earlier, earlier.index < concept.index →
          ¬lexicon.Fits pins key language type earlier := by
  simp only [fits_iff hpins, resolveKey?_eq_some_iff, not_exists, not_and, Bool.not_eq_true]
  refine and_congr_right fun _ => ?_
  constructor
  · intro hfirst earlier hindex surface hsurface hkey
    exact hfirst earlier surface hindex hsurface hkey
  · intro hfirst earlier surface hindex hsurface hkey
    exact hfirst earlier hindex surface hsurface hkey

theorem resolveKey?_eq_none_iff_fits {pins : List (Concept × Language × SearchType)}
    (hpins : lexicon.pins = .ofList pins) :
    lexicon.resolveKey? key language type = none ↔
      ∀ concept, ¬lexicon.Fits pins key language type concept := by
  simp only [fits_iff hpins, not_exists, not_and]
  rw [resolveKey?, Catalog.find?, List.find?_eq_none]
  constructor
  · intro hnone concept surface hsurface hkey
    exact hnone concept (Catalog.mem_candidates.mpr ⟨surface, hsurface, hkey⟩)
  · intro hnone concept hmem
    rcases Catalog.mem_candidates.mp hmem with ⟨surface, hsurface, hkey⟩
    exact hnone concept surface hsurface hkey

/-!
# One more pin
-/

theorem resolveKey?_pin_of_not_hasKey
    (h : language = second → ¬lexicon.catalog.HasKey second key concept) :
    (lexicon.pin concept language pinned).resolveKey? key second type =
      lexicon.resolveKey? key second type := by
  apply List.find?_congr
  intro other hmem
  apply PinTable.admits_insert_of_ne
  rintro rfl hlanguage
  exact h hlanguage (Catalog.mem_candidates.mp hmem)

theorem resolveKey?_pin_of_lt (h : lexicon.resolveKey? key second type = some found)
    (hindex : found.index < concept.index) :
    (lexicon.pin concept language pinned).resolveKey? key second type = some found := by
  have hkept : ∀ other : Concept, other.index ≤ found.index →
      (lexicon.pin concept language pinned).pins.admits other second type =
        lexicon.pins.admits other second type := by
    intro other hother
    apply PinTable.admits_insert_of_ne
    rintro rfl
    exact absurd hindex (Nat.not_lt_of_le hother)
  rw [resolveKey?_eq_some_iff] at h ⊢
  rcases h with ⟨⟨surface, hsurface, hkey, hadmits⟩, hfirst⟩
  constructor
  · exact ⟨surface, hsurface, hkey, (hkept found (Nat.le_refl _)).trans hadmits⟩
  · intro other spelling hother hspelling hsame
    rw [hkept other (Nat.le_of_lt hother)]
    exact hfirst other spelling hother hspelling hsame

theorem eq_of_resolveKey?_pin
    (h : (lexicon.pin concept language pinned).resolveKey? key language type = some concept) :
    type = pinned := by
  rcases exists_surface_of_resolveKey? h with ⟨_, _, _, hadmits⟩
  rw [pin, PinTable.admits_insert_self, decide_eq_true_eq] at hadmits
  exact hadmits.symm

/-- A search asks about the concepts with the key, in their order and up to the first one that is admitted.  So
a lexicon finds the first concept with the key whose last pin, if it has one, is of the type.  One more pin
changes a look-up in its language and for the key of its concept only; it changes nothing that is found before
its concept, and its concept is found for the type of the pin only. -/
theorem finds_first_admitted (lexicon : Lexicon) {pins : List (Concept × Language × SearchType)}
    (hpins : lexicon.pins = .ofList pins) :
    (∀ language key,
      (lexicon.catalog.candidates language key).Pairwise (fun a b => a.index < b.index) ∧
      (∀ concept, concept ∈ lexicon.catalog.candidates language key ↔
        lexicon.catalog.HasKey language key concept) ∧
      (lexicon.catalog.hasLanguage language = false →
        lexicon.catalog.candidates language key = [])) ∧
    (∀ (σ : Type) (accept : Concept → StateM σ Bool) language key (first : σ),
      ∃ found asked last,
        Catalog.Searched accept (lexicon.catalog.candidates language key) first found asked last ∧
        (lexicon.catalog.findM? language key accept).run first = (found, last) ∧
        (lexicon.catalog.findM? language key (Catalog.recorded accept)).run ([], first) =
          (found, asked, last)) ∧
    (∀ (σ : Type) (accept : Concept → Bool) language key,
      lexicon.catalog.findM? (m := StateM σ) language key (fun concept => pure (accept concept)) =
        pure (lexicon.catalog.find? language key accept)) ∧
    (∀ key language type concept, lexicon.resolveKey? key language type = some concept ↔
      lexicon.Fits pins key language type concept ∧
        ∀ earlier, earlier.index < concept.index →
          ¬lexicon.Fits pins key language type earlier) ∧
    (∀ key language type, lexicon.resolveKey? key language type = none ↔
      ∀ concept, ¬lexicon.Fits pins key language type concept) ∧
    ∀ concept language pinned,
      (lexicon.pin concept language pinned).pins =
        .ofList (pins ++ [(concept, language, pinned)]) ∧
      (∀ key second type, second ≠ language ∨ ¬lexicon.catalog.HasKey language key concept →
        (lexicon.pin concept language pinned).resolveKey? key second type =
          lexicon.resolveKey? key second type) ∧
      (∀ key second type found, lexicon.resolveKey? key second type = some found →
        found.index < concept.index →
        (lexicon.pin concept language pinned).resolveKey? key second type = some found) ∧
      ∀ key type, type ≠ pinned →
        (lexicon.pin concept language pinned).resolveKey? key language type ≠ some concept := by
  refine ⟨?_, ?_, ?_, ?_, ?_, ?_⟩
  · intro language key
    exact ⟨lexicon.catalog.pairwise_candidates language key,
      fun _ => Catalog.mem_candidates_iff_hasKey, Catalog.candidates_of_not_hasLanguage⟩
  · intro σ accept language key first
    exact Catalog.exists_searched accept (lexicon.catalog.candidates language key) [] first
  · intro σ accept language key
    exact Catalog.findM?_pure lexicon.catalog language key accept
  · intro key language type concept
    exact resolveKey?_eq_some_iff_fits hpins
  · intro key language type
    exact resolveKey?_eq_none_iff_fits hpins
  · intro concept language pinned
    refine ⟨?_, ?_, ?_, ?_⟩
    · rw [PinTable.ofList, List.foldl_append, pin, hpins]
      rfl
    · intro key second type h
      apply resolveKey?_pin_of_not_hasKey
      rintro rfl
      exact h.resolve_left fun hne => hne rfl
    · intro key second type found h hindex
      exact resolveKey?_pin_of_lt h hindex
    · intro key type hne h
      exact hne (eq_of_resolveKey?_pin h)

-- said of any lexicon, since comparing two bundled ones would compute both
theorem catalog_with_pins (lexicon : Lexicon) (pins : PinTable) :
    { lexicon with pins := pins }.catalog = lexicon.catalog := rfl

def psychicPins : List (Concept × Language × SearchType) :=
  [(⟨12⟩, .english, .name), (⟨13⟩, .english, .move), (⟨12⟩, .english, .move)]

def psychicLexicon : Lexicon :=
  { bundled with pins := .ofList psychicPins }

theorem finds_first_admitted_psychic :
    psychicLexicon.pins = .ofList psychicPins ∧
      psychicLexicon.resolveKey? "psychic".toList .english .move = some ⟨12⟩ ∧
      (psychicLexicon.pin ⟨12⟩ .english .search).resolveKey? "psychic".toList .english .move ≠
        some ⟨12⟩ ∧
      (psychicLexicon.pin ⟨12⟩ .english .search).resolveKey? "psychic".toList .german .move =
        psychicLexicon.resolveKey? "psychic".toList .german .move := by
  have hpins : psychicLexicon.pins = .ofList psychicPins := rfl
  rcases finds_first_admitted psychicLexicon hpins with ⟨_, _, _, hfound, _, hpin⟩
  rcases hpin ⟨12⟩ .english .search with ⟨_, hframe, _, hnever⟩
  have hsurface : ∀ concept, psychicLexicon.catalog.surface? .english concept =
      (Bundled.document.languages.get? .english).bind fun terms => terms[concept.index]? := by
    intro concept
    rw [psychicLexicon, catalog_with_pins]
    exact surface?_bundled .english concept
  have hearlier : ∀ index < 12,
      ((Bundled.document.languages.get? .english).bind fun terms => terms[index]?).map Text.folded ≠
        some "psychic".toList := by
    decide +kernel
  have hterm : psychicLexicon.catalog.HasKey .english "psychic".toList ⟨12⟩ := by
    refine ⟨"psychic".toList, ?_, ?_⟩
    · rw [hsurface]
      decide +kernel
    · decide +kernel
  have hfits : psychicLexicon.Fits psychicPins "psychic".toList .english .move ⟨12⟩ := by
    refine ⟨hterm, ?_⟩
    intro pinned hlast
    have hpinned : (PinTable.ofList psychicPins).get? ⟨12⟩ .english = some .move := by
      decide +kernel
    exact Option.some.inj ((PinTable.get?_ofList.mpr hlast).symm.trans hpinned)
  have hfirst : ∀ earlier : Concept, earlier.index < 12 →
      ¬psychicLexicon.Fits psychicPins "psychic".toList .english .move earlier := by
    rintro earlier hindex ⟨⟨surface, hspelled, hkey⟩, _⟩
    apply hearlier earlier.index hindex
    rw [← hsurface, hspelled, Option.map_some, hkey]
  refine ⟨hpins, (hfound _ _ _ _).mpr ⟨hfits, hfirst⟩, ?_, ?_⟩
  · exact hnever "psychic".toList .move (by decide)
  · exact hframe "psychic".toList .german .move (Or.inl (by decide))

end Lexicon
end Polyquery
