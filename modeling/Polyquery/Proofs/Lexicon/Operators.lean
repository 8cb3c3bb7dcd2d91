import Polyquery.Proofs.Lexicon.Loading
import Polyquery.Proofs.Lexicon.Rendering
import Polyquery.Proofs.Query.Kinds
import Polyquery.Proofs.Text.Folding

/-!
# Operators in terms

A translation puts terms into a query as they are spelled, and loading does not look for operators in them.
So a term with an operator changes the logic of the queries that it gets into.  Where the source column holds
words only, a translation keeps the operators of all queries if and only if no term that it can put into a
query holds one.
-/

namespace Polyquery

open Text Unicode

/-!
# Words in the place of words
-/

namespace Segment

theorem isOperatorChar_of_isTrailChar {c : Char} (h : isTrailChar c = true) :
    isOperatorChar c = false := by
  cases hop : isOperatorChar c with
  | false => rfl
  | true =>
      rw [isOperatorChar_iff, isSeparator_iff] at hop
      rcases hop with rfl | rfl | rfl | rfl | rfl | rfl <;> exact absurd h (by decide)

theorem avoids_isOperatorChar_trail (s : Text) : Avoids isOperatorChar (ofText s).trail := by
  intro c hc
  exact isOperatorChar_of_isTrailChar (isTrailChar_of_mem_trail hc)

/-- A word in the place of another word leaves the kinds of the tokens as they are. -/
theorem kinds_withCore {s term : Text} (hcore : Avoids isOperatorChar (ofText s).core)
    (hcoreBlank : isBlankText (ofText s).core = false) (hterm : Avoids isOperatorChar term)
    (htermBlank : isBlankText term = false) :
    Token.kinds ((ofText s).withCore term) = Token.kinds s := by
  have hword : ∀ word, Avoids isOperatorChar word →
      Avoids isOperatorChar (word ++ (ofText s).trail) := by
    intro word hplain
    exact avoids_append.mpr ⟨hplain, avoids_isOperatorChar_trail s⟩
  have hblank : ∀ word, isBlankText word = false →
      isBlankText (word ++ (ofText s).trail) = false := by
    intro word hne
    rw [isBlankText, List.all_append, ← isBlankText, hne, Bool.false_and]
  have hkinds := Token.kinds_append_word (ofText s).lead (hword term hterm)
    (hblank term htermBlank) (hword _ hcore) (hblank _ hcoreBlank)
  rw [lead_append_core_append_trail] at hkinds
  rw [withCore, List.append_assoc]
  exact hkinds

/-- What takes the place of a core without operators shows all its operators. -/
theorem avoids_of_kinds_withCore {s term : Text} (hcore : Avoids isOperatorChar (ofText s).core)
    (hkinds : Token.kinds ((ofText s).withCore term) = Token.kinds s) :
    Avoids isOperatorChar term := by
  have hlength : ∀ text, ((Token.kinds text).filter fun token => !token.isFilter).length =
      (text.filterMap Operator.ofChar?).length := by
    intro text
    rw [Token.filter_kinds, List.length_map]
  have hcount := hlength ((ofText s).withCore term)
  rw [hkinds, hlength] at hcount
  have hcoreCount : (ofText s).core.filterMap Operator.ofChar? = [] :=
    List.filterMap_eq_nil_iff.mpr fun c hc => ofChar?_of_not_isOperatorChar (hcore c hc)
  have hsplit := congrArg (fun text => (text.filterMap Operator.ofChar?).length)
    (lead_append_core_append_trail s)
  simp only [List.filterMap_append, hcoreCount, List.length_append, List.length_nil] at hsplit
  rw [withCore, List.filterMap_append, List.filterMap_append, List.length_append,
    List.length_append] at hcount
  have hnone : term.filterMap Operator.ofChar? = [] := List.length_eq_zero_iff.mp (by omega)
  intro c hc
  rw [isOperatorChar, List.filterMap_eq_nil_iff.mp hnone c hc]
  rfl

end Segment

/-!
# Words in a column
-/

/-- A term whose spellings are read as one word: none holds a negation, and none is white space only. -/
structure WordTerm (term : Text) : Prop where
  negationFree : '!' ∉ term
  visible : isBlankText (folded term) = true → folded term = []

instance (term : Text) : Decidable (WordTerm term) :=
  decidable_of_iff ('!' ∉ term ∧ (isBlankText (folded term) = true → folded term = []))
    ⟨fun h => ⟨h.left, h.right⟩, fun h => ⟨h.negationFree, h.visible⟩⟩

namespace Lexicon

variable {lexicon : Lexicon} {source target : Language}

def WordColumn (lexicon : Lexicon) (language : Language) : Prop :=
  ∀ concept term, lexicon.catalog.surface? language concept = some term → WordTerm term

/-- The term takes the place of the core of some segment. -/
def Inserts (lexicon : Lexicon) (source target : Language) (term : Text) : Prop :=
  ∃ s concept, Avoids isSeparator s ∧ (Segment.ofText s).hasTerm = true ∧
    lexicon.concept? source s = some concept ∧
    lexicon.catalog.surface? target concept = some term

/-- The translation of the text has tokens of the same kinds. -/
def KeepsOperators (lexicon : Lexicon) (source target : Language) (text : Text) : Prop :=
  (Token.list (lexicon.translate text source target).text).map (fun placed => placed.token.kind) =
    (Token.list text).map (fun placed => placed.token.kind)

theorem keepsOperators_iff_kinds {text : Text} :
    lexicon.KeepsOperators source target text ↔
      Token.kinds (lexicon.translate text source target).text = Token.kinds text := by
  rw [KeepsOperators, Token.map_kind_list, Token.map_kind_list, List.append_cancel_right_eq]

theorem WordColumn.core_of_concept? {s : Text} {concept : Concept}
    (h : lexicon.WordColumn source) (hs : Avoids isSeparator s)
    (hterm : (Segment.ofText s).hasTerm = true)
    (hresolve : lexicon.concept? source s = some concept) :
    Avoids isOperatorChar (Segment.ofText s).core ∧
      isBlankText (Segment.ofText s).core = false := by
  rcases exists_surface_of_resolve? hresolve with ⟨surface, hsurface, hkey, _⟩
  have hword := h concept surface hsurface
  have hmark : '!' ∉ (Segment.ofText s).core :=
    not_mem_negation_of_folded_eq hkey.symm hword.negationFree
  have hsep : Avoids isSeparator (Segment.ofText s).core := by
    rw [← Segment.lead_append_core_append_trail s, avoids_append, avoids_append] at hs
    exact hs.right.left
  exact ⟨avoids_isOperatorChar_iff.mpr ⟨hmark, hsep⟩,
    not_isBlankText_of_folded_eq hkey.symm (Segment.hasTerm_iff.mp hterm).left hword.visible⟩

theorem kinds_of_renders {s t : Text} (hsource : lexicon.WordColumn source)
    (htarget : ∀ term, lexicon.Inserts source target term → Avoids isOperatorChar term)
    (hs : Avoids isSeparator s) (h : lexicon.Renders source target s t) :
    Token.kinds t = Token.kinds s := by
  cases h with
  | bare _ => rfl
  | unknown _ _ => rfl
  | untranslatable _ _ _ => rfl
  | @replaced concept term hterm hresolve hsurface =>
      rcases hsource.core_of_concept? hs hterm hresolve with ⟨hplain, hblank⟩
      exact Segment.kinds_withCore hplain hblank
        (htarget term ⟨s, concept, hs, hterm, hresolve, hsurface⟩)
        (Catalog.isBlankText_of_surface? hsurface)

theorem kinds_translate_of_inserts (hne : source ≠ target) (hsource : lexicon.WordColumn source)
    (htarget : ∀ term, lexicon.Inserts source target term → Avoids isOperatorChar term)
    (text : Text) :
    Token.kinds (lexicon.translate text source target).text = Token.kinds text := by
  have hpieces := Piece.alternating_ofText text
  rw [text_translate hne, Token.kinds_joined_map hpieces, Piece.joined_ofText]
  intro s hs
  exact kinds_of_renders hsource htarget (hpieces.avoids hs) (renders_iff.mpr rfl)

theorem translate_segment (hne : source ≠ target) {s : Text} (hs : Avoids isSeparator s) :
    (lexicon.translate s source target).text = lexicon.segmentText source target s := by
  rw [text_translate hne, Piece.ofText_of_avoids hs, List.map_singleton, Piece.map,
    Piece.joined_segment, Piece.joined_nil, List.append_nil]

/-- A translation from a column of words keeps the operators of all queries exactly if no term that it can
put into one holds an operator. -/
theorem keepsOperators_iff (hsource : lexicon.WordColumn source) :
    (∀ text, lexicon.KeepsOperators source target text) ↔
      source = target ∨
        ∀ term, lexicon.Inserts source target term → Avoids isOperatorChar term := by
  simp only [keepsOperators_iff_kinds]
  by_cases hne : source = target
  · subst hne
    refine iff_of_true (fun text => ?_) (Or.inl rfl)
    rw [text_translate_self]
  · rw [or_iff_right hne]
    constructor
    · rintro hkeeps term ⟨s, concept, hs, hterm, hresolve, hsurface⟩
      have hkinds := hkeeps s
      rw [translate_segment hne hs, segmentText_of_replaced hterm hresolve hsurface] at hkinds
      exact Segment.avoids_of_kinds_withCore
        (hsource.core_of_concept? hs hterm hresolve).left hkinds
    · exact kinds_translate_of_inserts hne hsource

theorem wordColumn_of_terms {language : Language} {terms : List Text}
    (hterms : lexicon.catalog.terms? language = some terms)
    (hwords : ∀ term ∈ terms, WordTerm term) : lexicon.WordColumn language :=
  fun _ term hsurface => hwords term (Catalog.mem_of_surface? hterms hsurface)

theorem Inserts.mem {term : Text} {terms : List Text} (h : lexicon.Inserts source target term)
    (hterms : lexicon.catalog.terms? target = some terms) : term ∈ terms := by
  rcases h with ⟨_, _, _, _, _, hsurface⟩
  exact Catalog.mem_of_surface? hterms hsurface

end Lexicon

namespace CatalogDocument

def named (english german : Text) : CatalogDocument :=
  { languages := .ofList [(.english, [english]), (.german, [german])], pins := [], warnings := [] }

theorem loads_fire : (named "fire".toList "feuer".toList).toLexicon.toOption.isSome = true := by
  decide +kernel

theorem keepsOperators_iff_fire :
    ∃ lexicon, (named "fire".toList "feuer".toList).toLexicon = .ok lexicon ∧
      lexicon.WordColumn .english ∧
      ∀ text, lexicon.KeepsOperators .english .german text := by
  have hloads : ∃ lexicon, (named "fire".toList "feuer".toList).toLexicon = .ok lexicon :=
    ⟨_, eq_ok_get_toOption loads_fire⟩
  rcases hloads with ⟨lexicon, h⟩
  have henglish : lexicon.catalog.terms? .english = some ["fire".toList] :=
    terms?_of_toLexicon h .english
  have hgerman : lexicon.catalog.terms? .german = some ["feuer".toList] :=
    terms?_of_toLexicon h .german
  have hwords := Lexicon.wordColumn_of_terms henglish (by decide +kernel)
  refine ⟨lexicon, h, hwords, (Lexicon.keepsOperators_iff hwords).mpr (Or.inr ?_)⟩
  intro term hterm
  rw [List.mem_singleton.mp (hterm.mem hgerman)]
  decide

theorem loads_ampersand :
    (named "fire".toList "feu&er".toList).toLexicon.toOption.isSome = true := by
  decide +kernel

/-- A name with an operator is accepted and turns one word of a query into two. -/
theorem not_keepsOperators_ampersand :
    ¬∀ (document : CatalogDocument) (lexicon : Lexicon), document.toLexicon = .ok lexicon →
      ∀ source target text, lexicon.KeepsOperators source target text := by
  intro hkeeps
  have hfire := hkeeps _ _ (eq_ok_get_toOption loads_ampersand) .english .german "fire".toList
  have htext : (((named "fire".toList "feu&er".toList).toLexicon.toOption.get
      loads_ampersand).translate "fire".toList .english .german).text = "feu&er".toList := by
    decide +kernel
  rw [Lexicon.keepsOperators_iff_kinds, htext] at hfire
  have hoperators := Token.filter_kinds "feu&er".toList
  rw [hfire, Token.filter_kinds] at hoperators
  exact absurd hoperators (by decide)

end CatalogDocument
end Polyquery
