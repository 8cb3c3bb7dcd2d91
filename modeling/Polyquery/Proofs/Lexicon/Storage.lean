import Polyquery.Lexicon.Storage
import Polyquery.Proofs.Files.Changes
import Polyquery.Proofs.Gzip
import Polyquery.Proofs.Lexicon.Format
import Polyquery.Proofs.Lexicon.Operators

/-!
# Saving

What saving a lexicon does to a file tree, whichever step of it fails.  The file with the temporary name
belongs to the step, whoever made it.  No other file is touched before the renaming.
-/

namespace Polyquery

open Text Path FileTree Json

variable {tree ready after : FileTree} {path parent : Path} {place : Place} {content : Bytes}

/-!
# The temporary name
-/

namespace Path

def temporary (path : Path) : Path :=
  path.withExtension "sltmp".toList

theorem head?_temporary (h : tree.place? path.temporary = some place) :
    namesDirectory path.temporary = false ∧
      ∃ stem, stem ≠ [] ∧ place.names.head? = some (stem ++ '.' :: "sltmp".toList) := by
  rcases place?_eq_some_iff.mp h with ⟨earlier, directory, last, hleads, rfl⟩
  have hname := name?_of_parts hleads.parts_eq hleads.notDot hleads.notBack
  rcases withExtension_cases path "sltmp".toList with hnone | ⟨front, stem, htext, hfront, hstem, hplain⟩
  · rw [temporary, hnone] at hname
    cases hname
  · have hpath : path.temporary = ⟨front ++ (stem ++ '.' :: "sltmp".toList)⟩ := by
      rw [temporary, ← htext]
    have hslash : '/' ∉ "sltmp".toList := by decide
    rcases parts_withExtension hslash hfront hplain with ⟨others, hothers⟩
    have hparts := hleads.parts_eq
    rw [hpath, hothers] at hparts
    have hlast := List.singleton_inj.mp (List.append_inj' hparts rfl).right
    refine ⟨?_, stem, hstem, congrArg some hlast.symm⟩
    rw [hpath, namesDirectory]
    simp [List.getLast?_append]

theorem name?_eq_head? (h : tree.place? path = some place) : path.name? = place.names.head? := by
  rcases place?_eq_some_iff.mp h with ⟨earlier, directory, last, hleads, rfl⟩
  exact name?_of_parts hleads.parts_eq hleads.notDot hleads.notBack

theorem place?_temporary_ne (hextension : path.extension? ≠ some "sltmp".toList)
    (h : tree.place? path = some place) : tree.place? path.temporary ≠ some place := by
  intro htemporary
  rcases head?_temporary htemporary with ⟨_, stem, hstem, hhead⟩
  rw [← name?_eq_head? h] at hhead
  apply hextension
  rw [extension?, hhead]
  simp only [Option.bind_eq_bind, Option.bind_some]
  rw [splitName_extension hstem (by decide)]

end Path

/-!
# Directories for the file
-/

theorem length_namesOf_parent_lt (hparent : path.parent? = some parent) (htext : parent.text ≠ []) :
    (namesOf parent.text).length < (namesOf path.text).length := by
  cases hbody : path.body? with
  | none =>
      rw [parent?, hbody] at hparent
      simp only [] at hparent
      split at hparent
      · cases hparent
        exact absurd rfl htext
      · cases hparent
  | some body =>
      rcases body with ⟨before, last⟩
      rw [namesOf_parent hbody hparent, (names_of_body? hbody).right, List.length_append]
      exact Nat.lt_succ_self _

def HasParent (tree : FileTree) (path : Path) : Prop :=
  ∀ parent, path.parent? = some parent → parent.text ≠ [] → tree.isDirectory parent = true

/-- Directories were created where nothing was, but none as deep as the path has names, and none at all if
the one for the path was there. -/
structure Prepares (tree : FileTree) (path : Path) (ready : FileTree) : Prop where
  keeps : ∀ place, tree.Keeps ready place
  deep : ∀ place, (namesOf path.text).length ≤ place.names.length →
    ready.entry? place = tree.entry? place
  still : HasParent tree path → ready = tree

theorem prepares_refl (tree : FileTree) (path : Path) : Prepares tree path tree :=
  ⟨fun _ => Or.inl rfl, fun _ _ => rfl, fun _ => rfl⟩

theorem prepares_createDirectories (hparent : path.parent? = some parent) (htext : parent.text ≠ []) :
    Prepares tree path (tree.createDirectories parent).2 := by
  have hgrows := growsTo_createDirectoriesWithin tree parent (parent.text.length + 1)
  refine ⟨hgrows.keeps, ?_, ?_⟩
  · intro place hplace
    rcases hgrows place with hsame | ⟨_, _, hdepth⟩
    · exact hsame
    · have hlt := length_namesOf_parent_lt hparent htext
      omega
  · intro hthere
    rw [createDirectories_of_isDirectory (hthere parent hparent htext) htext]

theorem Prepares.keepsDirectories (h : Prepares tree path ready) : tree.KeepsDirectories ready :=
  fun place hplace => (h.keeps place).entry hplace

namespace Saving

/-!
# Steps
-/

/-- What holds of the tree in which an action ends, and of the error if it fails. -/
def Ends (action : Saving Unit) (tree : FileTree) (done : FileTree → Prop)
    (failed : SaveError → FileTree → Prop) : Prop :=
  match action tree with
  | (.ok (), after) => done after
  | (.error error, after) => failed error after

variable {faults : Faults} {step : SaveStep} {action first : Saving Unit} {next : Unit → Saving Unit}
  {handler : SaveError → Saving Unit} {between done : FileTree → Prop}
  {failed caught : SaveError → FileTree → Prop}

theorem Ends.bind (h : Ends first tree between failed)
    (hnext : ∀ after, between after → Ends (next ()) after done failed) :
    Ends (first >>= next) tree done failed := by
  have hrun : (first >>= next) tree =
      match first tree with
      | (.ok (), after) => next () after
      | (.error error, after) => (.error error, after) := by
    change StateT.bind first (ExceptT.bindCont next) tree = _
    rw [StateT.bind]
    cases first tree with
    | mk outcome after => cases outcome <;> rfl
  rw [Ends] at h ⊢
  rw [hrun]
  cases hfirst : first tree with
  | mk outcome after =>
      rw [hfirst] at h
      cases outcome with
      | error error => exact h
      | ok _ => exact hnext after h

theorem Ends.tryCatch (h : Ends action tree done caught)
    (hhandler : ∀ error after, caught error after → Ends (handler error) after done failed) :
    Ends (tryCatch action handler) tree done failed := by
  have hrun : (MonadExcept.tryCatch action handler) tree =
      match action tree with
      | (.ok (), after) => (.ok (), after)
      | (.error error, after) => handler error after := by
    change ExceptT.tryCatch action handler tree = _
    rw [ExceptT.tryCatch, ExceptT.mk]
    change StateT.bind action _ tree = _
    rw [StateT.bind]
    cases action tree with
    | mk outcome after => cases outcome <;> rfl
  rw [Ends] at h ⊢
  rw [hrun]
  cases haction : action tree with
  | mk outcome after =>
      rw [haction] at h
      cases outcome with
      | error error => exact hhandler error after h
      | ok _ => exact h

theorem Ends.imp {weaker : FileTree → Prop} {failedWeaker : SaveError → FileTree → Prop}
    (h : Ends action tree done failed) (hdone : ∀ after, done after → weaker after)
    (hfailed : ∀ error after, failed error after → failedWeaker error after) :
    Ends action tree weaker failedWeaker := by
  rw [Ends] at h ⊢
  cases haction : action tree with
  | mk outcome after =>
      rw [haction] at h
      cases outcome with
      | error error => exact hfailed error after h
      | ok _ => exact hdone after h

theorem Ends.of_ok (h : Ends action tree done failed) (haction : (action tree).1 = .ok ()) :
    done (action tree).2 := by
  cases hrun : action tree with
  | mk outcome after =>
      rw [Ends, hrun] at h
      rw [hrun] at haction
      cases haction
      exact h

theorem Ends.of_error {error : SaveError} (h : Ends action tree done failed)
    (haction : (action tree).1 = .error error) : failed error (action tree).2 := by
  cases hrun : action tree with
  | mk outcome after =>
      rw [Ends, hrun] at h
      rw [hrun] at haction
      cases haction
      exact h

/-!
# Writing, renaming and discarding
-/

/-- The failure of a step after the directories were created, which does not happen where saving is
admitted. -/
structure LateFailure (admitted : Prop) (holds : FileTree → Prop) (error : SaveError)
    (after : FileTree) : Prop where
  late : error.step ≠ .createDirectory
  blocked : ¬admitted
  holds : holds after

variable {admitted : Prop} {holds : FileTree → Prop}

/-- A step with an operation that fails as a whole either does what the operation does or nothing. -/
theorem ends_perform_whole {operation : FileTree → Except FileFault FileTree}
    (hstep : step ≠ .createDirectory)
    (hadmitted : admitted → faults step = none ∧ ∃ after, operation tree = .ok after)
    (hholds : holds tree) (hdone : ∀ after, operation tree = .ok after → done after) :
    Ends (perform faults step (whole operation)) tree done (LateFailure admitted holds) := by
  rw [Ends, perform]
  cases hfaults : faults step with
  | some fault =>
      refine ⟨hstep, fun h => ?_, hholds⟩
      cases (hadmitted h).left.symm.trans hfaults
  | none =>
      cases hoperation : operation tree with
      | error fault =>
          simp only [whole, hoperation]
          refine ⟨hstep, fun h => ?_, hholds⟩
          rcases (hadmitted h).right with ⟨after, hafter⟩
          cases hafter.symm.trans hoperation
      | ok after =>
          simp only [whole, hoperation]
          exact hdone after hoperation

theorem ends_perform_ok (hstep : step ≠ .createDirectory) (hadmitted : admitted → faults step = none)
    (hholds : holds tree) (hdone : done tree) :
    Ends (perform faults step (whole .ok)) tree done (LateFailure admitted holds) := by
  refine ends_perform_whole hstep (fun h => ⟨hadmitted h, tree, rfl⟩) hholds ?_
  intro after hafter
  cases hafter
  exact hdone

theorem ends_writeAndRename {temporary : Path} (content : Bytes)
    (hsound : admitted → ∀ step, faults step = none) (hsource : admitted → tree.Free temporary)
    (htarget : admitted → tree.Free path) :
    Ends (writeAndRename faults temporary path content) tree
      (tree.Moves temporary path content) (LateFailure admitted (tree.ChangesAt temporary)) := by
  have hcreate : Ends (perform faults .createFile (whole fun tree => tree.write temporary [])) tree
      (tree.ChangesAt temporary) (LateFailure admitted (tree.ChangesAt temporary)) :=
    ends_perform_whole nofun (fun h => ⟨hsound h _, write_of_free (hsource h) _⟩)
      (changesOnly_refl _ _) fun _ hwrite => (write_spec hwrite).changes
  apply hcreate.bind
  intro opened hopened
  have hencode : Ends (perform faults .encode (whole .ok)) opened
      (tree.ChangesAt temporary) (LateFailure admitted (tree.ChangesAt temporary)) :=
    ends_perform_ok nofun (fun h => hsound h _) hopened hopened
  apply hencode.bind
  intro encoded hencoded
  have hflush : Ends (perform faults .flush (whole fun tree => tree.write temporary content)) encoded
      (tree.Writes temporary content) (LateFailure admitted (tree.ChangesAt temporary)) :=
    ends_perform_whole nofun
      (fun h => ⟨hsound h _, write_of_free (hencoded.free (hsource h)) _⟩) hencoded
      fun _ hwrite => hencoded.writes (write_spec hwrite)
  apply hflush.bind
  intro flushed hflushed
  have hrename : ∀ finished, tree.Writes temporary content finished →
      Ends (perform faults .rename (whole fun tree => tree.rename temporary path)) finished
        (tree.Moves temporary path content)
        (LateFailure admitted (tree.ChangesAt temporary)) := by
    intro finished hfinished
    have hwritten := hfinished.written
    rw [← hfinished.changes.place?_eq] at hwritten
    refine ends_perform_whole nofun (fun h => ⟨hsound h _, ?_⟩) hfinished.changes ?_
    · exact rename_of_free (hfinished.changes.free (hsource h)) (hfinished.changes.free (htarget h))
        hwritten
    · intro after hafter
      exact hfinished.changes.moves (rename_spec hafter hwritten)
  split_ifs
  · have hfinish : Ends (perform faults .finish (whole .ok)) flushed
        (tree.Writes temporary content) (LateFailure admitted (tree.ChangesAt temporary)) :=
      ends_perform_ok nofun (fun h => hsound h _) hflushed.changes hflushed
    exact hfinish.bind hrename
  · exact hrename flushed hflushed

theorem ends_discard (hnames : ∀ place, tree.place? path = some place → namesDirectory path = false) :
    Ends (Saving.discard path) tree (tree.Clears path) failed := by
  have hrun : ∀ discard : FileTree → FileTree,
      (modify discard : Saving Unit) tree = (.ok (), discard tree) := fun _ => rfl
  rw [Ends, Saving.discard, hrun]
  cases hremove : tree.remove path with
  | ok after => exact clears_of_remove hremove
  | error fault => exact clears_of_remove_error hremove hnames

theorem ends_writeOrDiscard (content : Bytes) (hsound : admitted → ∀ step, faults step = none)
    (hsource : admitted → tree.Free path.temporary) (htarget : admitted → tree.Free path) :
    Ends (tryCatch (writeAndRename faults path.temporary path content) fun error => do
        Saving.discard path.temporary
        throw error) tree
      (tree.Moves path.temporary path content)
      (LateFailure admitted (tree.Clears path.temporary)) := by
  apply (ends_writeAndRename content hsound hsource htarget).tryCatch
  intro error between hbetween
  apply (ends_discard fun _ hplace => (head?_temporary hplace).left).bind
  intro after hafter
  exact ⟨hbetween.late, hbetween.blocked, hbetween.holds.clears hafter⟩

structure Admits (faults : Faults) (path : Path) (tree : FileTree) : Prop where
  sound : ∀ step, faults step = none
  parent : HasParent tree path
  source : tree.Free path.temporary
  target : tree.Free path

theorem ends_createDirectories (hparent : path.parent? = some parent) (htext : parent.text ≠ []) :
    Ends (perform faults .createDirectory fun tree => tree.createDirectories parent) tree
      (Prepares tree path)
      fun error after => error.step = .createDirectory ∧ ¬Admits faults path tree ∧
        Prepares tree path after := by
  have hprepares := @prepares_createDirectories tree path parent hparent htext
  rw [Ends, perform]
  cases hfaults : faults .createDirectory with
  | some fault =>
      refine ⟨rfl, fun h => ?_, prepares_refl tree path⟩
      cases (h.sound _).symm.trans hfaults
  | none =>
      cases hcreated : tree.createDirectories parent with
      | mk outcome after =>
          rw [hcreated] at hprepares
          cases outcome with
          | error fault =>
              refine ⟨rfl, fun h => ?_, hprepares⟩
              have hthere := h.parent parent hparent htext
              rw [createDirectories_of_isDirectory hthere htext] at hcreated
              cases hcreated
          | ok _ => exact hprepares

/-- First directories are created, and then the file is written under its temporary name and renamed. -/
theorem ends_saveWith (compress : Bytes → Bytes) (faults : Faults) (lexicon : Lexicon) (path : Path)
    (tree : FileTree) :
    Ends (lexicon.saveWith compress faults path) tree
      (fun after => ∃ ready, Prepares tree path ready ∧
        ready.Moves path.temporary path (lexicon.fileContent compress path.isZipped) after)
      fun error after =>
        (error.step = .createDirectory ∧ ¬Admits faults path tree ∧ Prepares tree path after) ∨
        ∃ ready, Prepares tree path ready ∧
          LateFailure (Admits faults path tree) (ready.Clears path.temporary) error after := by
  have hwrite : ∀ ready, Prepares tree path ready →
      Ends (tryCatch (writeAndRename faults path.temporary path (lexicon.fileContent compress path.isZipped))
          fun error => do
            Saving.discard path.temporary
            throw error) ready
        (fun after => ∃ ready, Prepares tree path ready ∧
          ready.Moves path.temporary path (lexicon.fileContent compress path.isZipped) after)
        fun error after =>
          (error.step = .createDirectory ∧ ¬Admits faults path tree ∧ Prepares tree path after) ∨
          ∃ ready, Prepares tree path ready ∧
            LateFailure (Admits faults path tree) (ready.Clears path.temporary) error after := by
    intro ready hready
    have hends := @ends_writeOrDiscard ready path faults (Admits faults path tree)
      (lexicon.fileContent compress path.isZipped) (fun h => h.sound)
      (fun h => hready.still h.parent ▸ h.source) (fun h => hready.still h.parent ▸ h.target)
    apply hends.imp
    · intro after hafter
      exact ⟨ready, hready, hafter⟩
    · intro error after hafter
      exact Or.inr ⟨ready, hready, hafter⟩
  rw [Lexicon.saveWith]
  cases hparent : path.parent? with
  | none => exact hwrite tree (prepares_refl tree path)
  | some parent =>
      simp only []
      split_ifs with htext
      · have hcreate := @ends_createDirectories tree path parent faults hparent htext
        exact Ends.bind (hcreate.imp (fun _ => id) fun _ _ => Or.inl) hwrite
      · exact hwrite tree (prepares_refl tree path)

end Saving

/-!
# Failures

What was at the path is there after a failure, unless the temporary file has the same name.
-/

variable {spots : Place → Prop} {entry : FileEntry}

theorem Prepares.elsewhere (h : Prepares tree path ready) (hchanges : ready.ChangesOnly spots after)
    (hplace : ¬spots place) : tree.Keeps after place := by
  rw [Keeps, hchanges.elsewhere place hplace]
  exact h.keeps place

theorem Prepares.find_after (h : Prepares tree path ready)
    (hchanges : ready.ChangesAt path.temporary after)
    (hextension : path.extension? ≠ some "sltmp".toList)
    (hfind : tree.find path = .ok (place, entry)) : after.find path = .ok (place, entry) := by
  cases entry with
  | directory => exact hchanges.keeps.find (h.keepsDirectories.find hfind)
  | file content =>
      rcases find_eq_file_iff.mp hfind with ⟨hplace, hentry, hnames⟩
      have hready := h.keepsDirectories.place? hplace
      refine find_eq_file_iff.mpr ⟨hchanges.keeps.place? hready, ?_, hnames⟩
      rw [hchanges.elsewhere place (place?_temporary_ne hextension hready)]
      exact (h.keeps place).entry hentry

theorem Prepares.entry_before (h : Prepares tree path ready)
    (hchanges : ready.ChangesAt path.temporary after)
    (hextension : path.extension? ≠ some "sltmp".toList) (hback : "..".toList ∉ path.parts)
    (hfind : after.find path = .ok (place, entry)) : tree.entry? place = some entry := by
  cases entry with
  | directory =>
      have hready := hchanges.kept.find hfind
      rw [← h.deep place (length_names_of_find hready hback).ge]
      rcases find_eq_directory_iff.mp hready with ⟨_, _, _, hentry⟩
      exact hentry
  | file content =>
      rcases find_eq_file_iff.mp hfind with ⟨hplace, hentry, _⟩
      rw [hchanges.place?_eq] at hplace
      rw [hchanges.elsewhere place (place?_temporary_ne hextension hplace)] at hentry
      exact (h.keeps place).file hentry

/-!
# Loading what was saved
-/

theorem symbols_ofBytes_toUtf8 (text : Text) :
    (ByteStream.ofBytes (toUtf8 text)).symbols = Symbol.ofText text := by
  simp [ByteStream.symbols, ByteStream.ofBytes, Utf8.decode_toUtf8, Symbol.ofText]

variable {document : CatalogDocument} {lexicon : Lexicon} {compress : Bytes → Bytes}

theorem load_fileContent (hcompress : ∀ content, Gzip.decode (compress content) = (content, none))
    (hrange : document.InRange) (h : document.toLexicon = .ok lexicon)
    (hplace : tree.place? path = some place)
    (hentry : tree.entry? place = some (.file (lexicon.fileContent compress path.isZipped)))
    (hnames : namesDirectory path = false) :
    ∃ again, Lexicon.load tree path = .ok again ∧ again.toDocument = lexicon.toDocument := by
  have hfind := find_eq_file_iff.mpr ⟨hplace, hentry, hnames⟩
  have hopened : tree.openFile path = .ok (.ofBytes (lexicon.fileContent compress path.isZipped)) := by
    rw [openFile, hfind]
    rfl
  have hread : ∃ again, Lexicon.ofSymbols (if path.isZipped
      then (ByteStream.ofBytes (lexicon.fileContent compress path.isZipped)).unzipped
      else .ofBytes (lexicon.fileContent compress path.isZipped)).symbols = .ok again ∧
        again.toDocument = lexicon.toDocument := by
    apply CatalogDocument.exists_again hrange h
    cases path.isZipped with
    | true =>
        have hunzipped : (ByteStream.ofBytes (lexicon.fileContent compress true)).unzipped =
            .ofBytes (toUtf8 lexicon.toDocument.toJson.compact) := by
          simp only [Lexicon.fileContent, if_true, ByteStream.unzipped, ByteStream.ofBytes,
            hcompress]
        rw [if_pos rfl, hunzipped, symbols_ofBytes_toUtf8]
        exact Mark.list_compact_self _
    | false =>
        have hplain : lexicon.fileContent compress false = toUtf8 lexicon.toDocument.toJson.pretty := rfl
        rw [if_neg Bool.false_ne_true, hplain, symbols_ofBytes_toUtf8]
        exact Mark.list_pretty _
  rcases hread with ⟨again, hagain, hsame⟩
  refine ⟨again, ?_, hsame⟩
  rw [Lexicon.load, hopened, Lexicon.ofOpened]
  simp only [hagain]
  rfl

/-!
# What saving changes
-/

/-- The tree after a lexicon was saved.  Under the temporary name there is nothing, unless that is the name
of the lexicon's own file. -/
structure Saved (lexicon : Lexicon) (path : Path) (tree after : FileTree) : Prop where
  elsewhere : ∀ place, after.place? path.temporary ≠ some place → after.place? path ≠ some place →
    tree.Keeps after place
  gone : ∀ place, after.place? path.temporary = some place → after.place? path ≠ some place →
    after.entry? place = none
  readsBack : ∃ again, Lexicon.load after path = .ok again ∧
    again.toDocument = lexicon.toDocument

/-- The tree after a lexicon was not saved, since something stood in the way.  If its path does not have the
temporary extension, then it still leads to what was there.  It leads to nothing new either, unless it leads
back on its way and so to a directory that was created for it. -/
structure Unsaved (faults : Saving.Faults) (path : Path) (tree : FileTree) (error : SaveError)
    (after : FileTree) : Prop where
  blocked : ¬Saving.Admits faults path tree
  elsewhere : ∀ place, after.place? path.temporary ≠ some place → tree.Keeps after place
  early : error.step = .createDirectory → ∀ place, tree.Keeps after place
  gone : error.step ≠ .createDirectory → ∀ place content,
    after.place? path.temporary = some place → after.entry? place ≠ some (.file content)
  stays : path.extension? ≠ some "sltmp".toList → ∀ place entry,
    tree.find path = .ok (place, entry) → after.find path = .ok (place, entry)
  nothingNew : path.extension? ≠ some "sltmp".toList → "..".toList ∉ path.parts → ∀ place entry,
    after.find path = .ok (place, entry) → tree.entry? place = some entry

theorem saved_of_moves (hcompress : ∀ content, Gzip.decode (compress content) = (content, none))
    (hrange : document.InRange) (h : document.toLexicon = .ok lexicon)
    (hready : Prepares tree path ready)
    (hmoves : ready.Moves path.temporary path (lexicon.fileContent compress path.isZipped) after) :
    Saved lexicon path tree after := by
  have hsame := hmoves.changes.place?_eq
  rcases hmoves.leads with ⟨entered, hentered, hentry⟩
  refine ⟨?_, ?_, ?_⟩
  · intro place htemporary hplace
    rw [hsame] at htemporary hplace
    exact hready.elsewhere hmoves.changes (not_or.mpr ⟨htemporary, hplace⟩)
  · intro place htemporary hplace
    rw [hsame] at htemporary hplace
    exact hmoves.gone place htemporary hplace
  · rw [← hsame] at hentered
    exact load_fileContent hcompress hrange h hentered hentry hmoves.names

theorem unsaved_of_changesAt {faults : Saving.Faults} {error : SaveError}
    (hblocked : ¬Saving.Admits faults path tree) (hready : Prepares tree path ready)
    (hchanges : ready.ChangesAt path.temporary after)
    (hearly : error.step = .createDirectory → ∀ place, tree.Keeps after place)
    (hgone : error.step ≠ .createDirectory → ∀ place content,
      ready.place? path.temporary = some place → after.entry? place ≠ some (.file content)) :
    Unsaved faults path tree error after where
  blocked := hblocked
  elsewhere place hplace := by
    rw [hchanges.place?_eq] at hplace
    exact hready.elsewhere hchanges hplace
  early := hearly
  gone hstep place content hplace := by
    rw [hchanges.place?_eq] at hplace
    exact hgone hstep place content hplace
  stays hextension _ _ := hready.find_after hchanges hextension
  nothingNew hextension hback _ _ := hready.entry_before hchanges hextension hback

/-!
# A desk to save on and a compressor

The compressor packs one document with matches and codes, and every other one is stored.
-/

def desk : FileTree :=
  { entries := [(Place.workingDirectory.child "out.sltmp".toList, .file (toUtf8 "mine".toList))] }

def renamingFails : Saving.Faults
  | .rename => some .busy
  | _ => none

def plainNames : Bytes :=
  toUtf8 "\x7b\"languages\":\x7b\"en\":[\"fire\"],\"de\":[\"feuer\"]\x7d,".toList ++
    toUtf8 "\"overlaps\":[],\"warnings\":[]\x7d".toList

/-- The document in a block with the fixed codes, which refers back to what came before. -/
def packedNames : Bytes :=
  [0x1f, 0x8b, 0x08, 0x00, 0x00, 0x00, 0x00, 0x00, 0x00, 0xff, 0xab, 0x56, 0xca, 0x49,
   0xcc, 0x4b, 0x2f, 0x4d, 0x4c, 0x4f, 0x2d, 0x56, 0xb2, 0xaa, 0x56, 0x4a, 0xcd, 0x53,
   0xb2, 0x8a, 0x56, 0x4a, 0xcb, 0x2c, 0x4a, 0x55, 0x8a, 0xd5, 0x51, 0x4a, 0x49, 0x05,
   0xf3, 0x52, 0x4b, 0x53, 0x8b, 0x94, 0x62, 0x6b, 0x75, 0x94, 0xf2, 0xcb, 0x52, 0x8b,
   0x72, 0x12, 0x0b, 0x80, 0x2a, 0xa3, 0x81, 0xb2, 0xe5, 0x89, 0x45, 0x79, 0x99, 0x79,
   0xe9, 0x60, 0x5e, 0x2d, 0x00, 0x50, 0x58, 0xf0, 0x62, 0x48, 0x00, 0x00, 0x00]

theorem checksum_plainNames : Gzip.checksum plainNames = 0x62f05850 := by
  -- the remainders are evaluated from the last one on, so many bytes at once would nest them too deep
  have hfront : (toUtf8 "\x7b\"languages\":\x7b\"en\":[\"fire\"],\"de\":[\"feuer\"]\x7d,".toList).foldl
      Gzip.absorb 0xFFFFFFFF = 0x684adbf1 := by
    decide +kernel
  have hback : (toUtf8 "\"overlaps\":[],\"warnings\":[]\x7d".toList).foldl Gzip.absorb
      0x684adbf1 = 0x9d0fa7af := by
    decide +kernel
  rw [Gzip.checksum, plainNames, List.foldl_append, hfront, hback]
  decide

theorem decode_packedNames : Gzip.decode packedNames = (plainNames, none) := by
  have hheader : Gzip.skipHeader packedNames = .ok (packedNames.drop 10) := by
    decide +kernel
  have hinflate : Gzip.inflate (packedNames.drop 10) = (plainNames, .ok (packedNames.drop 75)) := by
    decide +kernel
  have htrailer : Gzip.trailer plainNames = packedNames.drop 75 := by
    rw [Gzip.trailer, checksum_plainNames]
    decide +kernel
  have hsplit : Gzip.split 8 (packedNames.drop 75) = .ok (packedNames.drop 75, []) := by
    decide +kernel
  rw [Gzip.decode, hheader]
  simp only [hinflate, hsplit, htrailer, if_true]

def packing (content : Bytes) : Bytes :=
  if content = plainNames then packedNames else Gzip.store content

theorem decode_packing (content : Bytes) : Gzip.decode (packing content) = (content, none) := by
  by_cases hplain : content = plainNames
  · rw [packing, if_pos hplain, hplain]
    exact decode_packedNames
  · rw [packing, if_neg hplain]
    exact Gzip.decode_store content

/-!
# Saving as a whole
-/

/-- Whichever step of saving a lexicon fails, no other file is touched.  If nothing stands in the way, no step
fails, and the lexicon is read back from its file, with any compressor whose files are decoded to their content. -/
theorem saveWith_replaces_or_keeps
    (hcompress : ∀ content, Gzip.decode (compress content) = (content, none))
    (hrange : document.InRange) (h : document.toLexicon = .ok lexicon) (faults : Saving.Faults)
    (path : Path) (tree : FileTree) :
    (lexicon.saveWith compress faults path).Ends tree (Saved lexicon path tree)
      (Unsaved faults path tree) := by
  apply (Saving.ends_saveWith compress faults lexicon path tree).imp
  · rintro after ⟨ready, hready, hmoves⟩
    exact saved_of_moves hcompress hrange h hready hmoves
  · rintro error after (⟨hstep, hblocked, hready⟩ | ⟨ready, hready, hstep, hblocked, hclears⟩)
    · exact unsaved_of_changesAt hblocked hready (changesOnly_refl _ _) (fun _ => hready.keeps)
        (absurd hstep)
    · exact unsaved_of_changesAt hblocked hready hclears.changes (fun h => absurd h hstep)
        (fun _ => hclears.gone)

theorem saveWith_replaces_or_keeps_desk :
    ∃ lexicon, (CatalogDocument.named "fire".toList "feuer".toList).toLexicon = .ok lexicon ∧
      (∀ content, Gzip.decode (packing content) = (content, none)) ∧
      Saved lexicon ⟨"out.gz".toList⟩ desk
        (lexicon.saveWith packing Saving.noFaults ⟨"out.gz".toList⟩ desk).2 ∧
      FileTree.entry? (lexicon.saveWith packing Saving.noFaults ⟨"out.gz".toList⟩ desk).2
        (Place.workingDirectory.child "out.gz".toList) = some (.file packedNames) ∧
      Saved lexicon ⟨"out.json".toList⟩ desk
        (lexicon.saveWith packing Saving.noFaults ⟨"out.json".toList⟩ desk).2 ∧
      Unsaved renamingFails ⟨"new/out.gz".toList⟩ desk ⟨.rename, .busy⟩
        (lexicon.saveWith packing renamingFails ⟨"new/out.gz".toList⟩ desk).2 := by
  have hlexicon := eq_ok_get_toOption CatalogDocument.loads_fire
  have hrange : (CatalogDocument.named "fire".toList "feuer".toList).InRange := by
    unfold CatalogDocument.InRange
    decide
  have hzipped := saveWith_replaces_or_keeps decode_packing hrange hlexicon
    Saving.noFaults ⟨"out.gz".toList⟩ desk
  have hplain := saveWith_replaces_or_keeps decode_packing hrange hlexicon
    Saving.noFaults ⟨"out.json".toList⟩ desk
  have hunsaved := saveWith_replaces_or_keeps decode_packing hrange hlexicon
    renamingFails ⟨"new/out.gz".toList⟩ desk
  refine ⟨_, hlexicon, decode_packing, hzipped.of_ok ?_, ?_, hplain.of_ok ?_, hunsaved.of_error ?_⟩
  · decide +kernel
  · decide +kernel
  · decide +kernel
  · decide +kernel

/-- A file that has the temporary name is gone afterwards.  So is the file at the path itself if that has the
temporary extension and saving fails, and a path that leads back may lead to a new directory. -/
theorem save_loses_temporary :
    ∃ lexicon, CatalogDocument.repeated.toLexicon = .ok lexicon ∧
      (desk.find ⟨"out.sltmp".toList⟩).toOption =
        some (Place.workingDirectory.child "out.sltmp".toList, .file (toUtf8 "mine".toList)) ∧
      (lexicon.save desk ⟨"out.json".toList⟩).1 = .ok () ∧
      (lexicon.save desk ⟨"out.json".toList⟩).2.find ⟨"out.sltmp".toList⟩ = .error .noEntry ∧
      (lexicon.saveWith Gzip.store renamingFails ⟨"out.sltmp".toList⟩ desk).1 =
        .error ⟨.rename, .busy⟩ ∧
      (lexicon.saveWith Gzip.store renamingFails ⟨"out.sltmp".toList⟩ desk).2.find
        ⟨"out.sltmp".toList⟩ = .error .noEntry ∧
      (lexicon.save desk ⟨"new/../new".toList⟩).1 = .error ⟨.rename, .isDirectory⟩ ∧
      desk.find ⟨"new/../new".toList⟩ = .error .noEntry ∧
      (lexicon.save desk ⟨"new/../new".toList⟩).2.find ⟨"new/../new".toList⟩ =
        .ok (Place.workingDirectory.child "new".toList, .directory) := by
  refine ⟨_, eq_ok_get_toOption CatalogDocument.loads_repeated, ?_⟩
  decide +kernel

end Polyquery
