import Polyquery.Proofs.Files.Tree

/-!
# What changes

A change to a file tree is described by the places that it may touch.  If no directory comes or goes at
them, every path leads to the same place before and after it.
-/

namespace Polyquery

open Text Path

namespace FileTree

variable {tree after between : FileTree} {path : Path} {place other : Place} {content : Bytes}

/-!
# Kept entries
-/

/-- What was at a place is still there, except that a directory may have been created where nothing was. -/
def Keeps (tree after : FileTree) (place : Place) : Prop :=
  after.entry? place = tree.entry? place ∨
    (tree.entry? place = none ∧ after.entry? place = some .directory)

theorem GrowsTo.keeps {depth : Nat} (h : tree.GrowsTo after depth) (place : Place) :
    tree.Keeps after place := by
  rcases h place with hsame | ⟨hnone, hdirectory, _⟩
  · exact Or.inl hsame
  · exact Or.inr ⟨hnone, hdirectory⟩

theorem Keeps.entry {entry : FileEntry} (h : tree.Keeps after place)
    (hentry : tree.entry? place = some entry) : after.entry? place = some entry := by
  rcases h with hsame | ⟨hnone, _⟩
  · rw [hsame, hentry]
  · rw [hentry] at hnone
    cases hnone

theorem Keeps.file (h : tree.Keeps after place) (hentry : after.entry? place = some (.file content)) :
    tree.entry? place = some (.file content) := by
  rcases h with hsame | ⟨_, hdirectory⟩
  · rw [← hsame, hentry]
  · rw [hentry] at hdirectory
    cases hdirectory

/-!
# Changes at some places
-/

/-- Only the given places have changed, and neither tree has a directory that the other one lacks. -/
structure ChangesOnly (tree : FileTree) (spots : Place → Prop) (after : FileTree) : Prop where
  elsewhere : ∀ place, ¬spots place → after.entry? place = tree.entry? place
  keeps : tree.KeepsDirectories after
  kept : after.KeepsDirectories tree

variable {spots wider : Place → Prop}

theorem changesOnly_refl (tree : FileTree) (spots : Place → Prop) : tree.ChangesOnly spots tree :=
  ⟨fun _ _ => rfl, fun _ => id, fun _ => id⟩

theorem ChangesOnly.trans (h : tree.ChangesOnly spots between)
    (hafter : between.ChangesOnly spots after) : tree.ChangesOnly spots after where
  elsewhere place hplace := (hafter.elsewhere place hplace).trans (h.elsewhere place hplace)
  keeps place hplace := hafter.keeps place (h.keeps place hplace)
  kept place hplace := h.kept place (hafter.kept place hplace)

theorem ChangesOnly.mono (h : tree.ChangesOnly spots after)
    (hwider : ∀ place, spots place → wider place) : tree.ChangesOnly wider after :=
  ⟨fun place hplace => h.elsewhere place fun hspot => hplace (hwider place hspot), h.keeps, h.kept⟩

/-- A change at a place that holds no directory, before or after it. -/
theorem changesOnly_at (helsewhere : ∀ other, other ≠ place → after.entry? other = tree.entry? other)
    (hbefore : tree.entry? place ≠ some .directory) (hafter : after.entry? place ≠ some .directory) :
    tree.ChangesOnly (· = place) after where
  elsewhere := helsewhere
  keeps other hother := by
    have hne : other ≠ place := by
      rintro rfl
      exact hbefore hother
    rw [helsewhere other hne, hother]
  kept other hother := by
    have hne : other ≠ place := by
      rintro rfl
      exact hafter hother
    rw [← helsewhere other hne, hother]

theorem changesOnly_put (hnames : place.names ≠ []) (hentry : tree.entry? place ≠ some .directory) :
    tree.ChangesOnly (· = place) (tree.put place (.file content)) := by
  refine changesOnly_at ?_ hentry ?_
  · intro other hother
    rw [entry?_put hnames, if_neg hother]
  · rw [entry?_put hnames, if_pos rfl]
    exact nofun

theorem changesOnly_erase (hnames : place.names ≠ []) (hentry : tree.entry? place ≠ some .directory) :
    tree.ChangesOnly (· = place) (tree.erase place) := by
  refine changesOnly_at ?_ hentry ?_
  · intro other hother
    rw [entry?_erase hnames, if_neg hother]
  · rw [entry?_erase hnames, if_pos rfl]
    exact nofun

theorem ChangesOnly.place?_eq (h : tree.ChangesOnly spots after) (path : Path) :
    after.place? path = tree.place? path := by
  ext place
  exact ⟨h.kept.place?, h.keeps.place?⟩

/-!
# Operations
-/

theorem place_eq (h : tree.place? path = some place) (hother : tree.place? path = some other) :
    other = place :=
  Option.some.inj (hother.symm.trans h)

def ChangesAt (tree : FileTree) (path : Path) : FileTree → Prop :=
  tree.ChangesOnly fun place => tree.place? path = some place

theorem ChangesOnly.at (hplace : tree.place? path = some place)
    (h : tree.ChangesOnly (· = place) after) : tree.ChangesAt path after := by
  apply h.mono
  rintro _ rfl
  exact hplace

structure Writes (tree : FileTree) (path : Path) (content : Bytes) (after : FileTree) : Prop where
  changes : tree.ChangesAt path after
  written : ∀ place, tree.place? path = some place → after.entry? place = some (.file content)

theorem write_spec (h : tree.write path content = .ok after) : tree.Writes path content after := by
  rcases write_eq_ok h with ⟨place, hplace, _, hentry, rfl⟩
  have hnames := names_ne_nil hplace
  refine ⟨(changesOnly_put hnames hentry).at hplace, ?_⟩
  intro other hother
  rw [place_eq hplace hother, entry?_put hnames, if_pos rfl]

theorem ChangesAt.trans (h : tree.ChangesAt path between) (hafter : between.ChangesAt path after) :
    tree.ChangesAt path after := by
  rw [ChangesAt, h.place?_eq] at hafter
  exact ChangesOnly.trans h hafter

theorem ChangesAt.writes (h : tree.ChangesAt path between) (hafter : between.Writes path content after) :
    tree.Writes path content after :=
  ⟨h.trans hafter.changes, h.place?_eq path ▸ hafter.written⟩

/-- Nothing stands in the way of a file at the end of a path. -/
structure Free (tree : FileTree) (path : Path) : Prop where
  leads : ∃ place, tree.place? path = some place ∧ tree.entry? place ≠ some .directory
  names : namesDirectory path = false

theorem write_of_free (h : tree.Free path) (content : Bytes) :
    ∃ after, tree.write path content = .ok after := by
  rcases h.leads with ⟨place, hplace, hentry⟩
  rcases place?_eq_some_iff.mp hplace with ⟨_, directory, last, hleads, rfl⟩
  refine ⟨tree.put (directory.child last) (.file content), ?_⟩
  simp only [write, writePlace, hleads.holder_eq, bind, Except.bind, h.names, Bool.false_eq_true,
    if_false, if_neg hentry]
  rfl

theorem ChangesAt.free {other : Path} (h : tree.ChangesAt path after) (hfree : tree.Free other) :
    after.Free other := by
  rcases hfree.leads with ⟨place, hplace, hentry⟩
  exact ⟨⟨place, h.keeps.place? hplace, fun hafter => hentry (h.kept place hafter)⟩, hfree.names⟩

structure Moves (tree : FileTree) (source target : Path) (content : Bytes) (after : FileTree) :
    Prop where
  changes : tree.ChangesOnly
    (fun place => tree.place? source = some place ∨ tree.place? target = some place) after
  leads : ∃ place, tree.place? target = some place ∧ after.entry? place = some (.file content)
  names : namesDirectory target = false
  gone : ∀ place, tree.place? source = some place → tree.place? target ≠ some place →
    after.entry? place = none

theorem rename_spec {source target : Path} (h : tree.rename source target = .ok after)
    (hcontent : ∀ place, tree.place? source = some place →
      tree.entry? place = some (.file content)) :
    tree.Moves source target content after := by
  rcases rename_eq_ok h with ⟨left, entered, found, hleft, hentered, hfound, hnames, hcases⟩
  have hentry := hcontent left hleft
  rw [hentry, Option.some.injEq, FileEntry.file.injEq] at hfound
  subst hfound
  rcases hcases with ⟨rfl, rfl⟩ | ⟨hne, hdirectory, rfl⟩
  · refine ⟨changesOnly_refl _ _, ⟨left, hentered, hentry⟩, hnames, ?_⟩
    intro place hplace hother
    rw [place_eq hleft hplace] at hother
    exact absurd hentered hother
  · have hput := names_ne_nil hentered
    have herase := names_ne_nil hleft
    have hfile : tree.entry? left ≠ some .directory := by
      rw [hentry]
      exact nofun
    have hfree : FileTree.entry? (tree.erase left) entered ≠ some .directory := by
      rw [entry?_erase herase, if_neg hne.symm]
      exact hdirectory
    refine ⟨?_, ⟨entered, hentered, ?_⟩, hnames, ?_⟩
    · have hfirst := (changesOnly_erase herase hfile).at hleft
      refine (ChangesOnly.mono hfirst fun _ => Or.inl).trans ?_
      apply (changesOnly_put hput hfree).mono
      rintro _ rfl
      exact Or.inr hentered
    · rw [entry?_put hput, if_pos rfl]
    · intro place hplace _
      rw [place_eq hleft hplace, entry?_put hput, if_neg hne, entry?_erase herase, if_pos rfl]

theorem rename_of_free {source target : Path} (hsource : tree.Free source)
    (htarget : tree.Free target)
    (hcontent : ∀ place, tree.place? source = some place →
      tree.entry? place = some (.file content)) :
    ∃ after, tree.rename source target = .ok after := by
  rcases hsource.leads with ⟨left, hleft, _⟩
  rcases htarget.leads with ⟨entered, hentered, hentry⟩
  have hfile := hcontent left hleft
  rcases place?_eq_some_iff.mp hleft with ⟨_, sourceDirectory, sourceName, hfrom, rfl⟩
  rcases place?_eq_some_iff.mp hentered with ⟨_, targetDirectory, targetName, hto, rfl⟩
  simp only [rename, hfrom.holder_eq, hto.holder_eq, bind, Except.bind, hfile, hsource.names,
    htarget.names, Bool.or_false, Bool.false_eq_true, if_false, if_neg hentry]
  split_ifs
  · exact ⟨_, rfl⟩
  · exact ⟨_, rfl⟩

theorem ChangesAt.moves {source target : Path} (h : tree.ChangesAt source between)
    (hafter : between.Moves source target content after) : tree.Moves source target content after := by
  rcases hafter with ⟨hchanges, hleads, hnames, hgone⟩
  simp only [h.place?_eq] at hchanges hleads hgone
  exact ⟨(ChangesOnly.mono h fun _ => Or.inl).trans hchanges, hleads, hnames, hgone⟩

theorem remove_eq_ok (h : tree.remove path = .ok after) :
    ∃ place content, tree.find path = .ok (place, .file content) ∧ after = tree.erase place := by
  rw [remove] at h
  cases hfind : tree.find path with
  | error fault => simp [hfind, bind, Except.bind] at h
  | ok found =>
      rcases found with ⟨place, content | _⟩
      · simp only [hfind, bind, Except.bind, Except.ok.injEq] at h
        exact ⟨place, content, rfl, h.symm⟩
      · simp [hfind, bind, Except.bind] at h

structure Clears (tree : FileTree) (path : Path) (after : FileTree) : Prop where
  changes : tree.ChangesAt path after
  gone : ∀ place content, tree.place? path = some place → after.entry? place ≠ some (.file content)

theorem clears_of_remove (h : tree.remove path = .ok after) : tree.Clears path after := by
  rcases remove_eq_ok h with ⟨place, content, hfind, rfl⟩
  rcases find_eq_file_iff.mp hfind with ⟨hplace, hentry, _⟩
  have hnames := names_ne_nil hplace
  have hfile : tree.entry? place ≠ some .directory := by
    rw [hentry]
    exact nofun
  refine ⟨(changesOnly_erase hnames hfile).at hplace, ?_⟩
  intro other content hother
  rw [place_eq hplace hother, entry?_erase hnames, if_pos rfl]
  exact nofun

theorem clears_of_remove_error {fault : FileFault} (h : tree.remove path = .error fault)
    (hnames : ∀ place, tree.place? path = some place → namesDirectory path = false) :
    tree.Clears path tree := by
  refine ⟨changesOnly_refl _ _, ?_⟩
  intro place content hplace hentry
  have hfind := find_eq_file_iff.mpr ⟨hplace, hentry, hnames place hplace⟩
  rw [remove, hfind] at h
  cases h

theorem ChangesAt.clears (h : tree.ChangesAt path between) (hafter : between.Clears path after) :
    tree.Clears path after :=
  ⟨h.trans hafter.changes, h.place?_eq path ▸ hafter.gone⟩

/-!
# Finding what was there
-/

theorem find_eq_directory_iff :
    tree.find path = .ok (place, .directory) ↔
      ∃ origin, start path = .ok origin ∧ path.parts.foldlM tree.step origin = .ok place ∧
        tree.entry? place = some .directory := by
  constructor
  · intro h
    rw [find] at h
    cases horigin : start path with
    | error fault => simp [horigin, bind, Except.bind] at h
    | ok origin =>
        cases hwalk : path.parts.foldlM tree.step origin with
        | error fault => simp [horigin, hwalk, bind, Except.bind] at h
        | ok found =>
            simp only [horigin, hwalk, bind, Except.bind] at h
            split at h
            · cases h
            · split_ifs at h
              cases h
            · rename_i hentry
              cases h
              exact ⟨origin, rfl, hwalk, hentry⟩
  · rintro ⟨origin, horigin, hwalk, hentry⟩
    simp only [find, horigin, hwalk, hentry, bind, Except.bind]

theorem KeepsDirectories.find (h : tree.KeepsDirectories after)
    (hfind : tree.find path = .ok (place, .directory)) : after.find path = .ok (place, .directory) := by
  rcases find_eq_directory_iff.mp hfind with ⟨origin, horigin, hwalk, hentry⟩
  exact find_eq_directory_iff.mpr ⟨origin, horigin, h.foldlM hwalk hentry, h place hentry⟩

theorem exists_find_of_isDirectory (h : tree.isDirectory path = true) :
    ∃ place, tree.find path = .ok (place, .directory) := by
  rw [isDirectory] at h
  split at h
  · rename_i place hfind
    exact ⟨place, hfind⟩
  · cases h

theorem createDirectory_ne_ok (h : tree.isDirectory path = true) :
    tree.createDirectory path ≠ .ok after := by
  intro hcreated
  rcases createDirectory_eq_ok hcreated with ⟨place, hplace, hnone, _⟩
  rcases place?_eq_some_iff.mp hplace with ⟨earlier, directory, last, hleads, rfl⟩
  rcases hleads.walk with ⟨origin, horigin, hwalk⟩
  rcases exists_find_of_isDirectory h with ⟨found, hfind⟩
  rcases find_eq_directory_iff.mp hfind with ⟨_, hstart, hwhole, hentry⟩
  cases horigin.symm.trans hstart
  rw [hleads.parts_eq, foldlM_concat hwalk] at hwhole
  cases (step_eq_ok_iff.mp hwhole).right with
  | stay hdot => exact hleads.notDot hdot
  | up hback => exact hleads.notBack hback
  | down _ _ _ hfound =>
      rw [hnone] at hentry
      cases hentry

theorem createDirectories_of_isDirectory (h : tree.isDirectory path = true) (htext : path.text ≠ []) :
    tree.createDirectories path = (.ok (), tree) := by
  have hensure : tree.ensureDirectory path = .ok tree := by
    rw [ensureDirectory]
    split
    · rename_i hcreated
      exact absurd hcreated (createDirectory_ne_ok h)
    · rw [if_pos h]
  rw [createDirectories, createDirectoriesWithin, if_neg htext, hensure]

theorem length_names_of_find (h : tree.find path = .ok (place, .directory))
    (hback : "..".toList ∉ path.parts) : place.names.length = (namesOf path.text).length := by
  rcases find_eq_directory_iff.mp h with ⟨origin, horigin, hwalk, _⟩
  rw [length_names_of_walk_down hwalk hback, names_of_start horigin, namesOf_text_eq_filter]
  exact Nat.zero_add _

end FileTree
end Polyquery
