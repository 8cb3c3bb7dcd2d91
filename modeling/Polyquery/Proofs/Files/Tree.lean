import Polyquery.Files.Tree
import Polyquery.Proofs.Files.Path

/-!
# Operations on file trees

What an operation changes is said place by place.  Where a path leads depends on the directories only, so it
stays the same while files come and go, and a path that leads somewhere leads there also when there are more
directories.
-/

namespace Polyquery

open Text Path

namespace FileTree

variable {tree after : FileTree} {place other : Place} {path : Path} {content : Bytes}

/-!
# Entries
-/

theorem lookup_filter_ne {entries : List (Place × FileEntry)} :
    (entries.filter fun entry => entry.1 ≠ place).lookup other =
      if other = place then none else entries.lookup other := by
  induction entries with
  | nil => simp
  | cons entry entries ih =>
      rcases entry with ⟨first, entry⟩
      by_cases hfirst : first = place
      · rw [List.filter_cons_of_neg (by simpa using hfirst), ih]
        by_cases hother : other = place
        · rw [if_pos hother, if_pos hother]
        · have hne : (other == first) = false := by
            rw [beq_eq_false_iff_ne, hfirst]
            exact hother
          simp only [if_neg hother, List.lookup_cons, hne]
      · rw [List.filter_cons_of_pos (by simpa using hfirst), List.lookup_cons, ih, List.lookup_cons]
        by_cases hother : other = place
        · have hne : (other == first) = false := by
            rw [beq_eq_false_iff_ne, hother]
            exact fun hsame => hfirst hsame.symm
          simp only [hne, if_pos hother]
        · simp only [if_neg hother]

theorem entry?_put (h : place.names ≠ []) (entry : FileEntry) :
    FileTree.entry? (tree.put place entry) other =
      if other = place then some entry else tree.entry? other := by
  by_cases hother : other = place
  · rw [if_pos hother, hother, entry?, if_neg h, put, List.lookup_cons, beq_self_eq_true]
  · rw [if_neg hother, entry?, entry?, put, List.lookup_cons, beq_eq_false_iff_ne.mpr hother]

theorem entry?_erase (h : place.names ≠ []) :
    FileTree.entry? (tree.erase place) other = if other = place then none else tree.entry? other := by
  rw [ entry?, entry?, erase, lookup_filter_ne]
  by_cases hother : other = place
  · rw [if_pos hother, if_pos hother, hother, if_neg h]
  · rw [if_neg hother, if_neg hother]

theorem entry?_of_names_eq_nil (h : place.names = []) : tree.entry? place = some .directory :=
  if_pos h

/-!
# Where a path leads
-/

/-- The place at which a path names a file or a directory, if the directories on the way are there. -/
def place? (tree : FileTree) (path : Path) : Option Place :=
  match tree.holder path with
  | .ok (directory, some name) => some (directory.child name)
  | _ => none

/-- The parts of a path but the last one lead to a directory, which can hold the last one. -/
structure LeadsTo (tree : FileTree) (path : Path) (earlier : List Text) (directory : Place)
    (last : Text) : Prop where
  parts_eq : path.parts = earlier ++ [last]
  walk : ∃ origin, start path = .ok origin ∧ earlier.foldlM tree.step origin = .ok directory
  entry_eq : tree.entry? directory = some .directory
  notDot : last ≠ ".".toList
  notBack : last ≠ "..".toList
  short : ¬maxNameSize < byteSize last

variable {earlier : List Text} {directory : Place} {last : Text}

theorem LeadsTo.holder_eq (h : tree.LeadsTo path earlier directory last) :
    tree.holder path = .ok (directory, some last) := by
  rcases h.walk with ⟨origin, horigin, hwalk⟩
  have hlast : ¬(last = ".".toList ∨ last = "..".toList) := not_or.mpr ⟨h.notDot, h.notBack⟩
  simp only [holder, horigin, h.parts_eq, bind, Except.bind, List.reverse_append,
    List.reverse_singleton, List.singleton_append, List.reverse_reverse, hwalk, h.entry_eq,
    if_neg hlast, if_neg h.short]

theorem leadsTo_of_holder (h : tree.holder path = .ok (directory, some last)) :
    ∃ earlier, tree.LeadsTo path earlier directory last := by
  rw [holder] at h
  cases horigin : start path with
  | error fault => simp [horigin, bind, Except.bind] at h
  | ok origin =>
      cases hparts : path.parts.reverse with
      | nil => simp [horigin, hparts, bind, Except.bind] at h
      | cons part before =>
          have hsplit : path.parts = before.reverse ++ [part] := by
            rw [← List.reverse_reverse path.parts, hparts, List.reverse_cons]
          cases hwalk : before.reverse.foldlM tree.step origin with
          | error fault => simp [horigin, hparts, hwalk, bind, Except.bind] at h
          | ok directory' =>
              simp only [horigin, hparts, hwalk, bind, Except.bind] at h
              split at h
              · cases h
              · cases h
              · rename_i hentry
                split at h
                · cases h
                · rename_i hlast
                  rw [not_or] at hlast
                  split at h
                  · cases h
                  · rename_i hshort
                    cases h
                    exact ⟨before.reverse, hsplit, ⟨origin, horigin, hwalk⟩, hentry, hlast.left,
                      hlast.right, hshort⟩

theorem place?_eq_some_iff :
    tree.place? path = some place ↔
      ∃ earlier directory last, tree.LeadsTo path earlier directory last ∧
        place = directory.child last := by
  constructor
  · intro h
    rw [place?] at h
    split at h
    · rename_i directory name hholder
      rcases leadsTo_of_holder hholder with ⟨earlier, hleads⟩
      exact ⟨earlier, directory, name, hleads, (Option.some.inj h).symm⟩
    · cases h
  · rintro ⟨earlier, directory, last, hleads, rfl⟩
    rw [place?, hleads.holder_eq]

theorem names_ne_nil (h : tree.place? path = some place) : place.names ≠ [] := by
  rcases place?_eq_some_iff.mp h with ⟨_, directory, last, _, rfl⟩
  exact List.cons_ne_nil last directory.names

/-!
# Walking through directories
-/

inductive Step (tree : FileTree) (place : Place) (part : Text) : Place → Prop where
  | stay (h : part = ".".toList) : Step tree place part place
  | up (h : part = "..".toList) : Step tree place part place.parent
  | down (notDot : part ≠ ".".toList) (notBack : part ≠ "..".toList)
      (short : ¬maxNameSize < byteSize part) (found : (tree.entry? (place.child part)).isSome) :
      Step tree place part (place.child part)

theorem step_eq_ok_iff {part : Text} :
    tree.step place part = .ok other ↔
      tree.entry? place = some .directory ∧ tree.Step place part other := by
  constructor
  · intro h
    simp only [step] at h
    split at h
    · cases h
    · cases h
    · rename_i hplace
      refine ⟨hplace, ?_⟩
      split_ifs at h with hdot hback hlong hfound <;> cases h
      · exact .stay hdot
      · exact .up hback
      · exact .down hdot hback hlong hfound
  · rintro ⟨hplace, h⟩
    cases h with
    | stay hdot => simp only [step, hplace, if_pos hdot]
    | up hback =>
        have hdot : part ≠ ".".toList := by
          rw [hback]
          decide
        simp only [step, hplace, if_neg hdot, if_pos hback]
    | down hdot hback hshort hfound =>
        simp only [step, hplace, if_neg hdot, if_neg hback, if_neg hshort, if_pos hfound]

theorem isDirectory_of_foldlM (h : earlier.foldlM tree.step place = .ok directory)
    (hdirectory : tree.entry? directory = some .directory) :
    tree.entry? place = some .directory := by
  cases earlier with
  | nil =>
      cases h
      exact hdirectory
  | cons part earlier =>
      rw [List.foldlM_cons] at h
      cases hstep : tree.step place part with
      | error fault => simp [hstep, bind, Except.bind] at h
      | ok next => exact (step_eq_ok_iff.mp hstep).left

theorem foldlM_concat (hwalk : earlier.foldlM tree.step place = .ok directory) :
    (earlier ++ [last]).foldlM tree.step place = tree.step directory last := by
  rw [List.foldlM_append, hwalk]
  change [last].foldlM tree.step directory = _
  rw [List.foldlM_cons]
  exact bind_pure _

def KeepsDirectories (tree after : FileTree) : Prop :=
  ∀ place, tree.entry? place = some .directory → after.entry? place = some .directory

theorem KeepsDirectories.step (h : tree.KeepsDirectories after) {part : Text}
    (hstep : tree.step place part = .ok other) (hother : tree.entry? other = some .directory) :
    after.step place part = .ok other := by
  rcases step_eq_ok_iff.mp hstep with ⟨hplace, hcases⟩
  refine step_eq_ok_iff.mpr ⟨h place hplace, ?_⟩
  cases hcases with
  | stay hdot => exact .stay hdot
  | up hback => exact .up hback
  | down hdot hback hshort _ =>
      refine .down hdot hback hshort ?_
      rw [h _ hother]
      rfl

theorem KeepsDirectories.foldlM (h : tree.KeepsDirectories after)
    (hwalk : earlier.foldlM tree.step place = .ok directory)
    (hdirectory : tree.entry? directory = some .directory) :
    earlier.foldlM after.step place = .ok directory := by
  induction earlier generalizing place with
  | nil => exact hwalk
  | cons part earlier ih =>
      rw [List.foldlM_cons] at hwalk ⊢
      cases hstep : tree.step place part with
      | error fault => simp [hstep, bind, Except.bind] at hwalk
      | ok next =>
          rw [hstep] at hwalk
          have hrest : earlier.foldlM tree.step next = .ok directory := hwalk
          rw [h.step hstep (isDirectory_of_foldlM hrest hdirectory)]
          exact ih hrest

theorem KeepsDirectories.place? (h : tree.KeepsDirectories after)
    (hplace : tree.place? path = some place) : after.place? path = some place := by
  rcases place?_eq_some_iff.mp hplace with ⟨earlier, directory, last, hleads, rfl⟩
  rcases hleads.walk with ⟨origin, horigin, hwalk⟩
  refine place?_eq_some_iff.mpr ⟨earlier, directory, last, ?_, rfl⟩
  exact { hleads with
    walk := ⟨origin, horigin, h.foldlM hwalk hleads.entry_eq⟩
    entry_eq := h directory hleads.entry_eq }

/-!
# Finding files

A part that leads back leads to a directory, since a walk only passes through directories.
-/

theorem names_of_start {origin : Place} (h : start path = .ok origin) : origin.names = [] := by
  rw [start] at h
  split_ifs at h <;> cases h <;> rfl

def Anchored (tree : FileTree) (place : Place) : Prop :=
  ∀ names, names <:+ place.names → tree.entry? { place with names } = some .directory

theorem anchored_of_names_eq_nil (h : place.names = []) : tree.Anchored place := by
  intro names hnames
  rw [h, List.suffix_nil] at hnames
  exact entry?_of_names_eq_nil hnames

theorem Anchored.parent (h : tree.Anchored place) : tree.Anchored place.parent := by
  rcases place with ⟨origin, names⟩
  cases names with
  | nil =>
      apply anchored_of_names_eq_nil
      cases origin with
      | root => rfl
      | above levels => rfl
  | cons name names =>
      intro suffix hsuffix
      exact h suffix (hsuffix.trans (List.suffix_cons name names))

theorem Anchored.child (h : tree.Anchored place) {name : Text}
    (hchild : tree.entry? (place.child name) = some .directory) :
    tree.Anchored (place.child name) := by
  intro suffix hsuffix
  rcases List.suffix_cons_iff.mp hsuffix with hwhole | hsuffix
  · rw [hwhole]
    exact hchild
  · exact h suffix hsuffix

theorem Anchored.foldlM (h : tree.Anchored place)
    (hwalk : earlier.foldlM tree.step place = .ok directory)
    (hdirectory : tree.entry? directory = some .directory) : tree.Anchored directory := by
  induction earlier generalizing place with
  | nil =>
      cases hwalk
      exact h
  | cons part earlier ih =>
      rw [List.foldlM_cons] at hwalk
      cases hstep : tree.step place part with
      | error fault => simp [hstep, bind, Except.bind] at hwalk
      | ok next =>
          rw [hstep] at hwalk
          have hrest : earlier.foldlM tree.step next = .ok directory := hwalk
          refine ih ?_ hrest
          cases (step_eq_ok_iff.mp hstep).right with
          | stay _ => exact h
          | up _ => exact h.parent
          | down _ _ _ _ => exact h.child (isDirectory_of_foldlM hrest hdirectory)

theorem place?_of_walk {origin : Place} (horigin : start path = .ok origin)
    (hwalk : path.parts.foldlM tree.step origin = .ok place)
    (hentry : tree.entry? place = some (.file content)) : tree.place? path = some place := by
  have hnames := names_of_start horigin
  have hfile : tree.entry? place ≠ some .directory := by
    rw [hentry]
    exact fun h => FileEntry.noConfusion (Option.some.inj h)
  rcases List.eq_nil_or_concat' path.parts with hparts | ⟨earlier, last, hparts⟩
  · rw [hparts] at hwalk
    cases hwalk
    exact absurd (entry?_of_names_eq_nil hnames) hfile
  · rw [hparts] at hwalk
    cases hearlier : earlier.foldlM tree.step origin with
    | error fault => simp [List.foldlM_append, hearlier, bind, Except.bind] at hwalk
    | ok directory =>
        rw [foldlM_concat hearlier] at hwalk
        rcases step_eq_ok_iff.mp hwalk with ⟨hdirectory, hcases⟩
        cases hcases with
        | stay _ => exact absurd hdirectory hfile
        | up _ =>
            have hanchored := (anchored_of_names_eq_nil hnames).foldlM hearlier hdirectory
            exact absurd (hanchored.parent _ (List.suffix_refl _)) hfile
        | down hdot hback hshort _ =>
            exact place?_eq_some_iff.mpr ⟨earlier, directory, last,
              ⟨hparts, ⟨origin, horigin, hearlier⟩, hdirectory, hdot, hback, hshort⟩, rfl⟩

theorem find_eq_file_iff :
    tree.find path = .ok (place, .file content) ↔
      tree.place? path = some place ∧ tree.entry? place = some (.file content) ∧
        namesDirectory path = false := by
  constructor
  · intro h
    rw [find] at h
    cases horigin : start path with
    | error fault => simp [horigin, bind, Except.bind] at h
    | ok origin =>
        cases hwalk : path.parts.foldlM tree.step origin with
        | error fault => simp [horigin, hwalk, bind, Except.bind] at h
        | ok found =>
            simp only [horigin, hwalk, bind, Except.bind] at h
            split at h
            · cases h
            · rename_i entry hentry
              split at h
              · cases h
              · rename_i hnames
                cases h
                exact ⟨place?_of_walk horigin hwalk hentry, hentry, by simpa using hnames⟩
            · cases h
  · rintro ⟨hplace, hentry, hnames⟩
    rcases place?_eq_some_iff.mp hplace with ⟨earlier, directory, last, hleads, rfl⟩
    rcases hleads.walk with ⟨origin, horigin, hwalk⟩
    have hstep : tree.step directory last = .ok (directory.child last) := by
      refine step_eq_ok_iff.mpr ⟨hleads.entry_eq, ?_⟩
      refine .down hleads.notDot hleads.notBack hleads.short ?_
      rw [hentry]
      rfl
    have hparts : path.parts.foldlM tree.step origin = .ok (directory.child last) := by
      rw [hleads.parts_eq, foldlM_concat hwalk, hstep]
    simp only [find, horigin, hparts, bind, Except.bind, hentry, hnames, Bool.false_eq_true,
      if_false]

/-!
# Changes

Each operation says which entries it changes.
-/

theorem place?_of_holder {name : Text} (h : tree.holder path = .ok (directory, some name)) :
    tree.place? path = some (directory.child name) := by
  rw [place?, h]

theorem write_eq_ok (h : tree.write path content = .ok after) :
    ∃ place, tree.place? path = some place ∧ namesDirectory path = false ∧
      tree.entry? place ≠ some .directory ∧ after = tree.put place (.file content) := by
  rw [write, writePlace] at h
  cases hholder : tree.holder path with
  | error fault => simp [hholder, bind, Except.bind] at h
  | ok found =>
      rcases found with ⟨directory, _ | name⟩
      · simp [hholder, bind, Except.bind] at h
      · simp only [hholder, bind, Except.bind] at h
        split_ifs at h with hnames hentry
        cases h
        exact ⟨_, place?_of_holder hholder, by simpa using hnames, hentry, rfl⟩

theorem rename_eq_ok {source target : Path} (h : tree.rename source target = .ok after) :
    ∃ left entered content, tree.place? source = some left ∧ tree.place? target = some entered ∧
      tree.entry? left = some (.file content) ∧ namesDirectory target = false ∧
      ((left = entered ∧ after = tree) ∨
        (left ≠ entered ∧ tree.entry? entered ≠ some .directory ∧
          after = (tree.erase left).put entered (.file content))) := by
  rw [rename] at h
  cases hsource : tree.holder source with
  | error fault => simp [hsource, bind, Except.bind] at h
  | ok found =>
      cases htarget : tree.holder target with
      | error fault => simp [hsource, htarget, bind, Except.bind] at h
      | ok other =>
          rcases found with ⟨sourceDirectory, _ | sourceName⟩
          · simp [hsource, htarget, bind, Except.bind] at h
          · rcases other with ⟨targetDirectory, _ | targetName⟩
            · simp [hsource, htarget, bind, Except.bind] at h
            · simp only [hsource, htarget, bind, Except.bind] at h
              split at h
              · cases h
              · cases h
              · rename_i content hentry
                refine ⟨_, _, content, place?_of_holder hsource, place?_of_holder htarget, hentry, ?_⟩
                split_ifs at h with hnames hsame hdirectory <;> cases h
                · exact ⟨by simp_all, Or.inl ⟨hsame, rfl⟩⟩
                · exact ⟨by simp_all, Or.inr ⟨hsame, hdirectory, rfl⟩⟩

theorem createDirectory_eq_ok (h : tree.createDirectory path = .ok after) :
    ∃ place, tree.place? path = some place ∧ tree.entry? place = none ∧
      after = tree.put place .directory := by
  rw [createDirectory] at h
  cases hholder : tree.holder path with
  | error fault => simp [hholder, bind, Except.bind] at h
  | ok found =>
      rcases found with ⟨directory, _ | name⟩
      · simp [hholder, bind, Except.bind] at h
      · simp only [hholder, bind, Except.bind] at h
        split_ifs at h with hentry
        cases h
        exact ⟨_, place?_of_holder hholder, by simpa using hentry, rfl⟩

/-!
# Creating directories

Directories are only created where nothing is, and no deeper than the path has names.
-/

/-- Directories were created where nothing was, with up to so many names below their origin, and all else
is as before. -/
def GrowsTo (tree after : FileTree) (depth : Nat) : Prop :=
  ∀ place, after.entry? place = tree.entry? place ∨
    (tree.entry? place = none ∧ after.entry? place = some .directory ∧ place.names.length ≤ depth)

theorem growsTo_refl (tree : FileTree) (depth : Nat) : tree.GrowsTo tree depth :=
  fun _ => Or.inl rfl

variable {between : FileTree} {depth deeper : Nat}

theorem GrowsTo.mono (h : tree.GrowsTo after depth) (hle : depth ≤ deeper) :
    tree.GrowsTo after deeper := by
  intro place
  rcases h place with hsame | ⟨hnone, hdirectory, hdepth⟩
  · exact Or.inl hsame
  · exact Or.inr ⟨hnone, hdirectory, Nat.le_trans hdepth hle⟩

theorem GrowsTo.trans (h : tree.GrowsTo between depth) (hafter : between.GrowsTo after depth) :
    tree.GrowsTo after depth := by
  intro place
  rcases h place with hsame | ⟨hnone, hdirectory, hdepth⟩
  · rcases hafter place with hagain | ⟨hnone, hdirectory, hdepth⟩
    · exact Or.inl (hagain.trans hsame)
    · exact Or.inr ⟨hsame.symm.trans hnone, hdirectory, hdepth⟩
  · rcases hafter place with hagain | ⟨hagain, _⟩
    · exact Or.inr ⟨hnone, hagain.trans hdirectory, hdepth⟩
    · rw [hdirectory] at hagain
      cases hagain

theorem length_names_of_walk (h : earlier.foldlM tree.step place = .ok directory) :
    directory.names.length ≤ place.names.length + (earlier.filter (· ≠ ".".toList)).length := by
  induction earlier generalizing place with
  | nil =>
      cases h
      exact Nat.le_add_right _ _
  | cons part earlier ih =>
      rw [List.foldlM_cons] at h
      cases hstep : tree.step place part with
      | error fault => simp [hstep, bind, Except.bind] at h
      | ok next =>
          rw [hstep] at h
          have hrest := ih (show earlier.foldlM tree.step next = .ok directory from h)
          cases (step_eq_ok_iff.mp hstep).right with
          | stay hdot =>
              rw [List.filter_cons_of_neg (by simpa using hdot)]
              exact hrest
          | up hback =>
              have hparent : place.parent.names.length ≤ place.names.length := by
                rcases place with ⟨_ | levels, _ | ⟨name, names⟩⟩ <;> simp [Place.parent]
              have hkept := List.length_filter_le (· ≠ ".".toList) earlier
              rw [List.filter_cons_of_pos (by rw [hback]; decide), List.length_cons]
              omega
          | down hdot _ _ _ =>
              rw [List.filter_cons_of_pos (by simpa using hdot), List.length_cons]
              simp only [Place.child, List.length_cons] at hrest
              omega

theorem length_names_le (h : tree.place? path = some place) :
    place.names.length ≤ (namesOf path.text).length := by
  rcases place?_eq_some_iff.mp h with ⟨earlier, directory, last, hleads, rfl⟩
  rcases hleads.walk with ⟨origin, horigin, hwalk⟩
  have hdepth := length_names_of_walk hwalk
  rw [names_of_start horigin] at hdepth
  rw [namesOf_of_parts hleads.parts_eq hleads.notDot, List.length_append]
  simpa [Place.child] using hdepth

theorem length_names_of_walk_down (h : earlier.foldlM tree.step place = .ok directory)
    (hback : "..".toList ∉ earlier) :
    directory.names.length = place.names.length + (earlier.filter (· ≠ ".".toList)).length := by
  induction earlier generalizing place with
  | nil =>
      cases h
      rfl
  | cons part earlier ih =>
      rw [List.mem_cons, not_or] at hback
      rw [List.foldlM_cons] at h
      cases hstep : tree.step place part with
      | error fault => simp [hstep, bind, Except.bind] at h
      | ok next =>
          rw [hstep] at h
          have hrest := ih (show earlier.foldlM tree.step next = .ok directory from h) hback.right
          cases (step_eq_ok_iff.mp hstep).right with
          | stay hdot =>
              rw [List.filter_cons_of_neg (by simpa using hdot)]
              exact hrest
          | up hsame => exact absurd hsame.symm hback.left
          | down hdot _ _ _ =>
              rw [List.filter_cons_of_pos (by simpa using hdot), List.length_cons]
              simp only [Place.child, List.length_cons] at hrest
              omega

theorem growsTo_ensureDirectory (h : tree.ensureDirectory path = .ok after) :
    tree.GrowsTo after (namesOf path.text).length := by
  rw [ensureDirectory] at h
  split at h
  · rename_i created hcreated
    cases h
    rcases createDirectory_eq_ok hcreated with ⟨place, hplace, hnone, rfl⟩
    intro other
    rw [entry?_put (names_ne_nil hplace)]
    by_cases hother : other = place
    · rw [if_pos hother, hother]
      exact Or.inr ⟨hnone, rfl, length_names_le hplace⟩
    · rw [if_neg hother]
      exact Or.inl rfl
  · split_ifs at h
    cases h
    exact growsTo_refl _ _

theorem growsTo_createDirectoriesWithin (tree : FileTree) (path : Path) (bound : Nat) :
    tree.GrowsTo (tree.createDirectoriesWithin path bound).2 (namesOf path.text).length := by
  induction bound generalizing tree path with
  | zero => exact growsTo_refl _ _
  | succ bound ih =>
      rw [createDirectoriesWithin]
      split_ifs with hempty
      · exact growsTo_refl _ _
      · split
        · rename_i created hcreated
          exact growsTo_ensureDirectory hcreated
        · split
          · exact growsTo_refl _ _
          · rename_i parent hparent
            have hup := (ih tree parent).mono (length_namesOf_parent_le hparent)
            split
            · rename_i fault created hcreated
              rw [hcreated] at hup
              exact hup
            · rename_i created hcreated
              rw [hcreated] at hup
              split
              · rename_i again hagain
                exact hup.trans (growsTo_ensureDirectory hagain)
              · exact hup
        · exact growsTo_refl _ _

end FileTree
end Polyquery
