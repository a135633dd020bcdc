import Mathlib.Data.List.Basic
import RpcSchema.Files.Tree
import RpcSchema.Proofs.Files.Paths
import RpcSchema.Proofs.Json.Members

/-!
# Walks through directory trees

A path leads to a location, through others. What is done along a path never takes anything away from
a tree: directories are made where nothing was, files are written, and everything else stays
(`Tree.Grows`). So a path that could be followed still can be, as long as no file was written on its
way.
-/

namespace RpcSchema.Files

/-! ## Locations -/

namespace Location

/-- Where steps lead. -/
def follow (location : Location) (steps : List String) : Location := steps.foldl advance location

/-- The locations that steps lead to, one after the other. -/
def trail : Location → List String → List Location
  | _, [] => []
  | location, step :: rest => location.advance step :: trail (location.advance step) rest

variable {location : Location} {steps : List String}

theorem follow_cons (location : Location) (step : String) (rest : List String) :
    location.follow (step :: rest) = (location.advance step).follow rest := rfl

theorem follow_append (location : Location) (front rest : List String) :
    location.follow (front ++ rest) = (location.follow front).follow rest :=
  List.foldl_append

theorem trail_append (location : Location) (front rest : List String) :
    location.trail (front ++ rest) =
      location.trail front ++ (location.follow front).trail rest := by
  induction front generalizing location with
  | nil => rfl
  | cons step front ih => rw [List.cons_append, trail, ih, trail, List.cons_append, follow_cons]

/-- Without steps outwards, a walk goes on from where it starts. -/
theorem follow_of_names (names : ".." ∉ steps) : location.follow steps = location ++ steps := by
  induction steps generalizing location with
  | nil => exact (List.append_nil location).symm
  | cons step rest ih =>
      have isName : step ≠ ".." := fun same => names (same ▸ List.mem_cons_self)
      rw [follow_cons, ih (fun member => names (List.mem_cons_of_mem _ member)), advance,
        if_neg isName, List.append_assoc, List.singleton_append]

theorem length_advance_le (location : Location) (step : String) :
    (location.advance step).length ≤ location.length + 1 := by
  rw [advance]
  split
  · rw [List.length_dropLast]
    omega
  · rw [List.length_append]
    exact Nat.le_refl _

/-- A walk gets at most one name further with each step. -/
theorem length_le_of_mem_trail {passed : Location} (member : passed ∈ location.trail steps) :
    passed.length ≤ location.length + steps.length := by
  induction steps generalizing location with
  | nil => exact absurd member List.not_mem_nil
  | cons step rest ih =>
      have further := length_advance_le location step
      rw [List.length_cons]
      rcases List.mem_cons.mp member with rfl | later
      · omega
      · have behind := ih later
        omega

end Location

/-! ## Paths -/

/-- Where a path starts, of which directory it is read in. -/
def Path.origin (path : Path) (working : Location) : Location :=
  if path.isAbsolute then [] else working

/-- The location that a path leads to. -/
def resolve (working : Location) (path : String) : Location :=
  ((Path.ofText path).origin working).follow (Path.ofText path).steps

/-- The locations that a path leads through before its end. -/
def crossed (working : Location) (path : String) : List Location :=
  ((Path.ofText path).origin working).trail (Path.ofText path).steps.dropLast

/-- A path that stays inside the directory it is joined to. -/
def IsInner (path : String) : Prop :=
  path.toList.head? ≠ some '/' ∧ ".." ∉ (Path.ofText path).steps

instance (path : String) : Decidable (IsInner path) := inferInstanceAs (Decidable (_ ∧ _))

section Join

variable {path other : String} (working : Location) (directory : String)

theorem resolve_join (inner : IsInner path) :
    resolve working (join directory path) =
      resolve working directory ++ (Path.ofText path).steps := by
  rw [resolve, Path.origin, Path.isAbsolute_join directory inner.1,
    Path.steps_join directory inner.1, Location.follow_append, Location.follow_of_names inner.2]
  rfl

theorem crossed_join (inner : IsInner path) (nonempty : (Path.ofText path).steps ≠ []) :
    crossed working (join directory path) =
      ((Path.ofText directory).origin working).trail (Path.ofText directory).steps ++
        (resolve working directory).trail (Path.ofText path).steps.dropLast := by
  rw [crossed, Path.origin, Path.isAbsolute_join directory inner.1,
    Path.steps_join directory inner.1, List.dropLast_append_of_ne_nil nonempty,
    Location.trail_append]
  rfl

/-- Of two paths with as many steps below a directory, neither leads through the place of the other,
unless that already lies on the way to the directory. -/
theorem resolve_mem_crossed (inner : IsInner path) (otherInner : IsInner other)
    (nonempty : (Path.ofText path).steps ≠ [])
    (sameDepth : (Path.ofText other).steps.length = (Path.ofText path).steps.length)
    (member : resolve working (join directory path) ∈ crossed working (join directory other)) :
    resolve working (join directory path) ∈ crossed working (join directory path) := by
  have otherNonempty : (Path.ofText other).steps ≠ [] := by
    rw [← List.length_pos_iff] at nonempty ⊢
    omega
  rw [crossed_join working directory otherInner otherNonempty, List.mem_append] at member
  rw [crossed_join working directory inner nonempty]
  rcases member with toDirectory | below
  · exact List.mem_append_left _ toDirectory
  · -- The place lies deeper than anything on the other way.
    have short := Location.length_le_of_mem_trail below
    rw [resolve_join working directory inner, List.length_append, List.length_dropLast,
      sameDepth] at short
    have deep := List.length_pos_iff.mpr nonempty
    omega

end Join

namespace Tree

variable {tree next last : Tree} {location : Location} {steps : List String}

theorem start_eq (tree : Tree) (path : Path) : tree.start path = path.origin tree.working := rfl

/-! ## Entries -/

theorem lookup_putEntry (location other : Location) (entry : Entry)
    (entries : List (Location × Entry)) :
    (putEntry location entry entries).lookup other =
      if other = location then some entry else entries.lookup other := by
  induction entries with
  | nil => exact Json.lookup_cons_eq location entry [] other
  | cons head rest ih =>
      rw [putEntry]
      split
      · next here =>
        rw [Json.lookup_cons_eq, Json.lookup_cons_eq, here]
        split <;> rfl
      · next elsewhere =>
        rw [Json.lookup_cons_eq, Json.lookup_cons_eq, ih]
        split
        · next same => rw [if_neg (same ▸ elsewhere)]
        · rfl

theorem entry?_put (tree : Tree) (inner : location ≠ []) (entry : Entry) (other : Location) :
    Tree.entry? (tree.put location entry) other =
      if other = location then some entry else tree.entry? other := by
  unfold entry? put
  rw [lookup_putEntry]
  split
  · next root => rw [if_neg (List.isEmpty_iff.mp root ▸ inner.symm)]
  · rfl

theorem entry?_put_eq_none_iff {entry : Entry} {other : Location} (inner : location ≠ []) :
    Tree.entry? (tree.put location entry) other = none ↔
      other ≠ location ∧ tree.entry? other = none := by
  rw [entry?_put tree inner]
  split <;> simp [*]

theorem isDirectory_iff :
    tree.isDirectory location = true ↔ tree.entry? location = some .directory := by
  rw [isDirectory]
  cases tree.entry? location with
  | none => simp
  | some entry => cases entry <;> simp [Entry.isDirectory]

theorem isDirectory_put_iff {other : Location} (inner : location ≠ []) :
    (tree.put location .directory).isDirectory other = true ↔
      other = location ∨ tree.isDirectory other = true := by
  rw [isDirectory_iff, isDirectory_iff, entry?_put tree inner]
  split <;> simp [*]

theorem ne_nil_of_isDirectory (missing : tree.isDirectory location = false) : location ≠ [] := by
  rintro rfl
  cases missing

theorem ne_nil_of_entry?_eq_none (missing : tree.entry? location = none) : location ≠ [] := by
  rintro rfl
  cases missing

/-! ## Growing -/

/-- What becomes of a tree when directories are made and files are written. -/
structure Grows (made written : List Location) (tree next : Tree) : Prop where
  working : next.working = tree.working
  entry : ∀ location,
    next.entry? location = tree.entry? location ∨
    (location ∈ made ∧ tree.entry? location = none ∧ next.entry? location = some .directory) ∨
    (location ∈ written ∧ tree.isDirectory location = false ∧
      ∃ content, next.entry? location = some (.file content))

namespace Grows

variable {made written others otherwise : List Location}

protected theorem refl (tree : Tree) : Grows [] [] tree tree := ⟨rfl, fun _ => .inl rfl⟩

theorem mono (grows : Grows made written tree next) (more : made ⊆ others)
    (moreWritten : written ⊆ otherwise) : Grows others otherwise tree next where
  working := grows.working
  entry location := (grows.entry location).imp_right
    (Or.imp (And.imp_left (more ·)) (And.imp_left (moreWritten ·)))

/-- A directory is made where nothing was. -/
theorem put_directory (tree : Tree) (missing : tree.entry? location = none) :
    Grows [location] [] tree (tree.put location .directory) where
  working := rfl
  entry other := by
    rw [entry?_put tree (ne_nil_of_entry?_eq_none missing)]
    split
    · next here => exact .inr (.inl ⟨here ▸ List.mem_singleton_self _, here ▸ missing, rfl⟩)
    · exact .inl rfl

/-- A file is written where no directory was. -/
theorem put_file (tree : Tree) (missing : tree.isDirectory location = false)
    (content : ByteArray) : Grows [] [location] tree (tree.put location (.file content)) where
  working := rfl
  entry other := by
    rw [entry?_put tree (ne_nil_of_isDirectory missing)]
    split
    · next here =>
      exact .inr (.inr ⟨here ▸ List.mem_singleton_self _, here ▸ missing, content, rfl⟩)
    · exact .inl rfl

section Kept

variable (grows : Grows made written tree next)
include grows

/-- What is there stays, as a directory or as a file. -/
theorem kind {isDirectory : Bool}
    (found : (tree.entry? location).map Entry.isDirectory = some isDirectory) :
    (next.entry? location).map Entry.isDirectory = some isDirectory := by
  rcases grows.entry location with same | ⟨-, missing, -⟩ | ⟨-, noDirectory, content, isFile⟩
  · rwa [same]
  · rw [missing] at found
    cases found
  · rw [Tree.isDirectory, found] at noDirectory
    rw [isFile]
    exact congrArg some noDirectory.symm

theorem isDirectory (found : tree.isDirectory location = true) :
    next.isDirectory location = true := by
  have isDirectory := isDirectory_iff.mp found
  rw [Tree.isDirectory, grows.kind (by rw [isDirectory]; rfl)]
  rfl

theorem isSome (found : (tree.entry? location).isSome) : (next.entry? location).isSome := by
  obtain ⟨entry, isEntry⟩ := Option.isSome_iff_exists.mp found
  have stays := grows.kind (congrArg (Option.map Entry.isDirectory) isEntry)
  rw [← Option.isSome_map, stays]
  rfl

/-- Where no file is written, files stay as they are. -/
theorem entry_of_notMem (elsewhere : location ∉ written) :
    next.entry? location = tree.entry? location ∨
      (tree.entry? location = none ∧ next.entry? location = some .directory) := by
  rcases grows.entry location with same | ⟨-, new⟩ | ⟨member, -⟩
  · exact .inl same
  · exact .inr new
  · exact absurd member elsewhere

theorem entry_eq_some (elsewhere : location ∉ written) {entry : Entry}
    (found : tree.entry? location = some entry) : next.entry? location = some entry := by
  rcases grows.entry_of_notMem elsewhere with same | ⟨missing, -⟩
  · exact same.trans found
  · exact nomatch missing.symm.trans found

/-- No directory stands where none is made. -/
theorem isDirectory_eq_false (elsewhere : location ∉ made)
    (missing : tree.isDirectory location = false) : next.isDirectory location = false := by
  rcases grows.entry location with same | ⟨member, -⟩ | ⟨-, -, content, isFile⟩
  · rw [Tree.isDirectory, same]
    exact missing
  · exact absurd member elsewhere
  · rw [Tree.isDirectory, isFile]
    rfl

theorem trans (later : Grows others otherwise next last) :
    Grows (made ++ others) (written ++ otherwise) tree last where
  working := later.working.trans grows.working
  entry location := by
    rcases later.entry location with same | ⟨member, missing, made⟩ | ⟨member, noDirectory, isFile⟩
    · rw [same]
      exact (grows.mono (List.subset_append_left ..) (List.subset_append_left ..)).entry location
    · refine .inr (.inl ⟨List.mem_append_right _ member, ?_, made⟩)
      by_contra isThere
      have stays := grows.isSome (Option.isSome_iff_ne_none.mpr isThere)
      rw [missing] at stays
      cases stays
    · refine .inr (.inr ⟨List.mem_append_right _ member, ?_, isFile⟩)
      by_contra isThere
      have stays := grows.isDirectory (by simpa using isThere)
      rw [noDirectory] at stays
      cases stays

end Kept

end Grows

/-! ## Making directories -/

theorem makeDirectories_grows (tree : Tree) (location : Location) (steps : List String) :
    Grows (location.trail steps) [] tree (tree.makeDirectories location steps).2 := by
  induction steps generalizing tree location with
  | nil => exact .refl tree
  | cons step rest ih =>
      have stays : Grows (location.trail (step :: rest)) [] tree tree :=
        (Grows.refl tree).mono (List.nil_subset _) (List.Subset.refl _)
      rw [makeDirectories]
      split
      · exact (ih tree _).mono (List.subset_cons_self ..) (List.Subset.refl _)
      · exact stays
      · next missing =>
        split
        · exact (Grows.put_directory tree missing).trans (ih _ _)
        · exact stays

/-- Where directories could be made, the walk ends in the last of them. -/
theorem of_makeDirectories {place : Location}
    (made : (tree.makeDirectories location steps).1 = some place) :
    place = location.follow steps ∧
      ∀ passed ∈ location.trail steps,
        (tree.makeDirectories location steps).2.isDirectory passed = true := by
  induction steps generalizing tree location with
  | nil =>
      cases made
      exact ⟨rfl, fun _ absent => absurd absent List.not_mem_nil⟩
  | cons step rest ih =>
      rw [makeDirectories] at made ⊢
      split at made
      · next isThere =>
        obtain ⟨ends, others⟩ := ih made
        have first := (makeDirectories_grows tree (location.advance step) rest).isDirectory
          (isDirectory_iff.mpr isThere)
        exact ⟨ends, List.forall_mem_cons.mpr ⟨first, others⟩⟩
      · cases made
      · next missing =>
        split at made
        · next named =>
          obtain ⟨ends, others⟩ := ih made
          have put := entry?_put tree (ne_nil_of_entry?_eq_none missing) .directory
            (location.advance step)
          rw [if_pos rfl] at put
          have first := (makeDirectories_grows (tree.put (location.advance step) .directory)
            (location.advance step) rest).isDirectory (isDirectory_iff.mpr put)
          rw [if_pos named]
          exact ⟨ends, List.forall_mem_cons.mpr ⟨first, others⟩⟩
        · cases made

/-- A directory is at the location, or nothing, so that one can be made. -/
def IsPassable (tree : Tree) (location : Location) : Prop :=
  tree.isDirectory location = true ∨ tree.entry? location = none

/-- Where directories can be made in one tree, they can be in another that has them, or nothing, at
the same locations. -/
theorem makeDirectories_persists {place : Location}
    (made : (tree.makeDirectories location steps).1 = some place)
    (directories : ∀ passed ∈ location.trail steps,
      tree.isDirectory passed = true → next.isDirectory passed = true)
    (passable : ∀ passed ∈ location.trail steps,
      tree.entry? passed = none → next.IsPassable passed) :
    (next.makeDirectories location steps).1 = some place := by
  induction steps generalizing tree next location with
  | nil => exact made
  | cons step rest ih =>
      obtain ⟨here, ahead⟩ := List.forall_mem_cons.mp directories
      obtain ⟨passableHere, passableAhead⟩ := List.forall_mem_cons.mp passable
      rw [makeDirectories] at made ⊢
      split at made
      · next isThere =>
        rw [isDirectory_iff.mp (here (isDirectory_iff.mpr isThere))]
        exact ih made ahead passableAhead
      · cases made
      · next missing =>
        split at made
        · next named =>
          have inner := ne_nil_of_entry?_eq_none missing
          -- Whether the directory is there or is made, the rest of the way is as before.
          rcases passableHere missing with isThere | alsoMissing
          · rw [isDirectory_iff.mp isThere]
            refine ih made (fun passed member isDirectory => ?_) (fun passed member absent => ?_)
            · rcases (isDirectory_put_iff inner).mp isDirectory with rfl | before
              · exact isThere
              · exact ahead passed member before
            · exact passableAhead passed member ((entry?_put_eq_none_iff inner).mp absent).2
          · rw [alsoMissing, if_pos named]
            refine ih made (fun passed member isDirectory => ?_) (fun passed member absent => ?_)
            · exact (isDirectory_put_iff inner).mpr
                (((isDirectory_put_iff inner).mp isDirectory).imp_right (ahead passed member))
            · obtain ⟨elsewhere, before⟩ := (entry?_put_eq_none_iff inner).mp absent
              exact (passableAhead passed member before).imp
                (fun isDirectory => (isDirectory_put_iff inner).mpr (.inr isDirectory))
                (fun absent => (entry?_put_eq_none_iff inner).mpr ⟨elsewhere, absent⟩)
        · cases made

/-! ## Following paths -/

theorem walk_persists {made written : List Location} {place : Location}
    (grows : Grows made written tree next) (found : tree.walk location steps = some place) :
    next.walk location steps = some place := by
  induction steps generalizing location with
  | nil => exact found
  | cons step rest ih =>
      rw [walk] at found ⊢
      split at found
      · next follows =>
        obtain ⟨isDirectory, isThere⟩ := (Bool.and_eq_true ..).mp follows
        rw [grows.isDirectory isDirectory, grows.isSome isThere]
        exact ih found
      · cases found

theorem contains_iff {path : String} :
    tree.contains path = true ↔
      isFollowed path = true ∧ ∃ place entry,
        tree.walk (tree.start (.ofText path)) (Path.ofText path).steps = some place ∧
        tree.entry? place = some entry ∧
        ((Path.ofText path).isOpen && !entry.isDirectory) = false := by
  rw [contains, find?]
  cases isFollowed path with
  | false => exact ⟨nofun, fun found => nomatch found.1⟩
  | true => simp [guard, Option.isSome_iff_exists, Option.bind_eq_some_iff, exists_comm]

/-- What a path leads to is still there in a tree that has grown. -/
theorem contains_persists {made written : List Location} {path : String}
    (grows : Grows made written tree next) (found : tree.contains path = true) :
    next.contains path = true := by
  obtain ⟨followed, place, entry, walks, isThere, isOpen⟩ := contains_iff.mp found
  obtain ⟨stays, isStill, sameKind⟩ := Option.map_eq_some_iff.mp
    (grows.kind (congrArg (Option.map Entry.isDirectory) isThere))
  refine contains_iff.mpr ⟨followed, place, stays, ?_, isStill, sameKind ▸ isOpen⟩
  rw [start_eq, grows.working]
  exact walk_persists grows walks

theorem eq_follow_of_walk {place : Location} (found : tree.walk location steps = some place) :
    place = location.follow steps := by
  induction steps generalizing location with
  | nil => exact (Option.some.inj found).symm
  | cons step rest ih =>
      rw [walk] at found
      split at found
      · exact ih found
      · cases found

/-- Something is where a path leads to something. -/
theorem isSome_of_contains {path : String} (found : tree.contains path = true) :
    (tree.entry? (resolve tree.working path)).isSome := by
  obtain ⟨-, place, entry, walks, isThere, -⟩ := contains_iff.mp found
  rw [resolve, ← start_eq, ← eq_follow_of_walk walks, isThere]
  rfl

/-- Through directories, a walk ends where the steps lead, if something is there. -/
theorem walk_eq (start : tree.isDirectory location = true)
    (directories : ∀ passed ∈ location.trail steps.dropLast, tree.isDirectory passed = true)
    (nonempty : steps ≠ []) :
    tree.walk location steps =
      if (tree.entry? (location.follow steps)).isSome then some (location.follow steps)
      else none := by
  induction steps generalizing location with
  | nil => exact absurd rfl nonempty
  | cons step rest ih =>
      rw [walk, start, Bool.true_and]
      cases rest with
      | nil => rfl
      | cons second rest =>
          obtain ⟨here, ahead⟩ := List.forall_mem_cons.mp directories
          have isThere : (tree.entry? (location.advance step)).isSome := by
            rw [isDirectory_iff.mp here]
            rfl
          rw [if_pos isThere]
          exact ih here ahead (List.cons_ne_nil _ _)

/-- Through directories, a path leads to what is at its location. -/
theorem contains_eq {path : String} (followed : isFollowed path = true)
    (isClosed : (Path.ofText path).isOpen = false) (nonempty : (Path.ofText path).steps ≠ [])
    (start : tree.isDirectory tree.working = true)
    (directories : ∀ passed ∈ crossed tree.working path, tree.isDirectory passed = true) :
    tree.contains path = (tree.entry? (resolve tree.working path)).isSome := by
  have fromDirectory : tree.isDirectory (tree.start (.ofText path)) = true := by
    rw [Tree.start]
    split
    · rfl
    · exact start
  have ends : (tree.start (.ofText path)).follow (Path.ofText path).steps =
      resolve tree.working path := rfl
  rw [Bool.eq_iff_iff, contains_iff, walk_eq fromDirectory directories nonempty, ends]
  cases found : tree.entry? (resolve tree.working path) with
  | none => simp
  | some entry => simp [followed, isClosed, found]

end Tree

end RpcSchema.Files
