import Mathlib.Data.List.Induction
import Mathlib.Data.List.Pairwise
import RpcSchema.Proofs.Files.Delivery

/-!
# Delivering files again

In a tree that hangs together, what becomes of a file is settled before anything is written: a file
that does not replace what is in its place is kept where something is, and every other one is
written. Once all files are delivered, delivering them again finds everything as it would leave it,
and a file that was only written because nothing was in its place is never touched again.

A path can step outwards from a directory that is only made when the file is written. Until then
such a path leads to nothing, even when something is where its steps end.
-/

namespace RpcSchema

open Files

namespace Files.Tree

variable {tree next : Tree} {path : String} {location : Location} {steps : List String}

/-! ## Trees that hang together -/

/-- Paths start in a directory, and everything lies in one. -/
structure IsRooted (tree : Tree) : Prop where
  working : tree.isDirectory tree.working = true
  around : ∀ entry ∈ tree.entries, tree.isDirectory entry.1.dropLast = true

instance (tree : Tree) : Decidable tree.IsRooted :=
  decidable_of_iff (_ ∧ _)
    ⟨fun rooted => ⟨rooted.1, rooted.2⟩, fun rooted => ⟨rooted.working, rooted.around⟩⟩

/-- The path steps outwards only from directories. -/
def IsSteady (tree : Tree) (path : String) : Prop :=
  ∀ front rest, (Path.ofText path).steps = front ++ ".." :: rest →
    tree.isDirectory ((tree.start (.ofText path)).follow front) = true

/-- A path without steps outwards. -/
theorem isSteady_of_names (tree : Tree) (names : ".." ∉ (Path.ofText path).steps) :
    tree.IsSteady path := by
  intro front rest outwards
  refine absurd ?_ names
  rw [outwards]
  exact List.mem_append_right _ List.mem_cons_self

theorem walk_append (tree : Tree) (location : Location) (front rest : List String) :
    tree.walk location (front ++ rest) =
      (tree.walk location front).bind fun middle => tree.walk middle rest := by
  induction front generalizing location with
  | nil => rfl
  | cons step front ih =>
      rw [List.cons_append, walk, walk]
      split
      · exact ih _
      · rfl

namespace IsRooted

theorem isDirectory_dropLast (rooted : tree.IsRooted) (isThere : (tree.entry? location).isSome) :
    tree.isDirectory location.dropLast = true := by
  by_cases root : location = []
  · rw [root]
    rfl
  · obtain ⟨entry, found⟩ := Option.isSome_iff_exists.mp isThere
    rw [ entry?, if_neg (mt List.isEmpty_iff.mp root)] at found
    obtain ⟨before, behind, spelled, -⟩ := List.lookup_eq_some_iff.mp found
    refine rooted.around (location, entry) ?_
    rw [spelled]
    exact List.mem_append_right _ List.mem_cons_self

/-- A walk that steps outwards only from directories arrives wherever something is. -/
theorem walk_eq_follow (rooted : tree.IsRooted)
    (steady : ∀ front rest, steps = front ++ ".." :: rest →
      tree.isDirectory (location.follow front) = true)
    (isThere : (tree.entry? (location.follow steps)).isSome) :
    tree.walk location steps = some (location.follow steps) := by
  induction steps using List.reverseRecOn with
  | nil => rfl
  | append_singleton front step ih =>
      -- The last step is taken from a directory, whether it leads outwards or to what is there.
      have here : tree.isDirectory (location.follow front) = true := by
        by_cases outwards : step = ".."
        · exact steady front [] (by rw [outwards])
        · have around := rooted.isDirectory_dropLast isThere
          rwa [Location.follow_append, Location.follow_cons, Location.advance, if_neg outwards,
            Location.follow, List.foldl_nil, List.dropLast_concat] at around
      have walked := ih
        (fun before rest spelled =>
          steady before (rest ++ [step]) (by rw [spelled, List.append_assoc, List.cons_append]))
        (by rw [isDirectory_iff.mp here]; rfl)
      rw [Location.follow_append] at isThere ⊢
      rw [walk_append, walked, Option.bind_some, walk, here, Bool.true_and]
      exact if_pos isThere

/-- What a path leads to in a tree is what is where its steps end. -/
theorem contains_iff (rooted : tree.IsRooted) (steady : tree.IsSteady path) :
    tree.contains path = true ↔
      isFollowed path = true ∧ ∃ entry, tree.entry? (resolve tree.working path) = some entry ∧
        ((Path.ofText path).isOpen && !entry.isDirectory) = false := by
  rw [Tree.contains_iff]
  constructor
  · rintro ⟨followed, place, entry, walks, isThere, isOpen⟩
    rw [eq_follow_of_walk walks] at isThere
    exact ⟨followed, entry, isThere, isOpen⟩
  · rintro ⟨followed, entry, isThere, isOpen⟩
    exact ⟨followed, _, entry,
      rooted.walk_eq_follow steady (Option.isSome_iff_exists.mpr ⟨entry, isThere⟩), isThere,
      isOpen⟩

end IsRooted

/-! ## Writing again -/

theorem putEntry_of_lookup {entry : Entry} {entries : List (Location × Entry)}
    (found : entries.lookup location = some entry) :
    putEntry location entry entries = entries := by
  induction entries with
  | nil => cases found
  | cons head rest ih =>
      rw [Json.lookup_cons_eq] at found
      rw [putEntry]
      split at found
      · next here =>
        cases found
        rw [if_pos here.symm, here]
      · next elsewhere => rw [if_neg (Ne.symm elsewhere), ih found]

theorem put_of_entry? {entry : Entry} (inner : location ≠ [])
    (found : tree.entry? location = some entry) : tree.put location entry = tree := by
  rw [ entry?, if_neg (mt List.isEmpty_iff.mp inner)] at found
  rw [put, putEntry_of_lookup found]

theorem makeDirectories_of_isDirectory
    (directories : ∀ passed ∈ location.trail steps, tree.isDirectory passed = true) :
    tree.makeDirectories location steps = (some (location.follow steps), tree) := by
  induction steps generalizing location with
  | nil => rfl
  | cons step rest ih =>
      obtain ⟨here, ahead⟩ := List.forall_mem_cons.mp directories
      rw [makeDirectories, isDirectory_iff.mp here]
      exact ih ahead

/-- What was written to a path can be written there again, and that changes nothing. -/
theorem Admits.write_eq_self {directory : Location} {name : String} {around : Tree}
    (admits : tree.Admits path directory name around) (working : next.working = tree.working)
    (directories : ∀ passed ∈ crossed tree.working path, next.isDirectory passed = true)
    {content : ByteArray}
    (written : next.entry? (resolve tree.working path) = some (.file content)) :
    next.write path content = (true, next) := by
  have start : next.start (.ofText path) = tree.start (.ofText path) := by
    rw [start_eq, start_eq, working]
  have noDirectory : next.isDirectory (resolve tree.working path) = false := by
    rw [isDirectory, written]
    rfl
  have again : next.Admits path directory name next := {
    parent := admits.parent
    followed := admits.followed
    isClosed := admits.isClosed
    last := admits.last
    made := by
      rw [start, admits.of_made.1]
      exact makeDirectories_of_isDirectory directories
    named := admits.named
    free := by rw [admits.location_eq, noDirectory] }
  rw [again.write_eq, admits.location_eq, put_of_entry? (ne_nil_of_isDirectory noDirectory) written]

end Files.Tree

namespace GeneratedFile

variable {file other : GeneratedFile} {directory : String} {tree next : Tree}
  {made written : List Location}

/-! ## One file among others -/

/-- The files have different places, and neither lies where the other needs a directory. -/
structure Apart (working : Location) (directory : String) (file other : GeneratedFile) : Prop where
  places : file.place working directory ≠ other.place working directory
  before : file.place working directory ∉ other.way working directory
  behind : other.place working directory ∉ file.way working directory

instance (working : Location) (directory : String) (file other : GeneratedFile) :
    Decidable (Apart working directory file other) :=
  decidable_of_iff (_ ∧ _ ∧ _)
    ⟨fun apart => ⟨apart.1, apart.2.1, apart.2.2⟩,
      fun apart => ⟨apart.places, apart.before, apart.behind⟩⟩

instance (working : Location) (directory : String) : Std.Symm (Apart working directory) :=
  ⟨fun _ _ apart => ⟨apart.places.symm, apart.behind, apart.before⟩⟩

/-- What becomes of the file in a tree that takes it. -/
def foretold (file : GeneratedFile) (directory : String) (tree : Tree) : Delivery :=
  if file.isKept (tree.entry? (file.place tree.working directory)).isSome then .kept else .written

/-- Where something is in the place of a file that does not replace it, the path steps outwards only
from directories. -/
def IsSteady (file : GeneratedFile) (directory : String) (tree : Tree) : Prop :=
  file.overwrite = .ifMissing → (tree.entry? (file.place tree.working directory)).isSome →
    tree.IsSteady (file.destination directory)

section Turn

variable (grows : tree.Grows made written next)
  (unmade : file.place tree.working directory ∉ made)
  (unwritten : file.place tree.working directory ∉ written)
include grows unmade unwritten

/-- In the place of the file nothing has changed. -/
theorem entry?_place : next.entry? (file.place tree.working directory) =
    tree.entry? (file.place tree.working directory) := by
  rcases grows.entry (file.place tree.working directory) with same | ⟨isMade, -⟩ | ⟨isWritten, -⟩
  · exact same
  · exact absurd isMade unmade
  · exact absurd isWritten unwritten

variable (rooted : tree.IsRooted) (steady : file.IsSteady directory tree)
  (delivered : (file.deliver directory next).1 ≠ .failed)
include rooted steady delivered

/-- When the file can be delivered, its path led to what was in its place. -/
theorem contains_eq_isSome (keeps : file.overwrite = .ifMissing) :
    tree.contains (file.destination directory) =
      (tree.entry? (file.place tree.working directory)).isSome := by
  rw [Bool.eq_iff_iff]
  refine ⟨Tree.isSome_of_contains, fun taken => ?_⟩
  obtain ⟨entry, found⟩ := Option.isSome_iff_exists.mp taken
  refine (rooted.contains_iff (steady keeps taken)).mpr ?_
  rcases delivered_cases delivered with ⟨-, isThere, -⟩ | ⟨-, -, -, holds⟩
  · obtain ⟨followed, place, still, walks, isStill, isOpen⟩ := Tree.contains_iff.mp isThere
    have same := entry?_place grows unmade unwritten
    rw [Tree.start_eq, grows.working] at walks
    rw [Tree.eq_follow_of_walk walks] at isStill
    exact ⟨followed, still, same.symm.trans isStill, isOpen⟩
  · exact ⟨holds.followed, entry, found, by rw [holds.isClosed, Bool.false_and]⟩

/-- What becomes of the file was settled before. -/
theorem deliver_eq_foretold : (file.deliver directory next).1 = file.foretold directory tree := by
  have same := entry?_place grows unmade unwritten
  rcases delivered_cases delivered with ⟨keeps, isThere, -⟩ | ⟨isWritten, missing, -, -⟩
  · have taken := Tree.isSome_of_contains isThere
    rw [grows.working] at taken
    have before : (tree.entry? (file.place tree.working directory)).isSome := same ▸ taken
    rw [foretold, before, deliver, isThere, isKept, keeps]
    rfl
  · rw [isWritten, foretold, if_neg]
    intro isKept
    obtain ⟨keeps, taken⟩ := (Bool.and_eq_true ..).mp isKept
    have keeps : file.overwrite = .ifMissing := by simpa using keeps
    have found := contains_eq_isSome grows unmade unwritten rooted steady delivered keeps
    rw [taken] at found
    have still := Tree.contains_persists grows found
    rw [missing keeps] at still
    cases still

end Turn

end GeneratedFile

namespace CommandLine

variable {directory : String} {file : GeneratedFile} {files front rest : List GeneratedFile}
  {tree : Tree}

/-! ## All files -/

/-- The lines of a report, when it is known what becomes of each file in its turn. -/
theorem output_of_turns {verdict : GeneratedFile → Delivery}
    (done : (deliverAll directory files tree).1.error = none)
    (turns : ∀ front file rest, files = front ++ file :: rest →
      (file.deliver directory (deliverAll directory front tree).2).1 = verdict file) :
    (deliverAll directory files tree).1.output =
      String.join (files.map fun file =>
        deliveryLine (file.destination directory) (verdict file)) := by
  induction files generalizing tree with
  | nil => rfl
  | cons file rest ih =>
      obtain ⟨delivered, others, -⟩ := of_deliverAll_cons done
      have first := turns [] file rest rfl
      have later := ih others fun front other behind split => by
        have turn := turns (file :: front) other behind (by rw [split, List.cons_append])
        rwa [deliverAll_cons front delivered] at turn
      rw [deliverAll_cons rest delivered, List.map_cons, String.join_cons, ← first, ← later]
      rfl

/-- What comes behind the turn of a file. -/
theorem behind_turn (done : (deliverAll directory (front ++ file :: rest) tree).1.error = none) :
    Tree.Grows (rest.flatMap fun other => other.way tree.working directory)
      (rest.map fun other => other.place tree.working directory)
      (file.deliver directory (deliverAll directory front tree).2).2
      (deliverAll directory (front ++ file :: rest) tree).2 := by
  have later := deliverAll_grows directory rest
    (file.deliver directory (deliverAll directory front tree).2).2
  rwa [(file.deliver_grows directory _).working, (deliverAll_grows directory front tree).working,
    ← (turn_of_done done).2] at later

section Done

variable (rooted : tree.IsRooted)
  (apart : (front ++ file :: rest).Pairwise (GeneratedFile.Apart tree.working directory))
  (done : (deliverAll directory (front ++ file :: rest) tree).1.error = none)

include rooted done in
/-- What was delivered is found by its path in the end. -/
theorem contains_of_done :
    Tree.contains (deliverAll directory (front ++ file :: rest) tree).2
      (file.destination directory) = true := by
  have grows := behind_turn done
  have before := deliverAll_grows directory front tree
  have delivered := (turn_of_done done).1
  generalize (deliverAll directory front tree).2 = middle at delivered before grows
  have own := file.deliver_grows directory middle
  refine Tree.contains_persists grows ?_
  rcases GeneratedFile.delivered_cases delivered with ⟨-, isThere, unchanged⟩ | ⟨-, -, -, holds⟩
  · rwa [unchanged]
  · rw [Tree.contains_eq holds.followed holds.isClosed holds.nonempty, own.working, holds.content]
    · rfl
    · rw [own.working, before.working]
      exact own.isDirectory (before.isDirectory rooted.working)
    · rw [own.working]
      exact holds.around

include apart

theorem place_notMem_front :
    file.place tree.working directory ∉
        (front.flatMap fun other => other.way tree.working directory) ∧
      file.place tree.working directory ∉
        (front.map fun other => other.place tree.working directory) := by
  obtain ⟨-, -, across⟩ := List.pairwise_append.mp apart
  constructor
  · intro onWay
    obtain ⟨other, listed, onWay⟩ := List.mem_flatMap.mp onWay
    exact (across other listed file List.mem_cons_self).behind onWay
  · intro inPlace
    obtain ⟨other, listed, same⟩ := List.mem_map.mp inPlace
    exact (across other listed file List.mem_cons_self).places same

theorem place_notMem_rest :
    file.place tree.working directory ∉
      (rest.map fun other => other.place tree.working directory) := by
  obtain ⟨-, behind, -⟩ := List.pairwise_append.mp apart
  intro inPlace
  obtain ⟨other, listed, same⟩ := List.mem_map.mp inPlace
  exact ((List.pairwise_cons.mp behind).1 other listed).places same.symm

include done

/-- Nothing behind a file comes into its place, once something is there. -/
theorem entry?_of_turn (entry : Entry)
    (found : Tree.entry? (file.deliver directory (deliverAll directory front tree).2).2
      (file.place tree.working directory) = some entry) :
    Tree.entry? (deliverAll directory (front ++ file :: rest) tree).2
      (file.place tree.working directory) = some entry :=
  (behind_turn done).entry_eq_some (place_notMem_rest apart) found

/-- A file that replaces what is in its place can be written again, and that changes nothing. -/
theorem write_of_done (always : file.overwrite = .always) :
    Tree.write (deliverAll directory (front ++ file :: rest) tree).2 (file.destination directory)
      file.content.toUTF8 = (true, (deliverAll directory (front ++ file :: rest) tree).2) := by
  have stays := entry?_of_turn apart done
  have grows := behind_turn done
  have before := deliverAll_grows directory front tree
  have delivered := (turn_of_done done).1
  generalize (deliverAll directory front tree).2 = middle at delivered before grows stays
  rcases GeneratedFile.delivered_cases delivered with
    ⟨keeps, -⟩ | ⟨-, -, ⟨_, _, _, admits⟩, holds⟩
  · rw [always] at keeps
    cases keeps
  · have working := grows.working.trans (file.deliver_grows directory middle).working
    rw [← before.working] at stays
    exact admits.write_eq_self working
      (fun passed onWay => grows.isDirectory (holds.around passed onWay)) (stays _ holds.content)

include rooted

variable (steady : file.IsSteady directory tree)
include steady

/-- What becomes of a file in its turn was settled before the first. -/
theorem turn_eq_foretold :
    (file.deliver directory (deliverAll directory front tree).2).1 =
      file.foretold directory tree := by
  obtain ⟨unmade, unwritten⟩ := place_notMem_front apart
  exact GeneratedFile.deliver_eq_foretold (deliverAll_grows directory front tree) unmade unwritten
    rooted steady (turn_of_done done).1

/-- What is in the place of a file in the end. -/
theorem entry?_of_done :
    Tree.entry? (deliverAll directory (front ++ file :: rest) tree).2
        (file.place tree.working directory) =
      if file.isKept (tree.entry? (file.place tree.working directory)).isSome then
        tree.entry? (file.place tree.working directory)
      else some (.file file.content.toUTF8) := by
  have stays := entry?_of_turn apart done
  have told := turn_eq_foretold rooted apart done steady
  obtain ⟨unmade, unwritten⟩ := place_notMem_front apart
  have before := deliverAll_grows directory front tree
  have same := GeneratedFile.entry?_place before unmade unwritten
  have delivered := (turn_of_done done).1
  generalize (deliverAll directory front tree).2 = middle at told delivered before same stays
  rw [GeneratedFile.foretold] at told
  rcases GeneratedFile.delivered_cases delivered with
    ⟨keeps, isThere, unchanged⟩ | ⟨written, -, -, holds⟩
  · have taken := Tree.isSome_of_contains isThere
    rw [before.working] at taken
    obtain ⟨entry, found⟩ := Option.isSome_iff_exists.mp taken
    have earlier := same.symm.trans found
    rw [unchanged] at stays
    rw [stays entry found, earlier, GeneratedFile.isKept, keeps]
    rfl
  · have content := holds.content
    rw [before.working] at content
    rw [stays _ content]
    split
    · next isKept =>
      rw [if_pos isKept, written] at told
      cases told
    · rfl

end Done

/-! ## Runs behind one another -/

/-- The tree that runs leave, each of which delivers a list of files. -/
def afterRuns (directory : String) (runs : List (List GeneratedFile)) (tree : Tree) : Tree :=
  runs.foldl (fun tree run => (deliverAll directory run tree).2) tree

/-- Runs that leave the tree as it is, each on its own. -/
theorem afterRuns_eq_self {runs : List (List GeneratedFile)}
    (idle : ∀ run ∈ runs, (deliverAll directory run tree).2 = tree) :
    afterRuns directory runs tree = tree := by
  induction runs with
  | nil => rfl
  | cons run runs ih =>
      obtain ⟨here, later⟩ := List.forall_mem_cons.mp idle
      rw [afterRuns, List.foldl_cons, here]
      exact ih later

/-- Files that leave the tree as it is, each on its own. -/
theorem deliverAll_eq_self {run : List GeneratedFile}
    (idle : ∀ file ∈ run, (file.deliver directory tree).1 ≠ .failed ∧
      (file.deliver directory tree).2 = tree) :
    (deliverAll directory run tree).1.error = none ∧ (deliverAll directory run tree).2 = tree := by
  induction run with
  | nil => exact ⟨rfl, rfl⟩
  | cons file rest ih =>
      obtain ⟨⟨delivered, same⟩, others⟩ := List.forall_mem_cons.mp idle
      rw [deliverAll_cons rest delivered, same]
      exact ih others

/-- Where the files that do not replace anything find something, the others alone are written. -/
theorem deliverAll_grows_of_contains {run : List GeneratedFile}
    (found : ∀ file ∈ run, file.overwrite = .ifMissing →
      tree.contains (file.destination directory) = true) :
    ∃ made, tree.Grows made
      ((run.filter (·.overwrite = .always)).map fun file => file.place tree.working directory)
      (deliverAll directory run tree).2 := by
  induction run generalizing tree with
  | nil => exact ⟨[], .refl tree⟩
  | cons file rest ih =>
      obtain ⟨here, others⟩ := List.forall_mem_cons.mp found
      have grows := file.deliver_grows directory tree
      cases rule : file.overwrite with
      | ifMissing =>
          have kept : file.deliver directory tree = (.kept, tree) := by
            rw [GeneratedFile.deliver, GeneratedFile.isKept, rule, here rule]
            rfl
          rw [deliverAll_cons rest (by rw [kept]; rintro ⟨⟩), kept,
            List.filter_cons_of_neg (by simp [rule])]
          exact ih others
      | always =>
          rw [List.filter_cons_of_pos (by simp [rule]), List.map_cons]
          by_cases failed : (file.deliver directory tree).1 = .failed
          · rw [deliverAll_cons_of_failed failed]
            exact ⟨_, grows.mono (List.Subset.refl _) (by simp)⟩
          · obtain ⟨made, later⟩ := ih fun other listed keeps =>
              Tree.contains_persists grows (others other listed keeps)
            rw [grows.working] at later
            rw [deliverAll_cons rest failed]
            exact ⟨_, grows.trans later⟩

/-- Files that are delivered again under the same rules do not replace what is in the place of one
that does not replace anything. -/
theorem place_notMem_always {run : List GeneratedFile}
    (apart : files.Pairwise (GeneratedFile.Apart tree.working directory))
    (again : ∀ file ∈ run,
      ∃ first ∈ files, file.path = first.path ∧ file.overwrite = first.overwrite)
    {file : GeneratedFile} (member : file ∈ files) (keeps : file.overwrite = .ifMissing) :
    file.place tree.working directory ∉
      (run.filter (·.overwrite = .always)).map fun other => other.place tree.working directory := by
  intro inPlace
  obtain ⟨other, listed, same⟩ := List.mem_map.mp inPlace
  obtain ⟨inRun, always⟩ := List.mem_filter.mp listed
  obtain ⟨first, isFirst, samePath, sameRule⟩ := again other inRun
  have differs : first ≠ file := by
    rintro rfl
    simp [sameRule, keeps] at always
  refine (apart.forall isFirst member differs).places ?_
  rw [← same, GeneratedFile.place, GeneratedFile.place, GeneratedFile.destination,
    GeneratedFile.destination, samePath]

/-- What a file found that does not replace anything stays in its place, whatever is delivered to
the same places under the same rules. -/
theorem entry?_afterRuns {runs : List (List GeneratedFile)}
    (apart : files.Pairwise (GeneratedFile.Apart tree.working directory))
    (found : ∀ file ∈ files, file.overwrite = .ifMissing →
      tree.contains (file.destination directory) = true)
    (again : ∀ run ∈ runs, ∀ file ∈ run,
      ∃ first ∈ files, file.path = first.path ∧ file.overwrite = first.overwrite)
    {file : GeneratedFile} (member : file ∈ files) (keeps : file.overwrite = .ifMissing) :
    Tree.entry? (afterRuns directory runs tree) (file.place tree.working directory) =
      tree.entry? (file.place tree.working directory) := by
  induction runs generalizing tree with
  | nil => rfl
  | cons run runs ih =>
      obtain ⟨here, later⟩ := List.forall_mem_cons.mp again
      have foundAgain : ∀ other ∈ run, other.overwrite = .ifMissing →
          tree.contains (other.destination directory) = true := by
        intro other listed keeps
        obtain ⟨first, isFirst, samePath, sameRule⟩ := here other listed
        rw [GeneratedFile.destination, samePath]
        exact found first isFirst (sameRule.symm.trans keeps)
      obtain ⟨made, grows⟩ := deliverAll_grows_of_contains foundAgain
      obtain ⟨entry, isThere⟩ := Option.isSome_iff_exists.mp
        (Tree.isSome_of_contains (found file member keeps))
      have stays := grows.entry_eq_some (place_notMem_always apart here member keeps) isThere
      have apartStill : files.Pairwise
          (GeneratedFile.Apart (deliverAll directory run tree).2.working directory) := by
        rwa [grows.working]
      have rest := ih apartStill
        (fun other listed keeps => Tree.contains_persists grows (found other listed keeps)) later
      rw [grows.working] at rest
      exact rest.trans (stays.trans isThere.symm)

/-- What a run leaves that delivers files which do not get into each other's way. -/
structure Settles (directory : String) (files : List GeneratedFile) (tree : Tree)
    (result : Report × Tree) : Prop where
  /-- A file that does not replace what is in its place finds by its path whether something is. -/
  found : ∀ file ∈ files, file.overwrite = .ifMissing →
    tree.contains (file.destination directory) =
      (tree.entry? (file.place tree.working directory)).isSome
  always : ∀ file ∈ files, file.overwrite = .always →
    Tree.entry? result.2 (file.place tree.working directory) = some (.file file.content.toUTF8)
  existing : ∀ file ∈ files, file.overwrite = .ifMissing →
    ∀ entry, tree.entry? (file.place tree.working directory) = some entry →
      Tree.entry? result.2 (file.place tree.working directory) = some entry
  missing : ∀ file ∈ files, file.overwrite = .ifMissing →
    tree.entry? (file.place tree.working directory) = none →
      Tree.entry? result.2 (file.place tree.working directory) = some (.file file.content.toUTF8)
  /-- Elsewhere nothing changes, but for directories that are made on the way to a file. -/
  elsewhere : ∀ location, (∀ file ∈ files, file.place tree.working directory ≠ location) →
    Tree.entry? result.2 location = tree.entry? location ∨
      tree.entry? location = none ∧ Tree.entry? result.2 location = some .directory ∧
        ∃ file ∈ files, location ∈ file.way tree.working directory
  /-- What is told about each file is what became of it. -/
  output : result.1.output = String.join (files.map fun file =>
    deliveryLine (file.destination directory) (file.foretold directory tree))
  /-- Further runs change nothing, as long as files that replace others are the same. -/
  idle : ∀ runs : List (List GeneratedFile),
    (∀ run ∈ runs, ∀ file ∈ run, ∃ first ∈ files, file.path = first.path ∧
      file.overwrite = first.overwrite ∧
      (file.overwrite = .always → file.content = first.content)) →
    (∀ run ∈ runs, (deliverAll directory run result.2).1.error = none) ∧
      afterRuns directory runs result.2 = result.2
  /-- No further run changes a file that does not replace anything, whatever is delivered. -/
  kept : ∀ runs : List (List GeneratedFile),
    (∀ run ∈ runs, ∀ file ∈ run,
      ∃ first ∈ files, file.path = first.path ∧ file.overwrite = first.overwrite) →
    ∀ file ∈ files, file.overwrite = .ifMissing →
      Tree.entry? (afterRuns directory runs result.2) (file.place tree.working directory) =
        Tree.entry? result.2 (file.place tree.working directory)

/-- Runs of files that are delivered once already. -/
theorem idle_of_done (rooted : tree.IsRooted)
    (apart : files.Pairwise (GeneratedFile.Apart tree.working directory))
    (done : (deliverAll directory files tree).1.error = none) {run : List GeneratedFile}
    (again : ∀ file ∈ run, ∃ first ∈ files, file.path = first.path ∧
      file.overwrite = first.overwrite ∧
      (file.overwrite = .always → file.content = first.content)) :
    (deliverAll directory run (deliverAll directory files tree).2).1.error = none ∧
      (deliverAll directory run (deliverAll directory files tree).2).2 =
        (deliverAll directory files tree).2 := by
  refine deliverAll_eq_self fun file listed => ?_
  obtain ⟨first, isFirst, samePath, sameRule, sameContent⟩ := again file listed
  obtain ⟨front, rest, rfl⟩ := List.append_of_mem isFirst
  have destination : file.destination directory = first.destination directory := by
    rw [GeneratedFile.destination, samePath, GeneratedFile.destination]
  rw [GeneratedFile.deliver, GeneratedFile.isKept, destination]
  cases rule : file.overwrite with
  | ifMissing =>
      rw [contains_of_done rooted done]
      refine ⟨?_, rfl⟩
      rintro ⟨⟩
  | always =>
      rw [sameContent rule, write_of_done apart done (sameRule.symm.trans rule)]
      refine ⟨?_, rfl⟩
      rintro ⟨⟩

/-- Files that are apart from each other are all delivered when the tree takes each of them on its
own. When they are, each is in its place, unless it does not replace what was there before, and
nothing else changes but for directories on the way; what is told is what happened. Further runs for
the same files never change one that does not replace anything, and as long as the contents of the
others stay the same they change nothing at all. -/
theorem deliverAll_settles (rooted : tree.IsRooted)
    (apart : files.Pairwise (GeneratedFile.Apart tree.working directory))
    (steady : ∀ file ∈ files, file.IsSteady directory tree) :
    ((∀ file ∈ files, (file.deliver directory tree).1 ≠ .failed) →
      (deliverAll directory files tree).1.error = none) ∧
    ((deliverAll directory files tree).1.error = none →
      Settles directory files tree (deliverAll directory files tree)) := by
  constructor
  · intro delivered
    refine deliverAll_done delivered fun file member other alsoMember onWay => ?_
    by_cases same : file = other
    · rwa [← same] at onWay
    · exact absurd onWay (apart.forall member alsoMember same).before
  · intro done
    have ends : ∀ file ∈ files, Tree.entry? (deliverAll directory files tree).2
        (file.place tree.working directory) =
          if file.isKept (tree.entry? (file.place tree.working directory)).isSome then
            tree.entry? (file.place tree.working directory)
          else some (.file file.content.toUTF8) := by
      intro file member
      obtain ⟨front, rest, rfl⟩ := List.append_of_mem member
      exact entry?_of_done rooted apart done (steady file member)
    constructor
    case found =>
      intro file member keeps
      obtain ⟨front, rest, rfl⟩ := List.append_of_mem member
      obtain ⟨unmade, unwritten⟩ := place_notMem_front apart
      exact GeneratedFile.contains_eq_isSome (deliverAll_grows directory front tree) unmade
        unwritten rooted (steady file member) (turn_of_done done).1 keeps
    case always =>
      intro file member always
      rw [ends file member, GeneratedFile.isKept, always]
      rfl
    case existing =>
      intro file member keeps entry found
      rw [ends file member, GeneratedFile.isKept, keeps, found]
      rfl
    case missing =>
      intro file member keeps none
      rw [ends file member, GeneratedFile.isKept, keeps, none]
      rfl
    case elsewhere =>
      intro location apart
      rcases (deliverAll_grows directory files tree).entry location with
        same | ⟨onWay, missing, isMade⟩ | ⟨inPlace, -⟩
      · exact .inl same
      · exact .inr ⟨missing, isMade, List.mem_flatMap.mp onWay⟩
      · obtain ⟨file, member, same⟩ := List.mem_map.mp inPlace
        exact absurd same (apart file member)
    case output =>
      refine output_of_turns done fun front file rest split => ?_
      subst split
      exact turn_eq_foretold rooted apart done (steady file (by simp))
    case idle =>
      intro runs again
      have each := fun run listed => idle_of_done rooted apart done (again run listed)
      exact ⟨fun run listed => (each run listed).1,
        afterRuns_eq_self fun run listed => (each run listed).2⟩
    case kept =>
      intro runs again file member keeps
      have working := (deliverAll_grows directory files tree).working
      rw [← working]
      refine entry?_afterRuns (by rwa [working]) (fun file member _ => ?_) again member keeps
      obtain ⟨front, rest, rfl⟩ := List.append_of_mem member
      exact contains_of_done rooted done

/-- A directory with a stub that somebody has edited. -/
def workshop : Tree :=
  { entries := [(["out"], .directory), (["out", "service_impl.rs"], .file "edited".toUTF8)] }

/-- A server and its stub. -/
def serviceFiles (stub : String) : List GeneratedFile := [
  { path := "server.rs", content := "server" },
  { path := "service_impl.rs", content := stub, overwrite := .ifMissing }]

theorem deliverAll_settles_workshop :
    workshop.IsRooted ∧
      (serviceFiles "stub").Pairwise (GeneratedFile.Apart workshop.working "out") ∧
      (deliverAll "out" (serviceFiles "stub") workshop).1.error = none ∧
      Tree.entry? (deliverAll "out" (serviceFiles "stub") workshop).2 ["out", "service_impl.rs"] =
        some (.file "edited".toUTF8) ∧
      afterRuns "out" [serviceFiles "stub", serviceFiles "other"]
        (deliverAll "out" (serviceFiles "stub") workshop).2 =
          (deliverAll "out" (serviceFiles "stub") workshop).2 := by
  have rooted : workshop.IsRooted := by decide
  have apart : (serviceFiles "stub").Pairwise (GeneratedFile.Apart workshop.working "out") := by
    decide
  have steady : ∀ file ∈ serviceFiles "stub", file.IsSteady "out" workshop :=
    List.forall_mem_cons.mpr ⟨nofun, List.forall_mem_singleton.mpr fun _ _ =>
      Tree.isSteady_of_names _ (by decide)⟩
  have again : ∀ stub, ∀ file ∈ serviceFiles stub, ∃ first ∈ serviceFiles "stub",
      file.path = first.path ∧ file.overwrite = first.overwrite ∧
        (file.overwrite = .always → file.content = first.content) := fun stub =>
    List.forall_mem_cons.mpr ⟨⟨_, List.mem_cons_self, rfl, rfl, fun _ => rfl⟩,
      List.forall_mem_singleton.mpr
        ⟨_, List.mem_cons_of_mem _ List.mem_cons_self, rfl, rfl, nofun⟩⟩
  obtain ⟨delivers, settles⟩ := deliverAll_settles rooted apart steady
  have done := delivers (by decide)
  refine ⟨rooted, apart, done, ?_, ?_⟩
  · exact (settles done).existing _ (List.mem_cons_of_mem _ List.mem_cons_self) rfl _ rfl
  · exact ((settles done).idle _ (List.forall_mem_cons.mpr
      ⟨again "stub", List.forall_mem_singleton.mpr (again "other")⟩)).2

/-- Two files, and no directory beside them. -/
def yard : Tree :=
  { entries := [(["b"], .file "old b".toUTF8), (["c"], .file "old c".toUTF8)] }

/-- Files for the places of both, by way of a directory that is not there. -/
def detours : List GeneratedFile := [
  { path := "a/../b", content := "new", overwrite := .ifMissing },
  { path := "a/../c", content := "new", overwrite := .ifMissing }]

/-- The first detour leads to nothing until its directory is made for it, so that it replaces what
is in its place. For the second one the directory is there by then. -/
theorem deliverAll_detours :
    yard.IsRooted ∧ detours.Pairwise (GeneratedFile.Apart yard.working ".") ∧
      (deliverAll "." detours yard).1.error = none ∧
      (deliverAll "." detours yard).1.output = "  + ./a/../b\n  = ./a/../c (exists, kept)\n" ∧
      yard.read? "b" = some "old b".toUTF8 ∧
      Tree.read? (deliverAll "." detours yard).2 "b" = some "new".toUTF8 ∧
      yard.contains "./a/../c" = false ∧
      Tree.read? (deliverAll "." detours yard).2 "c" = some "old c".toUTF8 :=
  ⟨by decide, by decide, rfl, by decide, rfl, rfl, by decide, rfl⟩

end CommandLine

end RpcSchema
