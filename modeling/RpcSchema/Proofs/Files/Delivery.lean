import RpcSchema.CommandLine.Run
import RpcSchema.Proofs.Files.Walks

/-!
# Delivering files

Writing a file puts it at the location of its path and makes directories on the way there; nothing
else changes. Files that are delivered one after the other do not get into each other's way, unless
one lies where another needs a directory.
-/

namespace RpcSchema

open Files

namespace Files.Tree

variable {tree next : Tree} {path : String}

/-! ## Writing -/

/-- A file can be written: directories can be made up to the one for it, and that one takes it. -/
structure Admits (tree : Tree) (path : String) (directory : Location) (name : String)
    (around : Tree) : Prop where
  parent : isFollowed (parentText path) = true
  followed : isFollowed path = true
  isClosed : (Path.ofText path).isOpen = false
  last : (Path.ofText path).steps.getLast? = some name
  made : tree.makeDirectories (tree.start (.ofText path)) (Path.ofText path).steps.dropLast =
    (some directory, around)
  named : name ≠ ".." ∧ isName name = true
  free : around.isDirectory (directory ++ [name]) = false

/-- A file is written exactly when it can be; otherwise directories are made, at most. -/
theorem write_cases (tree : Tree) (path : String) (content : ByteArray) :
    (∃ directory name around, tree.Admits path directory name around ∧
      tree.write path content = (true, around.put (directory ++ [name]) (.file content))) ∨
    (tree.write path content).1 = false ∧
      Grows (crossed tree.working path) [] tree (tree.write path content).2 := by
  have stays : Grows (crossed tree.working path) [] tree tree :=
    (Grows.refl tree).mono (List.nil_subset _) (List.Subset.refl _)
  have grows := makeDirectories_grows tree (tree.start (.ofText path))
    (Path.ofText path).steps.dropLast
  rw [write]
  split
  · exact .inr ⟨rfl, stays⟩
  · next parent =>
    dsimp only
    split
    · next around made =>
      rw [made] at grows
      exact .inr ⟨rfl, grows⟩
    · next directory around made =>
      rw [made] at grows
      split
      · next name isWritable last =>
        rw [putFile]
        split
        · exact .inr ⟨rfl, grows⟩
        · next takes =>
          obtain ⟨followed, isClosed⟩ := (Bool.and_eq_true ..).mp isWritable
          simp only [Bool.or_eq_true, decide_eq_true_eq, Bool.not_eq_true', not_or,
            Bool.not_eq_true, Bool.not_eq_false] at takes parent isClosed
          exact .inl ⟨directory, name, around, ⟨parent, followed, isClosed, last, made,
            takes.1, takes.2⟩, rfl⟩
      · exact .inr ⟨rfl, grows⟩

namespace Admits

variable {directory : Location} {name : String} {around : Tree}

theorem write_eq (admits : tree.Admits path directory name around) (content : ByteArray) :
    tree.write path content = (true, around.put (directory ++ [name]) (.file content)) := by
  have takes : (decide (name = "..") || !isName name ||
      around.isDirectory (directory ++ [name])) = false := by
    simp [admits.named.1, admits.named.2, admits.free]
  simp only [write, admits.parent, admits.made, admits.followed, admits.isClosed, admits.last,
    putFile]
  exact if_neg (takes ▸ Bool.false_ne_true)

theorem grows (admits : tree.Admits path directory name around) :
    Grows (crossed tree.working path) [] tree around := by
  have grows := makeDirectories_grows tree (tree.start (.ofText path))
    (Path.ofText path).steps.dropLast
  rwa [admits.made] at grows

theorem steps_eq (admits : tree.Admits path directory name around) :
    (Path.ofText path).steps = (Path.ofText path).steps.dropLast ++ [name] :=
  (List.dropLast_append_getLast? name admits.last).symm

theorem of_made (admits : tree.Admits path directory name around) :
    directory = (tree.start (.ofText path)).follow (Path.ofText path).steps.dropLast ∧
      ∀ passed ∈ crossed tree.working path, around.isDirectory passed = true := by
  have made := of_makeDirectories (congrArg Prod.fst admits.made)
  rwa [admits.made] at made

/-- The file goes where its path leads. -/
theorem location_eq (admits : tree.Admits path directory name around) :
    directory ++ [name] = resolve tree.working path := by
  rw [resolve, admits.steps_eq, Location.follow_append, ← start_eq, ← admits.of_made.1]
  exact (if_neg admits.named.1).symm

theorem notMem_crossed (admits : tree.Admits path directory name around) :
    resolve tree.working path ∉ crossed tree.working path := by
  intro member
  have isDirectory := admits.of_made.2 _ member
  rw [← admits.location_eq, admits.free] at isDirectory
  cases isDirectory

/-- A file that can be written still can be when the tree has grown apart from it. -/
theorem persists {made written : List Location} (admits : tree.Admits path directory name around)
    (grows : Grows made written tree next)
    (apart : ∀ location ∈ written, location ∉ crossed tree.working path)
    (unmade : resolve tree.working path ∉ made) :
    ∃ later, next.Admits path directory name later := by
  have start : next.start (.ofText path) = tree.start (.ofText path) := by
    rw [start_eq, start_eq, grows.working]
  have stillMade : (next.makeDirectories (next.start (.ofText path))
      (Path.ofText path).steps.dropLast).1 = some directory := by
    rw [start]
    refine makeDirectories_persists (congrArg Prod.fst admits.made)
      (fun passed _ => grows.isDirectory) (fun passed member missing => ?_)
    rcases grows.entry passed with same | ⟨-, -, isDirectory⟩ | ⟨isWritten, -⟩
    · exact .inr (same.trans missing)
    · exact .inl (isDirectory_iff.mpr isDirectory)
    · exact absurd member (apart passed isWritten)
  have free : tree.isDirectory (resolve tree.working path) = false := by
    by_contra isThere
    have still := admits.grows.isDirectory (Bool.not_eq_false _ ▸ isThere)
    rw [← admits.location_eq, admits.free] at still
    cases still
  have later : Grows (crossed next.working path) [] next (next.makeDirectories
      (next.start (.ofText path)) (Path.ofText path).steps.dropLast).2 :=
    makeDirectories_grows next _ _
  exact ⟨_, {
    parent := admits.parent
    followed := admits.followed
    isClosed := admits.isClosed
    last := admits.last
    made := Prod.ext stillMade rfl
    named := admits.named
    free := by
      rw [admits.location_eq]
      refine later.isDirectory_eq_false ?_ (grows.isDirectory_eq_false unmade free)
      rw [grows.working]
      exact admits.notMem_crossed }⟩

end Admits

/-- What writing does, whether the file is written or not. -/
theorem write_grows (tree : Tree) (path : String) (content : ByteArray) :
    Grows (crossed tree.working path) [resolve tree.working path] tree
      (tree.write path content).2 := by
  rcases write_cases tree path content with ⟨directory, name, around, admits, done⟩ | ⟨-, grows⟩
  · rw [done, ← admits.location_eq]
    have both := admits.grows.trans (Grows.put_file around admits.free content)
    rwa [List.append_nil, List.nil_append] at both
  · exact grows.mono (List.Subset.refl _) (List.nil_subset _)

/-- What is known of a tree behind a file that was written. -/
structure Holds (tree : Tree) (path : String) (content : ByteArray) (next : Tree) : Prop where
  followed : isFollowed path = true
  isClosed : (Path.ofText path).isOpen = false
  nonempty : (Path.ofText path).steps ≠ []
  content : next.entry? (resolve tree.working path) = some (.file content)
  around : ∀ passed ∈ crossed tree.working path, next.isDirectory passed = true

theorem Admits.holds {directory : Location} {name : String} {around : Tree}
    (admits : tree.Admits path directory name around) (content : ByteArray) :
    Holds tree path content (tree.write path content).2 := by
  have put := entry?_put around (ne_nil_of_isDirectory admits.free) (.file content)
  rw [admits.write_eq, admits.location_eq]
  rw [admits.location_eq] at put
  exact {
    followed := admits.followed
    isClosed := admits.isClosed
    nonempty := fun none => by
      have last := admits.last
      rw [none] at last
      cases last
    content := (put _).trans (if_pos rfl)
    around := fun passed member => by
      have differs : passed ≠ resolve tree.working path :=
        fun same => admits.notMem_crossed (same ▸ member)
      rw [isDirectory_iff, put, if_neg differs, ← isDirectory_iff]
      exact admits.of_made.2 passed member }

end Files.Tree

namespace GeneratedFile

/-- The location of the file below a directory. -/
def place (file : GeneratedFile) (working : Location) (directory : String) : Location :=
  resolve working (file.destination directory)

/-- The locations around the file: directories are made there. -/
def way (file : GeneratedFile) (working : Location) (directory : String) : List Location :=
  crossed working (file.destination directory)

variable {file : GeneratedFile} {directory : String} {tree next : Tree}

/-! ## A single file -/

/-- What delivering a file comes to. -/
inductive Delivers (directory : String) (file : GeneratedFile) (tree : Tree) :
    Delivery → Tree → Prop
  | kept (keeps : file.overwrite = .ifMissing)
      (isThere : tree.contains (file.destination directory) = true) :
      Delivers directory file tree .kept tree
  | written {place : Location} {name : String} {around : Tree}
      (missing : file.overwrite = .ifMissing →
        tree.contains (file.destination directory) = false)
      (admits : tree.Admits (file.destination directory) place name around) :
      Delivers directory file tree .written
        (tree.write (file.destination directory) file.content.toUTF8).2
  | failed {next : Tree} (grows : tree.Grows (file.way tree.working directory) [] next) :
      Delivers directory file tree .failed next

theorem delivers (directory : String) (file : GeneratedFile) (tree : Tree) :
    Delivers directory file tree (file.deliver directory tree).1
      (file.deliver directory tree).2 := by
  rw [deliver]
  dsimp only
  split
  · next isKept =>
    obtain ⟨keeps, isThere⟩ := (Bool.and_eq_true ..).mp isKept
    exact .kept (by simpa using keeps) isThere
  · next notKept =>
    rcases Tree.write_cases tree (file.destination directory) file.content.toUTF8 with
      ⟨place, name, around, admits, done⟩ | ⟨failed, grows⟩
    · have missing : file.overwrite = .ifMissing →
          tree.contains (file.destination directory) = false := by
        intro keeps
        simpa [GeneratedFile.isKept, keeps] using notKept
      simp only [done, if_true]
      have written := Delivers.written missing admits
      rwa [done] at written
    · simp only [failed]
      exact .failed grows

theorem Delivers.grows {delivery : Delivery}
    (delivers : Delivers directory file tree delivery next) :
    tree.Grows (file.way tree.working directory) [file.place tree.working directory] next := by
  cases delivers with
  | kept => exact (Tree.Grows.refl tree).mono (List.nil_subset _) (List.nil_subset _)
  | written => exact Tree.write_grows tree _ _
  | failed grows => exact grows.mono (List.Subset.refl _) (List.nil_subset _)

theorem deliver_grows (directory : String) (file : GeneratedFile) (tree : Tree) :
    tree.Grows (file.way tree.working directory) [file.place tree.working directory]
      (file.deliver directory tree).2 :=
  (delivers directory file tree).grows

/-- A file that is delivered is kept, or could be written and was. -/
theorem delivered_cases (delivered : (file.deliver directory tree).1 ≠ .failed) :
    (file.overwrite = .ifMissing ∧ tree.contains (file.destination directory) = true ∧
      (file.deliver directory tree).2 = tree) ∨
    (file.deliver directory tree).1 = .written ∧
      (file.overwrite = .ifMissing → tree.contains (file.destination directory) = false) ∧
      (∃ place name around, tree.Admits (file.destination directory) place name around) ∧
      tree.Holds (file.destination directory) file.content.toUTF8
        (file.deliver directory tree).2 := by
  have delivers := delivers directory file tree
  revert delivers delivered
  generalize (file.deliver directory tree).1 = delivery
  generalize (file.deliver directory tree).2 = next
  intro delivered delivers
  cases delivers with
  | kept keeps isThere => exact .inl ⟨keeps, isThere, rfl⟩
  | written missing admits => exact .inr ⟨rfl, missing, ⟨_, _, _, admits⟩, admits.holds _⟩
  | failed => exact absurd rfl delivered

theorem written_of_delivered (always : file.overwrite = .always)
    (delivered : (file.deliver directory tree).1 ≠ .failed) :
    (file.deliver directory tree).1 = .written ∧
      tree.Holds (file.destination directory) file.content.toUTF8
        (file.deliver directory tree).2 := by
  rcases delivered_cases delivered with ⟨keeps, -⟩ | ⟨written, -, -, holds⟩
  · rw [always] at keeps
    cases keeps
  · exact ⟨written, holds⟩

theorem deliver_ne_failed_of_contains (keeps : file.overwrite = .ifMissing)
    (isThere : tree.contains (file.destination directory) = true) :
    (file.deliver directory tree).1 ≠ .failed := by
  rw [deliver, isKept, keeps, isThere]
  exact nofun

theorem deliver_ne_failed_of_admits {place : Location} {name : String} {around : Tree}
    (admits : tree.Admits (file.destination directory) place name around) :
    (file.deliver directory tree).1 ≠ .failed := by
  rw [deliver, admits.write_eq]
  dsimp only
  split <;> exact nofun

/-- Whether a file can be written does not depend on what is in it. -/
theorem deliver_ne_failed_of_write {content : ByteArray}
    (written : (tree.write (file.destination directory) content).1 = true) :
    (file.deliver directory tree).1 ≠ .failed := by
  rcases Tree.write_cases tree (file.destination directory) content with
    ⟨_, _, _, admits, -⟩ | ⟨failed, -⟩
  · exact deliver_ne_failed_of_admits admits
  · exact nomatch failed.symm.trans written

/-- A file that can be delivered still can be behind another one, as long as neither lies on the way
of the other without lying on its own. -/
theorem deliver_persists {other : GeneratedFile}
    (delivered : (file.deliver directory tree).1 ≠ .failed)
    (before : (other.deliver directory tree).1 ≠ .failed)
    (apart : other.place tree.working directory ∈ file.way tree.working directory →
      other.place tree.working directory ∈ other.way tree.working directory)
    (unmade : file.place tree.working directory ∈ other.way tree.working directory →
      file.place tree.working directory ∈ file.way tree.working directory) :
    (file.deliver directory (other.deliver directory tree).2).1 ≠ .failed := by
  have grows := deliver_grows directory other tree
  rcases delivered_cases delivered with
    ⟨keeps, isThere, -⟩ | ⟨-, -, ⟨place, name, around, admits⟩, -⟩
  · exact deliver_ne_failed_of_contains keeps (Tree.contains_persists grows isThere)
  · rcases delivered_cases before with ⟨-, -, stays⟩ | ⟨-, -, ⟨_, _, _, otherAdmits⟩, -⟩
    · rwa [stays]
    · obtain ⟨later, stillAdmits⟩ := admits.persists grows
        (List.forall_mem_singleton.mpr fun member => otherAdmits.notMem_crossed (apart member))
        (fun member => admits.notMem_crossed (unmade member))
      exact deliver_ne_failed_of_admits stillAdmits

/-- A file that is only written where nothing is, once there are directories up to its place. -/
theorem deliver_ifMissing (keeps : file.overwrite = .ifMissing)
    (start : tree.isDirectory tree.working = true)
    (around : ∀ passed ∈ file.way tree.working directory, tree.isDirectory passed = true)
    (delivered : (file.deliver directory tree).1 ≠ .failed) :
    (∀ entry, tree.entry? (file.place tree.working directory) = some entry →
      (file.deliver directory tree).2 = tree) ∧
    (tree.entry? (file.place tree.working directory) = none →
      Tree.entry? (file.deliver directory tree).2 (file.place tree.working directory) =
        some (.file file.content.toUTF8)) := by
  rcases delivered_cases delivered with ⟨-, isThere, stays⟩ | ⟨-, missing, -, holds⟩
  · refine ⟨fun _ _ => stays, fun none => ?_⟩
    have found := Tree.isSome_of_contains isThere
    rw [GeneratedFile.place] at none
    rw [none] at found
    cases found
  · refine ⟨fun entry found => ?_, fun _ => holds.content⟩
    have isThere := Tree.contains_eq holds.followed holds.isClosed holds.nonempty start around
    rw [missing keeps] at isThere
    rw [GeneratedFile.place] at found
    rw [found] at isThere
    cases isThere

end GeneratedFile

namespace CommandLine

variable {directory : String} {file : GeneratedFile} {files front rest : List GeneratedFile}
  {tree : Tree}

/-! ## Several files -/

theorem deliverAll_cons (rest : List GeneratedFile)
    (delivered : (file.deliver directory tree).1 ≠ .failed) :
    deliverAll directory (file :: rest) tree =
      ((deliverAll directory rest (file.deliver directory tree).2).1.after
          (deliveryLine (file.destination directory) (file.deliver directory tree).1),
        (deliverAll directory rest (file.deliver directory tree).2).2) := by
  rw [deliverAll]
  dsimp only
  split
  · next failed =>
    rw [failed] at delivered
    exact absurd rfl delivered
  · next done => rw [done]

theorem deliverAll_cons_of_failed (failed : (file.deliver directory tree).1 = .failed) :
    deliverAll directory (file :: rest) tree =
      ({ error := some (.unwritable (file.destination directory)) },
        (file.deliver directory tree).2) := by
  rw [deliverAll]
  dsimp only
  split
  · next done => rw [done]
  · next other done =>
    rw [done] at failed
    exact absurd failed other

theorem deliverAll_grows (directory : String) (files : List GeneratedFile) (tree : Tree) :
    tree.Grows (files.flatMap fun file => file.way tree.working directory)
      (files.map fun file => file.place tree.working directory)
      (deliverAll directory files tree).2 := by
  induction files generalizing tree with
  | nil => exact .refl tree
  | cons file rest ih =>
      have first := file.deliver_grows directory tree
      by_cases failed : (file.deliver directory tree).1 = .failed
      · rw [deliverAll_cons_of_failed failed]
        exact first.mono (List.subset_append_left ..) (by simp)
      · have later := ih (file.deliver directory tree).2
        have done := deliverAll_cons rest failed
        rw [first.working] at later
        rw [done]
        exact first.trans later

/-- The only failure is that of writing a file. -/
theorem deliverAll_error (directory : String) (files : List GeneratedFile) (tree : Tree) :
    (deliverAll directory files tree).1.error = none ∨
      ∃ file ∈ files, (deliverAll directory files tree).1.error =
        some (.unwritable (file.destination directory)) := by
  induction files generalizing tree with
  | nil => exact .inl rfl
  | cons file rest ih =>
      by_cases failed : (file.deliver directory tree).1 = .failed
      · rw [deliverAll_cons_of_failed failed]
        exact .inr ⟨file, List.mem_cons_self, rfl⟩
      · have done := deliverAll_cons rest failed
        rw [done]
        exact (ih _).imp_right fun ⟨other, member, error⟩ =>
          ⟨other, List.mem_cons_of_mem _ member, error⟩

theorem of_deliverAll_cons (done : (deliverAll directory (file :: rest) tree).1.error = none) :
    (file.deliver directory tree).1 ≠ .failed ∧
      (deliverAll directory rest (file.deliver directory tree).2).1.error = none ∧
      (deliverAll directory (file :: rest) tree).2 =
        (deliverAll directory rest (file.deliver directory tree).2).2 := by
  by_cases failed : (file.deliver directory tree).1 = .failed
  · rw [deliverAll_cons_of_failed failed] at done
    cases done
  · have delivered := deliverAll_cons rest failed
    rw [delivered] at done ⊢
    exact ⟨failed, done, rfl⟩

/-- The turn of a file, when all are delivered. -/
theorem turn_of_done (done : (deliverAll directory (front ++ file :: rest) tree).1.error = none) :
    (file.deliver directory (deliverAll directory front tree).2).1 ≠ .failed ∧
      (deliverAll directory (front ++ file :: rest) tree).2 =
        (deliverAll directory rest
          (file.deliver directory (deliverAll directory front tree).2).2).2 := by
  induction front generalizing tree with
  | nil =>
      obtain ⟨delivered, -, after⟩ := of_deliverAll_cons done
      exact ⟨delivered, after⟩
  | cons first front ih =>
      obtain ⟨begun, others, after⟩ := of_deliverAll_cons done
      have turns := deliverAll_cons front begun
      obtain ⟨delivered, final⟩ := ih others
      rw [turns]
      exact ⟨delivered, after.trans final⟩

/-- A file that replaces what is there is written in its turn, and stays unless another one comes
into its place. -/
theorem written_of_always
    (done : (deliverAll directory (front ++ file :: rest) tree).1.error = none)
    (always : file.overwrite = .always) :
    (file.deliver directory (deliverAll directory front tree).2).1 = .written ∧
      ((∀ other ∈ rest,
        other.place tree.working directory ≠ file.place tree.working directory) →
      Tree.entry? (deliverAll directory (front ++ file :: rest) tree).2
        (file.place tree.working directory) = some (.file file.content.toUTF8)) := by
  obtain ⟨delivered, final⟩ := turn_of_done done
  have before := deliverAll_grows directory front tree
  generalize (deliverAll directory front tree).2 = middle at delivered final before ⊢
  obtain ⟨written, holds⟩ := GeneratedFile.written_of_delivered always delivered
  refine ⟨written, fun isLast => ?_⟩
  have content := holds.content
  rw [before.working] at content
  have later := deliverAll_grows directory rest (file.deliver directory middle).2
  rw [(file.deliver_grows directory middle).working, before.working] at later
  have elsewhere : file.place tree.working directory ∉
      rest.map fun other => other.place tree.working directory := by
    intro member
    obtain ⟨other, listed, same⟩ := List.mem_map.mp member
    exact isLast other listed same
  rw [final]
  exact later.entry_eq_some elsewhere content

/-- Files are all delivered when each of them can be on its own, unless one lies on the way of
another. -/
theorem deliverAll_done
    (delivered : ∀ file ∈ files, (file.deliver directory tree).1 ≠ .failed)
    (apart : ∀ file ∈ files, ∀ other ∈ files,
      file.place tree.working directory ∈ other.way tree.working directory →
        file.place tree.working directory ∈ file.way tree.working directory) :
    (deliverAll directory files tree).1.error = none := by
  induction files generalizing tree with
  | nil => rfl
  | cons file rest ih =>
      obtain ⟨first, others⟩ := List.forall_mem_cons.mp delivered
      have done := deliverAll_cons rest first
      have working := (file.deliver_grows directory tree).working
      rw [done]
      refine ih (fun other listed => ?_) (fun other listed another alsoListed => ?_)
      · exact GeneratedFile.deliver_persists (others other listed) first
          (apart file List.mem_cons_self other (List.mem_cons_of_mem _ listed))
          (apart other (List.mem_cons_of_mem _ listed) file List.mem_cons_self)
      · rw [working]
        exact apart other (List.mem_cons_of_mem _ listed) another
          (List.mem_cons_of_mem _ alsoListed)

/-- A file beside one that was just written is written itself where nothing was, and only there. -/
theorem deliverAll_beside {beside : GeneratedFile} (always : file.overwrite = .always)
    (keeps : beside.overwrite = .ifMissing)
    (sameWay : beside.way tree.working directory = file.way tree.working directory)
    (apart : beside.place tree.working directory ≠ file.place tree.working directory)
    (start : tree.isDirectory tree.working = true)
    (done : (deliverAll directory [file, beside] tree).1.error = none) :
    (∀ entry, tree.entry? (beside.place tree.working directory) = some entry →
      Tree.entry? (deliverAll directory [file, beside] tree).2
        (beside.place tree.working directory) =
        some entry) ∧
    ((beside.deliver directory tree).1 ≠ .failed →
      tree.entry? (beside.place tree.working directory) = none →
      Tree.entry? (deliverAll directory [file, beside] tree).2
        (beside.place tree.working directory) =
        some (.file beside.content.toUTF8)) := by
  obtain ⟨delivered, others, after⟩ := of_deliverAll_cons done
  obtain ⟨alsoDelivered, -, final⟩ := of_deliverAll_cons others
  have grows := file.deliver_grows directory tree
  have around : ∀ passed ∈ file.way tree.working directory,
      (file.deliver directory tree).2.isDirectory passed = true :=
    (GeneratedFile.written_of_delivered always delivered).2.around
  obtain ⟨stays, fills⟩ := GeneratedFile.deliver_ifMissing keeps
    (by rw [grows.working]; exact grows.isDirectory start)
    (by rw [grows.working, sameWay]; exact around) alsoDelivered
  rw [grows.working] at stays fills
  rw [after, final, deliverAll]
  have elsewhere : beside.place tree.working directory ∉ [file.place tree.working directory] :=
    fun member => apart (List.mem_singleton.mp member)
  constructor
  · intro entry isThere
    have still := grows.entry_eq_some elsewhere isThere
    rw [stays entry still, still]
  · intro alone missing
    refine fills ?_
    -- On its own, the file was not on the way that was made.
    rcases GeneratedFile.delivered_cases alone with ⟨-, isThere, -⟩ | ⟨-, -, ⟨_, _, _, admits⟩, -⟩
    · have found := Tree.isSome_of_contains isThere
      rw [GeneratedFile.place] at missing
      rw [missing] at found
      cases found
    · rcases grows.entry (beside.place tree.working directory) with same | ⟨onWay, -⟩ | ⟨here, -⟩
      · exact same.trans missing
      · rw [← sameWay] at onWay
        exact absurd onWay admits.notMem_crossed
      · exact absurd here elsewhere

end CommandLine

end RpcSchema
