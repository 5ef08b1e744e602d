import Pseudocode.Proofs.FileSystem.Output

/-! Making and writing files changes no directories, so every path leads to where it led before. -/

namespace Pseudocode

namespace FileSystem

variable {files other : FileSystem} {path : String} {place : Location}

/-- A path names the same place in file systems with the same working directory. -/
theorem locate_congr (workDir : other.workDir = files.workDir) (path : String) :
    other.locate path = files.locate path := by
  -- Nothing of a file system but its working directory is asked for a place.
  rw [locate, locate, workDir]

/-- Two file systems have the same directories, and are seen from the same one. -/
structure SameTree (files other : FileSystem) : Prop where
  workDir : other.workDir = files.workDir
  isDirectory : ∀ place, other.isDirectory place = files.isDirectory place

namespace SameTree

/-- Names can be followed where they could be before. -/
theorem canFollow_eq (same : SameTree files other) (here : Location) (names : List String) :
    other.canFollow here names = files.canFollow here names := by
  -- Each name leads to another place, so the place stays quantified over.
  induction names generalizing here with
  | nil => rfl
  | cons name names ih => rw [canFollow, canFollow, same.isDirectory, ih]

/-- The file of a path is, or would be, where it was before. -/
theorem filePlace?_eq (same : SameTree files other) (path : String) :
    other.filePlace? path = files.filePlace? path := by
  -- Only directories decide whether the names can be followed.
  rw [filePlace?, filePlace?, same.workDir, same.canFollow_eq, locate_congr same.workDir]

/-- An input is opened as before if nothing has happened at its place. -/
theorem openInput_eq (same : SameTree files other)
    (kept : other.node? (files.locate path) = files.node? (files.locate path)) :
    other.openInput path = files.openInput path := by
  rw [openInput, openInput, same.filePlace?_eq]
  cases found : files.filePlace? path with
  | none => rfl
  | some place =>
    -- The file can only be at the place that the path names.
    simp only [filePlace?_eq_some found, kept]

end SameTree

end FileSystem

/-- Which device what is at a place would be once it is opened as an output, or none for a file. -/
def Node.opensAs : Option Node → Access (Option Device)
  | some .directory => .refused
  | some (.device kind) => .granted (some kind)
  -- Where nothing is, a file is made.
  | some (.file _) | none => .granted none

/-- Which device an output would be once it is opened, or none for a file. -/
def FileSystem.opensAs (files : FileSystem) (path : String) : Access (Option Device) :=
  if Path.isWellFormed path then
    match files.filePlace? path with
    | none => .refused
    | some place => Node.opensAs (files.node? place)
  else .malformed

/-- What can be done to a file at a place. -/
inductive Effect where
  /-- Nothing happens. -/
  | keep
  /-- An empty file is made if nothing is there. -/
  | make
  /-- A file is made if nothing is there, and it is given its bytes. -/
  | write (content : ByteArray)

namespace Effect

/-- What is at the place afterwards. -/
def onNode : Effect → Option Node → Option Node
  | .keep, node => node
  | .make, node => node.or (some (.file .empty))
  -- Only a file can be given bytes.
  | .write _, some .directory => some .directory
  | .write _, some (.device device) => some (.device device)
  | .write content, some (.file _) | .write content, none => some (.file content)

/-- The file system afterwards. -/
def apply (effect : Effect) (place : Location) (files : FileSystem) : FileSystem :=
  match effect.onNode (files.node? place) with
  | some node => files.set place node
  | none => files

variable {effect : Effect} {files : FileSystem} {place : Location}

/-- An effect takes nothing away. -/
theorem eq_none_of_onNode {node : Option Node} (gone : effect.onNode node = none) : node = none := by
  -- What is made or written is there afterwards, so nothing can have been done.
  cases effect with
  | keep => exact gone
  | make => exact (Option.or_eq_none_iff.mp gone).1
  | write content =>
    match node with
    | none => rfl
    | some .directory | some (.device _) | some (.file _) => contradiction

/-- An effect is felt at its own place, and all other places are as they were. -/
@[simp] theorem node?_apply (effect : Effect) (place other : Location) (files : FileSystem) :
    (effect.apply place files).node? other
      = if place = other then effect.onNode (files.node? place) else files.node? other := by
  unfold apply
  split
  · rename_i node after
    -- What is left at the place is put there.
    rw [FileSystem.node?_set, after]
  · rename_i after
    split
    · rename_i here
      -- Nothing is there afterwards, so nothing was there before.
      rw [after, ← here, eq_none_of_onNode after]
    · rfl

/-- An effect does not move the working directory. -/
@[simp] theorem workDir_apply (effect : Effect) (place : Location) (files : FileSystem) :
    (effect.apply place files).workDir = files.workDir := by
  -- An effect puts something at a place, or does nothing.
  unfold apply
  split <;> rfl

/-- An effect does not change how much any file can hold. -/
@[simp] theorem limits_apply (effect : Effect) (place : Location) (files : FileSystem) :
    (effect.apply place files).limits = files.limits := by
  unfold apply
  split <;> rfl

/-- An effect that leaves what is at its place changes nothing. -/
theorem apply_eq_self (left : effect.onNode (files.node? place) = files.node? place) :
    effect.apply place files = files := by
  rw [apply, left]
  -- What is at the place is put back, if there is something.
  cases there : files.node? place with
  | none => rfl
  | some node => exact FileSystem.set_eq_self there

/-- The effect of nothing changes nothing. -/
@[simp] theorem apply_keep (place : Location) (files : FileSystem) : keep.apply place files = files :=
  apply_eq_self rfl

/-- What an effect has left at a place stays there when the same effect is felt again. -/
theorem onNode_onNode (effect : Effect) (node : Option Node) :
    effect.onNode (effect.onNode node) = effect.onNode node := by
  -- Each effect is tried twice on everything that can be at a place.
  cases effect <;> rcases node with _ | (_ | _ | _) <;> rfl

/-- An effect that has been felt once makes no difference any more. -/
theorem apply_apply (effect : Effect) (place : Location) (files : FileSystem) :
    effect.apply place (effect.apply place files) = effect.apply place files := by
  apply apply_eq_self
  -- What is at the place after the first time stays there.
  rw [node?_apply, if_pos rfl, onNode_onNode]

/-- Effects at different places can be had in either order. -/
theorem apply_comm {other : Location} (apart : place ≠ other) (effect otherEffect : Effect)
    (files : FileSystem) :
    otherEffect.apply other (effect.apply place files)
      = effect.apply place (otherEffect.apply other files) := by
  refine FileSystem.ext_node? (by simp) (by simp) fun spot => ?_
  -- At each of the two places, one effect is felt and the other is not.
  simp only [node?_apply, if_neg apart, if_neg apart.symm]
  by_cases here : place = spot
  · subst here
    rw [if_neg apart.symm, if_pos rfl, if_pos rfl]
  · rw [if_neg here, if_neg here]

/-- No effect makes a directory or takes one away. -/
theorem sameTree_apply (effect : Effect) (place : Location) (files : FileSystem) :
    files.SameTree (effect.apply place files) := by
  refine ⟨workDir_apply _ _ _, fun other => ?_⟩
  rw [FileSystem.isDirectory, FileSystem.isDirectory, node?_apply]
  split
  · rename_i here
    rw [← here]
    -- What is there is a directory afterwards exactly if it was one before.
    cases effect <;> rcases files.node? place with _ | (_ | _ | _) <;> rfl
  · rfl

/-- Where an effect is felt, opening an output finds what it found before. -/
theorem opensAs_onNode (effect : Effect) (node : Option Node) :
    Node.opensAs (effect.onNode node) = Node.opensAs node := by
  -- A file stays one, and where none was, one would have been made.
  cases effect <;> rcases node with _ | (_ | _ | _) <;> rfl

end Effect

namespace FileSystem

variable {files opened : FileSystem} {path : String} {place : Location}

/-- Opening an output makes a file if there is none, and does nothing else. -/
theorem openOutput_eq (files : FileSystem) (path : String) :
    files.openOutput path
      = match files.opensAs path with
        | .granted _ => .granted (files.locate path, Effect.make.apply (files.locate path) files)
        | .refused => .refused
        | .malformed => .malformed := by
  unfold openOutput opensAs
  cases Path.isWellFormed path with
  | false => rfl
  | true =>
    -- The place of the file is the one that the path names.
    cases found : files.filePlace? path with
    | none => rfl
    | some place =>
      rw [← filePlace?_eq_some found]
      cases there : files.node? place with
      | none => simp [there, Node.opensAs, Effect.apply, Effect.onNode]
      | some node =>
        -- What is there is put back, so that nothing changes.
        have same : Effect.make.apply place files = files :=
          Effect.apply_eq_self (by rw [there]; rfl)
        cases node <;> simp [there, Node.opensAs, same]

/-- An output that is opened is made at the place that its path names, and is a file or a device. -/
theorem openOutput_eq_make (opening : files.openOutput path = .granted (place, opened)) :
    place = files.locate path ∧ opened = Effect.make.apply place files ∧
      ∃ device?, files.opensAs path = .granted device? := by
  rw [openOutput_eq] at opening
  -- Of the three answers, only one is that the output is opened.
  split at opening
  · rename_i device? found
    cases opening
    exact ⟨rfl, rfl, device?, found⟩
  · contradiction
  · contradiction

/-- What is at the place of an output that can be opened follows from what it would be opened as. -/
theorem node?_of_opensAs {device? : Option Device} (found : files.opensAs path = .granted device?) :
    match device? with
    | some device => files.node? (files.locate path) = some (.device device)
    | none => (∃ held, files.node? (files.locate path) = some (.file held)) ∨
        files.node? (files.locate path) = none := by
  unfold opensAs at found
  split at found
  · split at found
    · contradiction
    · rename_i place atPlace
      rw [← filePlace?_eq_some atPlace]
      -- Everything that can be at the place is tried.
      rcases there : files.node? place with _ | (_ | _ | _) <;> rw [there] at found <;>
        cases found <;> simp
  · contradiction

/-- An output that is opened as a file and then cut is an empty file. -/
theorem cut_make_of_file (found : files.opensAs path = .granted none) :
    (Effect.make.apply (files.locate path) files).cut (files.locate path)
      = some ((Effect.write .empty).apply (files.locate path) files) := by
  -- There is a file already, or one is made before it is cut.
  rcases node?_of_opensAs found with ⟨held, there⟩ | missing
  · simp [cut, Effect.apply, Effect.onNode, there]
  · simp [cut, Effect.apply, Effect.onNode, missing]

/-- An output that is opened as a device is not changed by cutting it, if it can be cut at all. -/
theorem cut_make_of_device {device : Device} (found : files.opensAs path = .granted (some device)) :
    (Effect.make.apply (files.locate path) files).cut (files.locate path)
      = if device.canBeCut then some (Effect.make.apply (files.locate path) files) else none := by
  -- The device was there before, so nothing is made when it is opened.
  have there : files.node? (files.locate path) = some (.device device) := node?_of_opensAs found
  simp [cut, Effect.onNode, there]

/-- What has been emptied is an empty file, if it is opened as a file. -/
theorem node?_emptied (found : files.opensAs path = .granted none) :
    ((Effect.write .empty).apply (files.locate path) files).node? (files.locate path)
      = some (.file .empty) := by
  rw [Effect.node?_apply, if_pos rfl]
  -- A file that was there has lost its bytes, and a file that is made has none.
  rcases node?_of_opensAs found with ⟨held, there⟩ | missing
  · rw [there, Effect.onNode]
  · rw [missing, Effect.onNode]

/-- What has been emptied and then added to has been written. -/
theorem append_emptied (found : files.opensAs path = .granted none) (bytes : ByteArray) :
    ((Effect.write .empty).apply (files.locate path) files).append (files.locate path) bytes
      = (bytes.extract (files.fitting (files.locate path) 0 bytes.size) bytes.size,
          (Effect.write (files.holdable (files.locate path) bytes)).apply (files.locate path) files) := by
  rw [append_of_empty (node?_emptied found)]
  -- How much fits depends on the limit alone, and that is as before.
  have fits : ((Effect.write .empty).apply (files.locate path) files).fitting (files.locate path) 0
      bytes.size = files.fitting (files.locate path) 0 bytes.size := by
    simp [fitting]
  rw [holdable, fits, ← holdable]
  congr 1
  -- Writing a file gives it its bytes, whether it was there before or not.
  rcases node?_of_opensAs found with ⟨held, there⟩ | missing
  · simp [Effect.apply, Effect.onNode, there]
  · simp [Effect.apply, Effect.onNode, missing]

/--
Cutting an opened output and adding to it has an effect at its place, which depends on little.

It is the same in every file system in which the output is opened as the same and has the same limit.
-/
theorem exists_effect_append {emptied : FileSystem} {device? : Option Device}
    (found : files.opensAs path = .granted device?)
    (cutting : (Effect.make.apply (files.locate path) files).cut (files.locate path) = some emptied)
    (bytes : ByteArray) :
    ∃ effect : Effect,
      (emptied.append (files.locate path) bytes).2 = effect.apply (files.locate path) files ∧
      ∀ other : FileSystem, other.workDir = files.workDir → other.limits = files.limits →
        other.opensAs path = .granted device? →
        ∃ otherEmptied,
          (Effect.make.apply (files.locate path) other).cut (files.locate path) = some otherEmptied ∧
          otherEmptied.append (files.locate path) bytes
            = ((emptied.append (files.locate path) bytes).1,
                effect.apply (files.locate path) other) := by
  cases device? with
  | none =>
    -- A file holds what it can of the bytes, whatever it held before.
    rw [cut_make_of_file found] at cutting
    cases cutting
    refine ⟨.write (files.holdable (files.locate path) bytes), by rw [append_emptied found], ?_⟩
    intro other workDir limits alsoFound
    have located := locate_congr workDir path
    have fits : other.fitting (files.locate path) 0 bytes.size
        = files.fitting (files.locate path) 0 bytes.size := by
      rw [fitting, fitting, limits]
    refine ⟨_, located ▸ cut_make_of_file alsoFound, ?_⟩
    have appended := append_emptied alsoFound bytes
    rw [located, holdable, fits] at appended
    rw [appended, append_emptied found]
    rfl
  | some device =>
    -- A device is cut or not, and takes nothing in either case.
    rw [cut_make_of_device found] at cutting
    split at cutting
    · rename_i canBeCut
      cases cutting
      have there (files : FileSystem) (found : files.opensAs path = .granted (some device)) :
          (Effect.make.apply (files.locate path) files).node? (files.locate path)
            = some (.device device) := by
        have before : files.node? (files.locate path) = some (.device device) :=
          node?_of_opensAs found
        simp [before, Effect.onNode]
      refine ⟨.make, by rw [append_of_device (there files found)], ?_⟩
      intro other workDir _ alsoFound
      have located := locate_congr workDir path
      refine ⟨Effect.make.apply (files.locate path) other, ?_, ?_⟩
      · have cutting := cut_make_of_device alsoFound
        rwa [located, if_pos canBeCut] at cutting
      · have kept := there other alsoFound
        rw [located] at kept
        rw [append_of_device kept, append_of_device (there files found)]
    · contradiction

/-- No effect changes what is found out by opening an output, at its own place or elsewhere. -/
theorem opensAs_apply (effect : Effect) (place : Location) (files : FileSystem) (path : String) :
    (effect.apply place files).opensAs path = files.opensAs path := by
  rw [opensAs, opensAs, (effect.sameTree_apply place files).filePlace?_eq]
  cases files.filePlace? path with
  | none => rfl
  | some found =>
    have same : Node.opensAs ((effect.apply place files).node? found)
        = Node.opensAs (files.node? found) := by
      -- At the place of the effect, what is there opens as it did before.
      rw [Effect.node?_apply]
      split
      · rename_i here
        rw [Effect.opensAs_onNode, here]
      · rfl
    simp only [same]

/-- An input is opened as before unless there has been an effect at the place that its path names. -/
theorem openInput_apply (effect : Effect) (apart : place ≠ files.locate path) :
    (effect.apply place files).openInput path = files.openInput path := by
  -- No directory has changed, so the path leads to where it led, and that is elsewhere.
  apply (effect.sameTree_apply place files).openInput_eq
  rw [Effect.node?_apply, if_neg apart]

/-- What is read at a place changes only if there is an effect at that place. -/
theorem contents?_apply (effect : Effect) {other : Location} (apart : place ≠ other) :
    (effect.apply place files).contents? other = files.contents? other := by
  -- All that is read at a place is what is there.
  rw [contents?, contents?, Effect.node?_apply, if_neg apart]

end FileSystem

end Pseudocode
