import Pseudocode.FileSystem.Basic

/-! What opening, reading and cutting files can do to a file system, and what they leave alone. -/

namespace Pseudocode

/-- Bytes are read as a text exactly when they are what the text is written as. -/
theorem fromUTF8?_eq_some_iff (bytes : ByteArray) (text : String) :
    String.fromUTF8? bytes = some text ↔ bytes = text.toUTF8 := by
  unfold String.fromUTF8?
  constructor
  · intro read
    -- A text is only read from bytes that are valid, and is what they stand for.
    split at read
    · cases read
      rfl
    · contradiction
  · intro written
    subst written
    -- What a text is written as is always valid.
    exact dif_pos text.isValidUTF8

/-- Bytes are read as no text exactly when no text is written as them. -/
theorem fromUTF8?_eq_none_iff (bytes : ByteArray) :
    String.fromUTF8? bytes = none ↔ ∀ text : String, bytes ≠ text.toUTF8 := by
  -- No text is read exactly when each text is not the one that is read.
  rw [Option.eq_none_iff_forall_ne_some]
  exact forall_congr' fun text => not_congr (fromUTF8?_eq_some_iff bytes text)

/-- No file system can be asked for a path exactly when the null character is in it. -/
theorem Path.isWellFormed_eq_false_iff (path : String) :
    isWellFormed path = false ↔ '\x00' ∈ path.toList := by
  -- The null character is all that a path is looked through for.
  simp [isWellFormed]

/-- A file system can be asked for a path exactly when the null character is not in it. -/
theorem Path.isWellFormed_eq_true_iff (path : String) :
    isWellFormed path = true ↔ '\x00' ∉ path.toList := by
  rw [← isWellFormed_eq_false_iff, Bool.not_eq_false]

/--
No path that starts at the root leads into a fresh directory.

The name of such a directory has a slash in it, and that is what names are told apart by.
-/
theorem Path.freshDirectory_not_prefix {path : String} (absolute : isAbsolute path = true)
    (workDir : Location) : ¬ FileSystem.freshDirectory <+: locate workDir path := by
  -- Following a name leaves names away or adds the name itself, so no slash comes in.
  have general : ∀ (followed : List String) (here : Location),
      (∀ name ∈ here, '/' ∉ name.toList) → (∀ name ∈ followed, '/' ∉ name.toList) →
        ∀ name ∈ followed.foldl Location.enter here, '/' ∉ name.toList := by
    intro followed
    induction followed with
    | nil => exact fun here clean _ => clean
    | cons next followed ih =>
      intro here clean cleanNames
      obtain ⟨cleanNext, cleanLater⟩ := List.forall_mem_cons.mp cleanNames
      refine ih _ (fun name member => ?_) cleanLater
      rw [Location.enter] at member
      split at member
      · exact clean name member
      · split at member
        · exact clean name ((List.dropLast_sublist here).subset member)
        · rcases List.mem_append.mp member with earlier | last
          · exact clean name earlier
          · exact List.mem_singleton.mp last ▸ cleanNext
  -- The path starts at the root, so only its own names lead to where it leads.
  rintro ⟨below, reached⟩
  have clean := general (names path) [] (by simp) fun name => slash_not_mem
  rw [locate, start, if_pos absolute] at reached
  rw [← reached] at clean
  exact clean "/" (by simp [FileSystem.freshDirectory]) (by decide)

namespace FileSystem

variable {files opened : FileSystem} {path : String} {place : Location}

/-- File systems are the same if they have the same limits and the same everywhere, from one place. -/
theorem ext_node? {other : FileSystem} (workDir : files.workDir = other.workDir)
    (limits : files.limits = other.limits)
    (nodes : ∀ place, files.node? place = other.node? place) : files = other :=
  -- What is at the places is all that the nodes tell.
  FileSystem.ext workDir limits (Std.ExtTreeMap.ext_getElem? nodes)

/-- Putting what is at a place back there changes nothing. -/
theorem set_eq_self {node : Node} (there : files.node? place = some node) :
    files.set place node = files := by
  refine ext_node? rfl rfl fun other => ?_
  rw [node?_set]
  -- At the place itself there is what was there, and nothing has happened elsewhere.
  split
  · rename_i here
    rw [← here, there]
  · rfl

/-- What is put at a place takes the place of what was put there before. -/
@[simp] theorem set_set (files : FileSystem) (place : Location) (earlier later : Node) :
    (files.set place earlier).set place later = files.set place later := by
  refine ext_node? rfl rfl fun other => ?_
  -- The earlier one is seen nowhere: not at the place, and not elsewhere.
  simp only [node?_set]
  split <;> rfl

/-- An opened output was there already and is no directory, or is made as an empty file. -/
theorem openOutput_cases (opening : files.openOutput path = .granted (place, opened)) :
    files.filePlace? path = some place ∧
      ((opened = files ∧
          ((∃ held, files.node? place = some (.file held)) ∨
            ∃ device, files.node? place = some (.device device))) ∨
        (files.node? place = none ∧ opened = files.set place (.file .empty))) := by
  unfold openOutput at opening
  split at opening
  · split at opening
    · contradiction
    · rename_i found
      -- What is at the place decides whether it is opened, made, or refused.
      split at opening
      · contradiction
      · rename_i held here
        cases opening
        exact ⟨found, Or.inl ⟨rfl, Or.inl ⟨held, here⟩⟩⟩
      · rename_i device here
        cases opening
        exact ⟨found, Or.inl ⟨rfl, Or.inr ⟨device, here⟩⟩⟩
      · rename_i here
        cases opening
        exact ⟨found, Or.inr ⟨here, rfl⟩⟩
  · contradiction

/-- An output is opened at the place that its path names. -/
theorem openOutput_place (opening : files.openOutput path = .granted (place, opened)) :
    place = files.locate path :=
  -- An output is opened where its file is or would be.
  filePlace?_eq_some (openOutput_cases opening).1

/-- Opening an output changes nothing at any other place. -/
theorem openOutput_frame (opening : files.openOutput path = .granted (place, opened))
    {other : Location} (apart : other ≠ place) : opened.node? other = files.node? other := by
  -- At most an empty file is put at the place of the output.
  rcases (openOutput_cases opening).2 with ⟨rfl, -⟩ | ⟨-, rfl⟩
  · rfl
  · rw [node?_set, if_neg apart.symm]

/-- Opening an output does not move the working directory. -/
theorem openOutput_workDir (opening : files.openOutput path = .granted (place, opened)) :
    opened.workDir = files.workDir := by
  -- What is opened was there before, or is put into the same file system.
  rcases (openOutput_cases opening).2 with ⟨rfl, -⟩ | ⟨-, rfl⟩ <;> rfl

/-- Opening an output changes nothing that was there before. -/
theorem openOutput_keeps (opening : files.openOutput path = .granted (place, opened))
    {other : Location} {node : Node} (there : files.node? other = some node) :
    opened.node? other = some node := by
  rcases (openOutput_cases opening).2 with ⟨rfl, -⟩ | ⟨missing, rfl⟩
  · exact there
  · -- A file is made only where nothing was.
    have apart : place ≠ other := by
      rintro rfl
      rw [missing] at there
      contradiction
    rw [node?_set, if_neg apart, there]

/-- An opened input is a file or a device at the place that its path names. -/
theorem openInput_cases (opening : files.openInput path = .granted place) :
    place = files.locate path ∧
      ((∃ held, files.node? place = some (.file held)) ∨
        ∃ device, files.node? place = some (.device device)) := by
  unfold openInput at opening
  split at opening
  · split at opening
    · contradiction
    · rename_i found
      -- Neither a directory nor a place where nothing is can be opened to read it.
      split at opening
      · rename_i held here
        cases opening
        exact ⟨filePlace?_eq_some found, Or.inl ⟨held, here⟩⟩
      · rename_i device here
        cases opening
        exact ⟨filePlace?_eq_some found, Or.inr ⟨device, here⟩⟩
      · contradiction
      · contradiction
  · contradiction

/-- What is read from an opened input does not change when an output is opened, even the same file. -/
theorem contents?_openOutput {inputPath : String} {input : Location}
    (openingInput : files.openInput inputPath = .granted input)
    (opening : files.openOutput path = .granted (place, opened)) :
    opened.contents? input = files.contents? input := by
  -- Something is at the place of the input, and opening an output keeps whatever is there.
  rcases (openInput_cases openingInput).2 with ⟨held, there⟩ | ⟨device, there⟩
  · rw [contents?, contents?, openOutput_keeps opening there, there]
  · rw [contents?, contents?, openOutput_keeps opening there, there]

/-- The file with a path can be opened as input, and the bytes are all that is read from it. -/
def Reads (files : FileSystem) (path : String) (source : ByteArray) : Prop :=
  ∃ place, files.openInput path = .granted place ∧ files.contents? place = some source

namespace Reads

variable {source : ByteArray}

/-- Only one thing is read from an input. -/
theorem eq {other : ByteArray} (reads : files.Reads path source) (again : files.Reads path other) :
    other = source := by
  obtain ⟨place, opening, contents⟩ := reads
  obtain ⟨otherPlace, otherOpening, otherContents⟩ := again
  -- Both were opened at the same place, and there is one thing to read there.
  rw [opening] at otherOpening
  cases otherOpening
  rw [contents] at otherContents
  exact (Option.some.inj otherContents).symm

/-- What is read at a path is what a file holds there, unless there is a device. -/
theorem cases (reads : files.Reads path source) :
    files.node? (files.locate path) = some (.file source) ∨
      ∃ device, files.node? (files.locate path) = some (.device device) := by
  obtain ⟨place, opening, contents⟩ := reads
  obtain ⟨rfl, there⟩ := openInput_cases opening
  -- From a file, what it holds is read.
  refine there.imp_left fun isFile => ?_
  obtain ⟨held, there⟩ := isFile
  rw [contents?, there] at contents
  rw [there, Option.some.inj contents]

end Reads

/-- There is a file with the path, and the bytes are what it holds. -/
def Holds (files : FileSystem) (path : String) (content : ByteArray) : Prop :=
  '\x00' ∉ path.toList ∧
    ∃ place, files.filePlace? path = some place ∧ files.node? place = some (.file content)

/-- What a file holds is what is read from it. -/
theorem Holds.reads {content : ByteArray} (holds : files.Holds path content) :
    files.Reads path content := by
  obtain ⟨noNull, place, found, there⟩ := holds
  -- A path with a file is one that can be asked for.
  have wellFormed := (Path.isWellFormed_eq_true_iff path).mpr noNull
  refine ⟨place, ?_, by rw [contents?, there]⟩
  simp only [openInput, if_pos wellFormed, found, there]

/-- What has been cut is a file that holds nothing now, or a device that does not mind. -/
theorem cut_cases {emptied : FileSystem} (cutting : files.cut place = some emptied) :
    (∃ held, files.node? place = some (.file held)) ∧ emptied = files.set place (.file .empty) ∨
      (∃ device, files.node? place = some (.device device)) ∧ emptied = files := by
  unfold cut at cutting
  -- Only what is no directory can be cut.
  split at cutting
  · rename_i held there
    cases cutting
    exact Or.inl ⟨⟨held, there⟩, rfl⟩
  · rename_i device there
    split at cutting
    · cases cutting
      exact Or.inr ⟨⟨device, there⟩, rfl⟩
    · contradiction
  · contradiction
  · contradiction

/-- An opened output that cannot be cut was there before, so that opening it changed nothing. -/
theorem openOutput_eq_self (opening : files.openOutput path = .granted (place, opened))
    (noCut : opened.cut place = none) : opened = files := by
  rcases (openOutput_cases opening).2 with ⟨same, -⟩ | ⟨-, rfl⟩
  · exact same
  · -- What is made when an output is missing is a file, and a file can be cut.
    simp [cut] at noCut

end FileSystem

end Pseudocode
