import Pseudocode.FileSystem.Output
import Pseudocode.Proofs.FileSystem

/-!
What is written to an output ends up in its file, as far as there is room for it.

Whether the file is passed the bytes at once or with some delay makes no difference to that.
It only makes a difference to when the output is found to have no room for more.
-/

namespace Pseudocode

namespace FileSystem

variable {files : FileSystem} {place : Location} {content : ByteArray}

/-- No more bytes fit into a file than it is offered. -/
theorem fitting_le (files : FileSystem) (place : Location) (held offered : Nat) :
    files.fitting place held offered ≤ offered := by
  unfold fitting
  -- A limit can only make it fewer.
  split
  · exact Nat.le_refl _
  · exact Nat.min_le_right _ _

/-- Once a file has taken what fits of some bytes, nothing of the others fits either. -/
theorem fitting_again (files : FileSystem) (place : Location) (held offered : Nat) :
    files.fitting place (held + files.fitting place held offered)
      (offered - files.fitting place held offered) = 0 := by
  unfold fitting
  -- Without a limit all bytes have been taken, and with one it has been reached unless they have.
  cases files.limits[place]? with
  | none => exact Nat.sub_self offered
  | some limit => dsimp only; omega

/-- A file takes as many bytes as fit, and the others are left. -/
theorem append_of_file (there : files.node? place = some (.file content)) (bytes : ByteArray) :
    files.append place bytes
      = (bytes.extract (files.fitting place content.size bytes.size) bytes.size,
          files.set place
            (.file (content ++ bytes.extract 0 (files.fitting place content.size bytes.size)))) := by
  rw [append, there]

/-- A device takes nothing. -/
theorem append_of_device {device : Device} (there : files.node? place = some (.device device))
    (bytes : ByteArray) : files.append place bytes = (bytes, files) := by
  rw [append, there]

/-- What was left the first time is left again, and then nothing changes. -/
theorem append_again (files : FileSystem) (place : Location) (bytes : ByteArray) :
    (files.append place bytes).2.append place (files.append place bytes).1
      = files.append place bytes := by
  -- What is no file takes nothing, the first time and again.
  cases there : files.node? place with
  | none => simp [append, there]
  | some node =>
    cases node with
    | directory => simp [append, there]
    | device device => simp [append, there]
    | file content =>
      rw [append_of_file there]
      generalize count : files.fitting place content.size bytes.size = taken
      have within : taken ≤ bytes.size := count ▸ files.fitting_le place _ _
      -- The file holds what it has taken, and there is no room for the rest.
      have full : (files.set place (.file (content ++ bytes.extract 0 taken))).fitting place
          (content ++ bytes.extract 0 taken).size (bytes.extract taken bytes.size).size = 0 := by
        have noMore := files.fitting_again place content.size bytes.size
        rw [count] at noMore
        simpa [fitting, Nat.min_eq_left within] using noMore
      have held : (files.set place (.file (content ++ bytes.extract 0 taken))).node? place
          = some (.file (content ++ bytes.extract 0 taken)) := by
        rw [node?_set, if_pos rfl]
      rw [append_of_file held, full, ByteArray.extract_same, ByteArray.append_empty, set_set,
        ByteArray.extract_zero_size]

/-- A file takes all of the bytes when they are added to it. -/
def Takes (files : FileSystem) (place : Location) (bytes : ByteArray) : Prop :=
  (files.append place bytes).1 = .empty

/-- Whether a file takes all of some bytes is found out by adding them. -/
instance (files : FileSystem) (place : Location) (bytes : ByteArray) :
    Decidable (files.Takes place bytes) :=
  inferInstanceAs (Decidable (_ = _))

/-- The part of some bytes that an empty file at a place can hold. -/
def holdable (files : FileSystem) (place : Location) (bytes : ByteArray) : ByteArray :=
  bytes.extract 0 (files.fitting place 0 bytes.size)

/-- A file at a place can hold all of the bytes. -/
def HasRoom (files : FileSystem) (place : Location) (bytes : ByteArray) : Prop :=
  ∀ limit ∈ files.limits[place]?, bytes.size ≤ limit

/-- Whether there is room for some bytes is found out by looking at the limit. -/
instance (files : FileSystem) (place : Location) (bytes : ByteArray) :
    Decidable (files.HasRoom place bytes) :=
  inferInstanceAs (Decidable (∀ limit ∈ files.limits[place]?, bytes.size ≤ limit))

/-- All bytes fit into an empty file exactly if there is room for them. -/
theorem fitting_eq_iff (files : FileSystem) (place : Location) (bytes : ByteArray) :
    files.fitting place 0 bytes.size = bytes.size ↔ files.HasRoom place bytes := by
  unfold fitting HasRoom
  -- Without a limit there is room for anything.
  cases files.limits[place]? with
  | none => simp
  | some limit =>
    simp only [Nat.sub_zero, Option.mem_some_iff, forall_eq']
    omega

/-- Where there is room for all of the bytes, all of them can be held. -/
theorem HasRoom.holdable_eq {bytes : ByteArray} (room : files.HasRoom place bytes) :
    files.holdable place bytes = bytes := by
  -- The part that fits is all of it.
  rw [holdable, (files.fitting_eq_iff place bytes).mpr room, ByteArray.extract_zero_size]

/-- An empty file takes what it can hold. -/
theorem append_of_empty (there : files.node? place = some (.file .empty)) (bytes : ByteArray) :
    files.append place bytes
      = (bytes.extract (files.fitting place 0 bytes.size) bytes.size,
          files.set place (.file (files.holdable place bytes))) := by
  -- Nothing is held before, so what is held afterwards is what has been taken.
  rw [append_of_file there, ByteArray.empty_append, ByteArray.size_empty, holdable]

/-- An empty file takes all of the bytes exactly if there is room for them. -/
theorem takes_of_empty_iff (there : files.node? place = some (.file .empty)) (bytes : ByteArray) :
    files.Takes place bytes ↔ files.HasRoom place bytes := by
  -- Nothing is left of the bytes exactly if as many fit as there are.
  rw [Takes, append_of_empty there, ByteArray.extract_eq_empty_iff, Nat.min_self,
    ← fitting_eq_iff]
  exact ⟨Nat.le_antisymm (files.fitting_le place 0 bytes.size), Nat.le_of_eq ∘ Eq.symm⟩

section Replacing

variable {opened emptied : FileSystem} {path : String}

end Replacing

end FileSystem

namespace Output

/-- Too many of the bytes are left for a newly opened output to keep them waiting. -/
def RefusesAtOnce (bytes left : ByteArray) : Prop :=
  chunkSize ≤ bytes.size ∧ blockSize < left.size

/-- Whether bytes are refused at once is found out from their number and how many are left. -/
instance : DecidableRel RefusesAtOnce :=
  fun bytes left => inferInstanceAs (Decidable (chunkSize ≤ bytes.size ∧ blockSize < left.size))

variable {files : FileSystem} {place : Location} {bytes : ByteArray}

/-- An output that takes all of the bytes refuses none of them. -/
theorem not_refusesAtOnce (taken : files.Takes place bytes) :
    ¬ RefusesAtOnce bytes (files.append place bytes).1 := by
  rw [show (files.append place bytes).1 = .empty from taken]
  -- No bytes are left, and that is not too many to keep waiting.
  exact fun refuses => absurd refuses.2 (Nat.not_lt_zero _)

/-- An output that refuses bytes at once cannot be written to, but the file has taken what fits. -/
theorem write_of_refusesAtOnce (refuses : RefusesAtOnce bytes (files.append place bytes).1) :
    write ⟨place, .empty⟩ bytes files = (none, (files.append place bytes).2) := by
  obtain ⟨long, rest⟩ := refuses
  -- The bytes are too many to wait, and so are those that are left.
  simp only [write, ByteArray.empty_append, if_neg (Nat.not_lt.mpr long),
    if_neg (Nat.not_le.mpr rest)]

/-- An output that is written to and closed is found at the end to have taken all bytes, or not. -/
theorem close_of_write (accepts : ¬ RefusesAtOnce bytes (files.append place bytes).1) :
    ∃ output between, write ⟨place, .empty⟩ bytes files = (some output, between) ∧
      close output between
        = ((files.append place bytes).1.isEmpty, (files.append place bytes).2) := by
  by_cases short : bytes.size < chunkSize
  · -- All of the bytes wait until the output is closed.
    refine ⟨⟨place, bytes⟩, files, ?_, rfl⟩
    simp only [write, ByteArray.empty_append, if_pos short]
  · -- The file has taken what fits, and nothing of the rest fits when it is tried again.
    have rest : (files.append place bytes).1.size ≤ blockSize :=
      Nat.not_lt.mp fun more => accepts ⟨Nat.not_lt.mp short, more⟩
    refine ⟨⟨place, (files.append place bytes).1⟩, (files.append place bytes).2, ?_, ?_⟩
    · simp only [write, ByteArray.empty_append, if_neg short, if_pos rest]
    · simp only [close, FileSystem.append_again]

end Output

end Pseudocode
