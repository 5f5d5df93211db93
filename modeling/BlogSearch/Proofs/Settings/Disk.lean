import BlogSearch.Settings.Disk

/-!
# Replacing the file

Where nothing is in the way, replacing the file succeeds, leaves exactly the new bytes and no temporary
file, and leaves the way clear for the next time.  Where something is in the way it fails and leaves the
disk as it was.  Nothing else that happens to the disk makes a temporary file.
-/

namespace BlogSearch.Disk

/-- Nothing is in the way of a write: the parent of the directory is no plain file, the directory is
none, and there is no directory in the place of the file. -/
def Writable (d : Disk) : Prop :=
  d.homeIsFile = false ∧
    (d.place = .absent ∨ ∃ content, d.place = .directory content ∧ content.file ≠ .directory)

/-- The disk after the file was replaced. -/
def replaced (d : Disk) (bytes : List UInt8) : Disk :=
  d.withDirectory ⟨.bytes bytes, none⟩

variable {d : Disk} (bytes : List UInt8)

theorem moveTemporary_of_ne_directory {place : FilePlace} (h : place ≠ .directory) :
    moveTemporary ⟨place, some bytes⟩ = some ⟨.bytes bytes, none⟩ := by
  cases place with
  | directory => exact absurd rfl h
  | _ => rfl

theorem replaceFile_of_writable (h : d.Writable) :
    d.replaceFile bytes = (d.replaced bytes, .ok ()) := by
  obtain ⟨home, homeIsFile, place⟩ := d
  obtain ⟨rfl, rfl | ⟨content, rfl, hfile⟩⟩ := h
  · rfl
  · have hmoved := moveTemporary_of_ne_directory bytes hfile
    simp [replaceFile, makeDirectory, hmoved, replaced, withDirectory]

theorem Writable.replaced (h : d.Writable) : (d.replaced bytes).Writable :=
  ⟨h.1, Or.inr ⟨⟨.bytes bytes, none⟩, rfl, nofun⟩⟩

theorem read?_replaced (h : d.Writable) : (d.replaced bytes).read? = some bytes := by
  obtain ⟨home, homeIsFile, place⟩ := d
  obtain ⟨rfl, -⟩ := h
  rfl

/-! ## Something in the way -/

/-- There is no temporary file. -/
def Tidy (d : Disk) : Prop :=
  ∀ content, d.place = .directory content → content.temporary = none

/-- Whatever is in the way, replacing the file fails, and at most sweeps away a temporary file. -/
theorem replaceFile_of_not_writable (h : ¬d.Writable) :
    ∃ cause, (d.replaceFile bytes).2 = .error cause ∧ (d.Tidy → (d.replaceFile bytes).1 = d) := by
  obtain ⟨home, _ | _, place⟩ := d
  · rcases place with _ | _ | ⟨file, temporary⟩
    · exact absurd ⟨rfl, Or.inl rfl⟩ h
    · exact ⟨_, rfl, fun _ => rfl⟩
    · by_cases hfile : file = .directory
      · subst hfile
        refine ⟨_, rfl, ?_⟩
        intro htidy
        obtain rfl : temporary = none := htidy _ rfl
        rfl
      · exact absurd ⟨rfl, Or.inr ⟨⟨file, temporary⟩, rfl, hfile⟩⟩ h
  · exact ⟨_, rfl, fun _ => rfl⟩

theorem replaceFile_eq_ok_iff : (d.replaceFile bytes).2 = .ok () ↔ d.Writable := by
  by_cases hwritable : d.Writable
  · simp [replaceFile_of_writable bytes hwritable, hwritable]
  · obtain ⟨cause, hcause, -⟩ := d.replaceFile_of_not_writable bytes hwritable
    simp [hcause, hwritable]

/-! ## Temporary files -/

theorem place_of_directory? {content : Directory} (h : d.directory? = some content) :
    d.place = .directory content := by
  rw [directory?] at h
  split at h
  · next hplace =>
      cases h
      exact hplace
  · cases h

theorem Tidy.notMem_listing (h : d.Tidy) : temporaryName ∉ d.listing := by
  have hname : temporaryName ≠ fileName := by decide
  rcases hdirectory : d.directory? with _ | content
  · simp [listing, hdirectory]
  · have htemporary : content.temporary = none := h content (place_of_directory? hdirectory)
    by_cases hfile : content.file = .absent <;>
      simp [listing, hdirectory, htemporary, hfile, hname]

theorem tidy_fresh (home : String) : (fresh home).Tidy := nofun

theorem tidy_withDirectory {content : Directory} (h : content.temporary = none) :
    (d.withDirectory content).Tidy := by
  rintro _ ⟨⟩
  exact h

/-- A directory that was there or was made holds no temporary file. -/
theorem Tidy.makeDirectory
    (h : d.Tidy) {made : Disk} {content : Directory}
    (hmade : d.makeDirectory = .ok (made, content)) : made.Tidy ∧ content.temporary = none := by
  rw [Disk.makeDirectory] at hmade
  split at hmade
  · cases hmade
  · split at hmade
    · cases hmade
      exact ⟨tidy_withDirectory rfl, rfl⟩
    · cases hmade
    · next hplace =>
        cases hmade
        exact ⟨h, h content hplace⟩

theorem Tidy.replaceFile (h : d.Tidy) : (d.replaceFile bytes).1.Tidy := by
  by_cases hwritable : d.Writable
  · rw [replaceFile_of_writable bytes hwritable]
    exact tidy_withDirectory rfl
  · obtain ⟨-, -, hsame⟩ := d.replaceFile_of_not_writable bytes hwritable
    rwa [hsame h]

theorem Tidy.write (h : d.Tidy) : (d.write bytes).Tidy := by
  rw [Disk.write]
  split
  · next hmade => exact (h.makeDirectory hmade).1
  · next hmade => exact tidy_withDirectory (h.makeDirectory hmade).2
  · exact h

theorem Tidy.delete (h : d.Tidy) : d.delete.Tidy := by
  rw [Disk.delete]
  split
  · next hdirectory =>
      have htemporary := h _ (place_of_directory? hdirectory)
      exact tidy_withDirectory htemporary
  · exact h

theorem tidy_blockHome (d : Disk) : d.blockHome.Tidy := nofun

theorem tidy_blockDirectory (d : Disk) : d.blockDirectory.Tidy := nofun

theorem Tidy.blockFile (h : d.Tidy) : d.blockFile.Tidy := by
  rw [Disk.blockFile]
  split
  · next hmade => exact tidy_withDirectory (h.makeDirectory hmade).2
  · exact h

end BlogSearch.Disk
