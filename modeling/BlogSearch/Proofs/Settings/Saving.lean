import BlogSearch.Proofs.Settings.Disk
import BlogSearch.Proofs.Settings.Reading

/-!
# A save is all or nothing

Whatever has happened to the disk, a save that succeeds leaves the whole new text in the file, and one
that fails leaves the disk as it was.  Neither leaves a temporary file behind.
-/

namespace BlogSearch

open Json

/-- What can happen to the disk: the file is written or deleted by other means, something comes in its
way, or preferences are saved. -/
inductive DiskEvent where
  | write (bytes : List UInt8)
  | delete
  | blockHome
  | blockDirectory
  | blockFile
  | save (render : Option Renderer) (sort : Option SortOrder)
  deriving DecidableEq

namespace Disk

def after (d : Disk) : DiskEvent → Disk
  | .write bytes => d.write bytes
  | .delete => d.delete
  | .blockHome => d.blockHome
  | .blockDirectory => d.blockDirectory
  | .blockFile => d.blockFile
  | .save render sort => (Preferences.save d render sort).1

def afterAll (d : Disk) (events : List DiskEvent) : Disk :=
  events.foldl after d

variable {d : Disk}

theorem Tidy.after (h : d.Tidy) (event : DiskEvent) : (d.after event).Tidy := by
  cases event with
  | write bytes => exact h.write bytes
  | delete => exact h.delete
  | blockHome => exact tidy_blockHome d
  | blockDirectory => exact tidy_blockDirectory d
  | blockFile => exact h.blockFile
  | save render sort => exact h.replaceFile _

theorem Tidy.afterAll (h : d.Tidy) (events : List DiskEvent) : (d.afterAll events).Tidy := by
  induction events generalizing d with
  | nil => exact h
  | cons event rest ih => exact ih (h.after event)

end Disk

namespace Preferences

/-- What a save makes of a disk. -/
structure SavesWhole
    (d : Disk) (render : Option Renderer) (sort : Option SortOrder)
    (after : Disk × Except ClientError Unit) : Prop where
  /-- The save succeeds unless something is in its way. -/
  succeeds_iff : after.2 = .ok () ↔ d.Writable
  /-- Then the file holds each preference that was given, or else the one that it held before, and
  beside them what else it held before, laid out, and ends a line. -/
  saved : after.2 = .ok () → ∃ old, OnDisk d old ∧
    after.1.read? = some (Text.Utf8.encode
      ((Value.object
        (Value.optionalMember "render" Renderer.json (render.or old.render) ++
          Value.optionalMember "sort" SortOrder.json (sort.or old.sort) ++
            old.extra)).pretty ++ "\n"))
  /-- A save that fails changes nothing. -/
  failed : ∀ cause, after.2 = .error cause → after.1 = d
  /-- No temporary file is left. -/
  swept : Disk.temporaryName ∉ after.1.listing

theorem savesWhole
    {d : Disk} (htidy : d.Tidy) (render : Option Renderer) (sort : Option SortOrder) :
    SavesWhole d render sort (save d render sort) := by
  let text := ((load d).prefer render sort).fileText
  have hiff : (save d render sort).2 = .ok () ↔ d.Writable :=
    d.replaceFile_eq_ok_iff (Text.Utf8.encode text)
  refine ⟨hiff, ?_, ?_, (htidy.replaceFile _).notMem_listing⟩
  · intro hok
    have hwritable := hiff.mp hok
    refine ⟨load d, onDisk_load d, ?_⟩
    rw [save, Disk.replaceFile_of_writable _ hwritable]
    exact Disk.read?_replaced _ hwritable
  · intro cause hcause
    have hblocked : ¬d.Writable := by
      rw [← hiff, hcause]
      exact nofun
    obtain ⟨-, -, hsame⟩ := d.replaceFile_of_not_writable (Text.Utf8.encode text) hblocked
    exact hsame htidy

end Preferences

end BlogSearch
