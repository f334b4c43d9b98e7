import RamlExpress.FileSystem.Save
import RamlExpress.Proofs.Log

/-!
# Proofs/FileSystem — a file that was written is read back

A path is written to by way of the directories that lead to its last piece (`Leads`).  The write
puts a file behind them and takes away none of them (`KeepsDirectories`), so the same path leads to
the file afterwards.

* `FileSystem.exists_of_writeText` — what a write that succeeds found and did.
* `FileSystem.readText_save` — the text that was saved at a path is the one read there.
-/

namespace RamlExpress.FileSystem

/-! ## Tables of entries -/

/-- **What is put at a location stands there**, and all else as before.  The root is a directory
whatever is put there. -/
theorem entry?_put {location : Location} (h : location ≠ []) (files : FileSystem) (entry : Entry)
    (other : Location) :
    entry? (files.put location entry) other
      = if other = location then some entry else files.entry? other := by
  simp only [put, entry?, lookup_putEntry]
  by_cases hroot : other = []
  · simp [hroot, h.symm]
  · simp [hroot]

/-! ## Ways through directories -/

/-- **A piece that names something in a directory.** -/
structure IsName (piece : String) : Prop where
  not_idle : Path.isIdle piece = false
  ne_up : piece ≠ ".."
  fits : piece.utf8ByteSize ≤ maxNameBytes

/-- **Pieces that lead from one directory to another**, through directories only. -/
inductive Leads (files : FileSystem) : Location → List String → Location → Prop
  | here {place : Location} : Leads files place [] place
  | idle {piece : String} {rest : List String} {start place : Location} :
    Path.isIdle piece = true → Leads files start rest place →
      Leads files start (piece :: rest) place
  | up {rest : List String} {start place : Location} :
    Leads files start.dropLast rest place → Leads files start (".." :: rest) place
  | down {piece : String} {rest : List String} {start place : Location} :
    IsName piece → files.entry? (start ++ [piece]) = some .directory →
      Leads files (start ++ [piece]) rest place → Leads files start (piece :: rest) place

variable {files after : FileSystem} {start place : Location} {piece : String}

theorem follow_idle (h : Path.isIdle piece = true) (rest : List String) :
    files.follow start (piece :: rest) = files.follow start rest := by
  rw [follow, if_pos h]

theorem follow_up (rest : List String) :
    files.follow start (".." :: rest) = files.follow start.dropLast rest := by
  rw [follow, if_neg (by decide), if_pos rfl]

theorem follow_directory (h : IsName piece)
    (hentry : files.entry? (start ++ [piece]) = some .directory) (rest : List String) :
    files.follow start (piece :: rest) = files.follow (start ++ [piece]) rest := by
  rw [follow, if_neg (by simp [h.not_idle]), if_neg h.ne_up, if_neg (Nat.not_lt.2 h.fits)]
  simp only [hentry]

theorem follow_file (h : IsName piece) {content : Content}
    (hentry : files.entry? (start ++ [piece]) = some (.file content)) :
    files.follow start [piece] = .ok (start ++ [piece], .file content) := by
  rw [follow, if_neg (by simp [h.not_idle]), if_neg h.ne_up, if_neg (Nat.not_lt.2 h.fits)]
  simp only [hentry]
  rfl

/-- What stands behind a way is found by going the way first. -/
theorem Leads.follow_append {front : List String} (h : Leads files start front place)
    (back : List String) : files.follow start (front ++ back) = files.follow place back := by
  induction h with
  | here => rfl
  | idle hidle _ ih => rw [List.cons_append, follow_idle hidle, ih]
  | up _ ih => rw [List.cons_append, follow_up, ih]
  | down hname hentry _ ih => rw [List.cons_append, follow_directory hname hentry, ih]

theorem leads_of_follow {pieces : List String}
    (h : files.follow start pieces = .ok (place, .directory)) : Leads files start pieces place := by
  induction pieces generalizing start with
  | nil =>
    obtain ⟨rfl, -⟩ := Prod.mk.inj (Except.ok.inj h)
    exact .here
  | cons piece rest ih =>
    rw [follow] at h
    split at h
    · rename_i hidle
      exact .idle hidle (ih h)
    · split at h
      · rename_i _ hup
        exact hup ▸ .up (ih h)
      · split at h
        · contradiction
        · rename_i hidle hup hfits
          cases hentry : files.entry? (start ++ [piece]) with
          | none => simp [hentry] at h
          | some entry =>
            cases entry with
            | directory =>
              simp only [hentry] at h
              exact .down ⟨by simpa using hidle, hup, Nat.not_lt.1 hfits⟩ hentry (ih h)
            | file content =>
              simp only [hentry] at h
              split at h <;> cases h

/-- A file that pieces lead to stands where they end. -/
theorem entry?_of_follow {pieces : List String} {content : Content}
    (h : files.follow start pieces = .ok (place, .file content)) :
    files.entry? place = some (.file content) := by
  induction pieces generalizing start with
  | nil => cases h
  | cons piece rest ih =>
    rw [follow] at h
    split at h
    · exact ih h
    · split at h
      · exact ih h
      · split at h
        · contradiction
        · cases hentry : files.entry? (start ++ [piece]) with
          | none => simp [hentry] at h
          | some entry =>
            cases entry with
            | directory =>
              simp only [hentry] at h
              exact ih h
            | file other =>
              simp only [hentry] at h
              split at h
              · cases h
                exact hentry
              · contradiction

/-- What is read stands somewhere. -/
theorem mem_entries_of_readText {path text : String} (h : files.readText path = .ok text) :
    Entry.file (.text text) ∈ files.entries.map Prod.snd := by
  obtain ⟨⟨place, entry⟩, hfind, hread⟩ := bind_eq_ok_iff.1 h
  obtain rfl : entry = .file (.text text) := by
    cases entry with
    | directory => cases hread
    | file content =>
      cases content with
      | octets value => cases hread
      | text value => rw [Except.ok.inj hread]
  have hentry : files.entry? place = some (.file (.text text)) := by
    rw [find] at hfind
    split at hfind
    · contradiction
    · exact entry?_of_follow hfind
  unfold entry? at hentry
  split at hentry
  · cases hentry
  · obtain ⟨before, after, hsplit, -⟩ := List.lookup_eq_some_iff.1 hentry
    rw [hsplit]
    simp

/-- **Every directory is still one.** -/
def KeepsDirectories (files after : FileSystem) : Prop :=
  ∀ location, files.entry? location = some .directory → after.entry? location = some .directory

theorem keepsDirectories_put {location : Location} (hroot : location ≠ [])
    (h : files.entry? location ≠ some .directory) (entry : Entry) :
    KeepsDirectories files (files.put location entry) := by
  intro other hother
  have hne : other ≠ location := fun heq => h (heq ▸ hother)
  rw [entry?_put hroot, if_neg hne, hother]

/-- A way through directories stays one as long as they are directories. -/
theorem Leads.of_keepsDirectories {pieces : List String} (h : Leads files start pieces place)
    (hkeeps : KeepsDirectories files after) : Leads after start pieces place := by
  induction h with
  | here => exact .here
  | idle hidle _ ih => exact .idle hidle ih
  | up _ ih => exact .up ih
  | down hname hentry _ ih => exact .down hname (hkeeps _ hentry) ih

/-! ## Writing and reading -/

theorem exists_of_dropWhile {α : Type} {p : α → Bool} {items rest : List α} {first : α}
    (h : items.dropWhile p = first :: rest) :
    ∃ dropped, items = dropped ++ first :: rest ∧ (∀ item ∈ dropped, p item = true)
      ∧ p first = false := by
  refine ⟨items.takeWhile p, ?_, List.all_eq_true.1 List.all_takeWhile, ?_⟩
  · rw [← h, List.takeWhile_append_dropWhile]
  · have hhead := List.head?_dropWhile_not p items
    simpa [h] using hhead

/-- **The place that a path names**: the name is its last piece that is not empty, and the pieces in
front of it lead to the directory. -/
theorem exists_of_target? {path : String} {target : Target}
    (h : files.target? path = .ok (some target)) :
    pathFault? path = none ∧ ∃ outer slashes, Path.pieces path = outer ++ target.name :: slashes
      ∧ target.name ≠ "" ∧ (∀ piece ∈ slashes, piece = "") ∧ (target.slash = false → slashes = [])
      ∧ Leads files (files.start path) outer target.directory := by
  rw [target?] at h
  cases hfault : pathFault? path with
  | some fault =>
    simp only [hfault] at h
    cases h
  | none =>
    simp only [hfault] at h
    cases hrest : (Path.pieces path).reverse.dropWhile (· = "") with
    | nil => simp [hrest, pure, Except.pure] at h
    | cons name outer =>
      simp only [hrest, bind_eq_ok_iff] at h
      obtain ⟨⟨directory, entry⟩, hfollow, h⟩ := h
      cases entry with
      | file content => cases h
      | directory =>
        obtain rfl := Option.some.inj (Except.ok.inj h)
        obtain ⟨slashes, hreverse, hslashes, hname⟩ := exists_of_dropWhile hrest
        refine ⟨rfl, outer.reverse, slashes.reverse, ?_, by simpa using hname,
          by simpa using hslashes, fun hslash => ?_, leads_of_follow hfollow⟩
        · rw [← List.reverse_reverse (Path.pieces path), hreverse]
          simp
        · cases slashes with
          | nil => rfl
          | cons slash rest =>
            have hempty : slash = "" := by simpa using hslashes slash List.mem_cons_self
            simp [hreverse, hempty] at hslash

/-- **A write that succeeds** found a way to the directory of the path and a name behind it that is
no directory, and put the file there. -/
theorem exists_of_writeText {path text : String} (h : files.writeText path text = .ok after) :
    pathFault? path = none ∧ ∃ outer name directory, Path.pieces path = outer ++ [name]
      ∧ IsName name ∧ Leads files (files.start path) outer directory
      ∧ files.entry? (directory ++ [name]) ≠ some .directory
      ∧ after = files.put (directory ++ [name]) (.file (.text text)) := by
  rw [writeText, bind_eq_ok_iff] at h
  obtain ⟨target?, htarget, h⟩ := h
  cases target? with
  | none => cases h
  | some target =>
    obtain ⟨hpath, outer, slashes, hpieces, hne, -, hslash, hleads⟩ := exists_of_target? htarget
    simp only at h
    split at h
    · cases h
    · split at h
      · cases h
      · split at h
        · cases h
        · rename_i hnew hfits hentry
          obtain ⟨⟨hdot, hup⟩, hfile⟩ :
              (target.name ≠ "." ∧ target.name ≠ "..") ∧ target.slash = false := by
            simpa [Target.isNew] using hnew
          obtain rfl := hslash hfile
          have hname : IsName target.name :=
            ⟨by simp [Path.isIdle, hne, hdot], hup, Nat.not_lt.1 hfits⟩
          exact ⟨hpath, outer, target.name, target.directory, hpieces, hname, hleads, hentry,
            (Except.ok.inj h).symm⟩

/-- **The text that was written at a path is the one read there.** -/
theorem readText_writeText {path text : String} (h : files.writeText path text = .ok after) :
    after.readText path = .ok text := by
  obtain ⟨hpath, outer, name, directory, hpieces, hname, hleads, hentry, rfl⟩ :=
    exists_of_writeText h
  have hroot : directory ++ [name] ≠ [] := List.concat_ne_nil _ _
  have hleads' := hleads.of_keepsDirectories
    (keepsDirectories_put hroot hentry (.file (.text text)))
  have hfound : entry? (files.put (directory ++ [name]) (.file (.text text))) (directory ++ [name])
      = some (.file (.text text)) := by
    rw [entry?_put hroot, if_pos rfl]
  have hfind : (files.put (directory ++ [name]) (.file (.text text))).find path
      = .ok (directory ++ [name], .file (.text text)) := by
    rw [find, hpath, hpieces]
    exact (hleads'.follow_append [name]).trans (follow_file hname hfound)
  rw [readText, hfind]
  rfl

/-- **A file is saved or it is not**: its parent is made and it is written, or only what was made of
its parent is left. -/
theorem save_cases (files : FileSystem) (path text : String) :
    ((files.save path text).fault = none ∧ ∃ made, files.makeParent path = (made, none)
      ∧ made.writeText path text = .ok (files.save path text).files)
    ∨ (files.save path text).fault ≠ none
      ∧ (files.save path text).files = (files.makeParent path).1 := by
  rw [save]
  cases hparent : files.makeParent path with
  | mk made fault =>
    cases fault with
    | some fault => exact .inr ⟨by simp, rfl⟩
    | none =>
      simp only
      cases hwrite : made.writeText path text with
      | error fault => exact .inr ⟨by simp, rfl⟩
      | ok after => exact .inl ⟨rfl, made, rfl, hwrite⟩

/-- What is saved is read back, also where directories had to be made for it. -/
theorem readText_save {path text : String} (h : (files.save path text).fault = none) :
    (files.save path text).files.readText path = .ok text := by
  obtain ⟨-, made, -, hwrite⟩ | ⟨hfault, -⟩ := files.save_cases path text
  · exact readText_writeText hwrite
  · exact absurd h hfault

end RamlExpress.FileSystem
