import RamlExpress.Proofs.FileSystem
import RamlExpress.Proofs.FileSystem.Path

/-!
# Proofs/FileSystem/Frame — a file that is written disturbs nothing else

A path names one location, whatever stands on the way to it (`placeOf`).  Making directories puts
some where nothing stood, at locations named by fronts of the path (`AddsDirectories`), also where
it stops halfway; only then the file is written, at the location that its own path names.

* `addsDirectories_makeInnermost` — what is left when directories are made, or are not.
* `save_disturbs_nothing` — what is left when a file is written, or is not.
-/

namespace RamlExpress.FileSystem

/-! ## The locations that paths name -/

/-- **Where pieces lead from a location**, whatever stands on the way: two dots lead up, and any
other piece that is not idle leads down. -/
def destination : Location → List String → Location
  | place, [] => place
  | place, piece :: rest =>
    if Path.isIdle piece then destination place rest
    else if piece = ".." then destination place.dropLast rest
    else destination (place ++ [piece]) rest

/-- **The location that a path names.** -/
def placeOf (files : FileSystem) (path : String) : Location :=
  destination (files.start path) (Path.pieces path)

variable {files after : FileSystem} {start place : Location} {piece path : String}

theorem destination_idle (h : Path.isIdle piece = true) (rest : List String) :
    destination start (piece :: rest) = destination start rest := by
  rw [destination, if_pos h]

theorem destination_name (h : IsName piece) (rest : List String) :
    destination start (piece :: rest) = destination (start ++ [piece]) rest := by
  rw [destination, if_neg (by simp [h.not_idle]), if_neg h.ne_up]

/-- A way through directories leads where its pieces do. -/
theorem Leads.destination_append {front : List String} (h : Leads files start front place)
    (back : List String) : destination start (front ++ back) = destination place back := by
  induction h with
  | here => rfl
  | idle hidle _ ih => rw [List.cons_append, destination_idle hidle, ih]
  | up _ ih => rw [List.cons_append, destination, if_neg (by decide), if_pos rfl, ih]
  | down hname _ _ ih => rw [List.cons_append, destination_name hname, ih]

theorem destination_of_idle {pieces : List String}
    (h : ∀ piece ∈ pieces, Path.isIdle piece = true) : destination start pieces = start := by
  induction pieces with
  | nil => rfl
  | cons piece rest ih =>
    obtain ⟨hpiece, hrest⟩ := List.forall_mem_cons.1 h
    rw [destination_idle hpiece, ih hrest]

/-- Only the steps of a path lead anywhere. -/
theorem destination_filter (start : Location) (pieces : List String) :
    destination start (pieces.filter fun piece => !Path.isIdle piece)
      = destination start pieces := by
  induction pieces generalizing start with
  | nil => rfl
  | cons piece rest ih =>
    cases hidle : Path.isIdle piece with
    | true => rw [List.filter_cons_of_neg (by simp [hidle]), destination_idle hidle, ih]
    | false =>
      rw [List.filter_cons_of_pos (by simp [hidle]), destination, destination]
      simp only [hidle, ih]

/-! ## New directories -/

/-- **What stood still stands**, and all that is new are directories at the given locations. -/
structure AddsDirectories (places : Location → Prop) (files after : FileSystem) : Prop where
  current_eq : after.current = files.current
  kept : ∀ location entry, files.entry? location = some entry → after.entry? location = some entry
  added : ∀ location entry, files.entry? location = none → after.entry? location = some entry →
    entry = .directory ∧ places location

namespace AddsDirectories

variable {places places' : Location → Prop} {made : FileSystem}

theorem refl (places : Location → Prop) (files : FileSystem) :
    AddsDirectories places files files where
  current_eq := rfl
  kept _ _ h := h
  added _ _ hnone hsome := by
    rw [hnone] at hsome
    contradiction

theorem mono (h : AddsDirectories places files after)
    (hplaces : ∀ location, places location → places' location) :
    AddsDirectories places' files after where
  current_eq := h.current_eq
  kept := h.kept
  added location entry hnone hsome :=
    (h.added location entry hnone hsome).imp_right (hplaces location)

theorem trans (h : AddsDirectories places files made) (h' : AddsDirectories places made after) :
    AddsDirectories places files after where
  current_eq := h'.current_eq.trans h.current_eq
  kept location entry hentry := h'.kept location entry (h.kept location entry hentry)
  added location entry hnone hsome := by
    cases hmade : made.entry? location with
    | none => exact h'.added location entry hmade hsome
    | some between =>
      obtain rfl := Option.some.inj ((h'.kept location between hmade).symm.trans hsome)
      exact h.added location between hnone hmade

theorem placeOf_eq (h : AddsDirectories places files after) (path : String) :
    after.placeOf path = files.placeOf path := by
  rw [placeOf, placeOf, FileSystem.start, FileSystem.start, h.current_eq]

end AddsDirectories

/-! ## Making directories -/

/-- A target is the location that its path names. -/
theorem placeOf_of_target? {target : Target} (h : files.target? path = .ok (some target))
    (hnew : target.isNew = true) : files.placeOf path = target.location := by
  obtain ⟨-, outer, slashes, hpieces, hne, hslashes, -, hleads⟩ := exists_of_target? h
  obtain ⟨hdot, hup⟩ : target.name ≠ "." ∧ target.name ≠ ".." := by simpa [Target.isNew] using hnew
  have hidle : ∀ piece ∈ slashes, Path.isIdle piece = true := by
    intro piece hpiece
    rw [hslashes piece hpiece]
    rfl
  rw [placeOf, hpieces, hleads.destination_append, destination,
    if_neg (by simp [Path.isIdle, hne, hdot]), if_neg hup, destination_of_idle hidle]
  rfl

/-- **A directory that is made** stands where nothing stood, at the location that its path names. -/
theorem exists_of_makeDirectory (h : files.makeDirectory path = .ok after) :
    files.placeOf path ≠ [] ∧ files.entry? (files.placeOf path) = none
      ∧ after = files.put (files.placeOf path) .directory := by
  rw [makeDirectory, bind_eq_ok_iff] at h
  obtain ⟨target?, htarget, h⟩ := h
  cases target? with
  | none => cases h
  | some target =>
    simp only at h
    split at h
    · cases h
    · split at h
      · cases h
      · split at h
        · cases h
        · rename_i hnew _ hentry
          rw [placeOf_of_target? htarget (by simpa using hnew)]
          exact ⟨List.concat_ne_nil _ _, by simpa using hentry, (Except.ok.inj h).symm⟩

theorem addsDirectories_makeDirectory (h : files.makeDirectory path = .ok after) :
    AddsDirectories (· = files.placeOf path) files after := by
  obtain ⟨hroot, hentry, rfl⟩ := exists_of_makeDirectory h
  refine ⟨rfl, fun location entry hlocation => ?_, fun location entry hnone hsome => ?_⟩
  · have hne : location ≠ files.placeOf path := by
      rintro rfl
      rw [hentry] at hlocation
      contradiction
    rw [entry?_put hroot, if_neg hne, hlocation]
  · rw [entry?_put hroot] at hsome
    split at hsome
    · rename_i hplace
      exact ⟨(Option.some.inj hsome).symm, hplace⟩
    · rw [hnone] at hsome
      contradiction

/-- A location that one of some paths names. -/
def NamedBy (files : FileSystem) (paths : List String) (location : Location) : Prop :=
  ∃ path ∈ paths, location = files.placeOf path

/-- What is made last, behind the paths above it. -/
theorem AddsDirectories.cons {made : FileSystem} {outer : List String}
    (h : AddsDirectories (files.NamedBy outer) files made)
    (hmake : made.makeDirectory path = .ok after) :
    AddsDirectories (files.NamedBy (path :: outer)) files after := by
  have hlast := addsDirectories_makeDirectory hmake
  rw [h.placeOf_eq path] at hlast
  refine (h.mono fun location hlocation => ?_).trans (hlast.mono fun location hlocation => ?_)
  · obtain ⟨other, hother, hplace⟩ := hlocation
    exact ⟨other, List.mem_cons_of_mem _ hother, hplace⟩
  · exact ⟨path, List.mem_cons_self, hlocation⟩

/-- **Directories are made at the locations of the given paths**, and nowhere else, also if that
stops halfway. -/
theorem addsDirectories_makeInnermost (paths : List String) (files : FileSystem) :
    AddsDirectories (files.NamedBy paths) files (makeInnermost paths files).1 := by
  induction paths with
  | nil => exact .refl _ _
  | cons path outer ih =>
    have hwider {made : FileSystem} (h : AddsDirectories (files.NamedBy outer) files made) :
        AddsDirectories (files.NamedBy (path :: outer)) files made :=
      h.mono fun location ⟨other, hother, hplace⟩ => ⟨other, List.mem_cons_of_mem _ hother, hplace⟩
    rw [makeInnermost]
    split
    · rename_i after hmake
      exact AddsDirectories.cons (.refl _ _) hmake
    · cases houter : makeInnermost outer files with
      | mk made fault =>
        rw [houter] at ih
        cases fault with
        | some fault => exact hwider ih
        | none =>
          simp only
          split
          · rename_i after hmake
            exact ih.cons hmake
          · exact hwider ih
    · exact .refl _ _

/-! ## Writing a file -/

/-- **A location that a front of the parent of a path names.** -/
def InParent (files : FileSystem) (path : String) (location : Location) : Prop :=
  ∃ parent front, Path.parent? path = some parent ∧ front <+: Path.pieces parent
    ∧ location = destination (files.start path) front

theorem inParent_of_mem_ancestors {parent above : String}
    (hparent : Path.parent? path = some parent) (h : above ∈ Path.ancestors parent) :
    files.InParent path (files.placeOf above) := by
  obtain ⟨⟨others, hsteps⟩, habsolute⟩ := Path.steps_of_mem_ancestorsFrom h
  obtain ⟨front, back, hpieces, hfront, -⟩ := List.filter_eq_append_iff.1 hsteps.symm
  refine ⟨parent, front, hparent, ⟨back, hpieces.symm⟩, ?_⟩
  rw [placeOf, start, start, habsolute, Path.isAbsolute_of_parent? hparent, ← destination_filter,
    ← destination_filter _ front, hfront]
  rfl

/-- What is left when the parent of a path is made. -/
theorem addsDirectories_makeParent (files : FileSystem) (path : String) :
    AddsDirectories (files.InParent path) files (files.makeParent path).1 := by
  rw [makeParent]
  split
  · exact .refl _ _
  · rename_i parent hparent
    split
    · exact .refl _ _
    · refine (addsDirectories_makeInnermost (Path.ancestors parent) files).mono ?_
      rintro location ⟨above, habove, rfl⟩
      exact inParent_of_mem_ancestors hparent habove

theorem placeOf_of_writeText {text : String} (h : files.writeText path text = .ok after) :
    files.placeOf path ≠ [] ∧ files.entry? (files.placeOf path) ≠ some .directory
      ∧ after = files.put (files.placeOf path) (.file (.text text)) := by
  obtain ⟨-, outer, name, directory, hpieces, hname, hleads, hentry, rfl⟩ := exists_of_writeText h
  have hplace : files.placeOf path = directory ++ [name] := by
    rw [placeOf, hpieces, hleads.destination_append, destination_name hname, destination]
  rw [hplace]
  exact ⟨List.concat_ne_nil _ _, hentry, rfl⟩

/-- **A file that is written disturbs nothing else.**  If the write succeeds, the path is read as
the text, all that stood elsewhere still stands, what the text replaced was no directory, and all
that is new is the file and directories that fronts of its parent name.  If it fails, all that stood
still stands, and all that is new are such directories. -/
theorem save_disturbs_nothing (files : FileSystem) (path text : String) :
    ((files.save path text).fault = none →
      (files.save path text).files.readText path = .ok text
      ∧ (∀ location entry, location ≠ files.placeOf path → files.entry? location = some entry →
        (files.save path text).files.entry? location = some entry)
      ∧ files.entry? (files.placeOf path) ≠ some .directory
      ∧ (files.save path text).files.entry? (files.placeOf path) = some (.file (.text text))
      ∧ ∀ location entry, files.entry? location = none →
        (files.save path text).files.entry? location = some entry →
        location = files.placeOf path ∨ entry = .directory ∧ files.InParent path location)
    ∧ ((files.save path text).fault ≠ none →
      (∀ location entry, files.entry? location = some entry →
        (files.save path text).files.entry? location = some entry)
      ∧ ∀ location entry, files.entry? location = none →
        (files.save path text).files.entry? location = some entry →
        entry = .directory ∧ files.InParent path location) := by
  have hparent := files.addsDirectories_makeParent path
  obtain ⟨hsaved, made, hmade, hwrite⟩ | ⟨hfault, hfiles⟩ := files.save_cases path text
  · rw [hmade] at hparent
    obtain ⟨hroot, hentry, hfiles⟩ := placeOf_of_writeText hwrite
    rw [hparent.placeOf_eq path] at hroot hentry hfiles
    refine ⟨fun _ => ⟨readText_save hsaved, ?_,
      fun hdirectory => hentry (hparent.kept _ _ hdirectory), ?_, ?_⟩, absurd hsaved⟩
    · intro location entry hne hlocation
      rw [hfiles, entry?_put hroot, if_neg hne]
      exact hparent.kept location entry hlocation
    · rw [hfiles, entry?_put hroot, if_pos rfl]
    · intro location entry hnone hsome
      rw [hfiles, entry?_put hroot] at hsome
      split at hsome
      · exact .inl ‹_›
      · exact .inr (hparent.added location entry hnone hsome)
  · rw [hfiles]
    exact ⟨fun hsaved => absurd hsaved hfault, fun _ => ⟨hparent.kept, hparent.added⟩⟩

/-- A directory with a file in it. -/
def drawer : FileSystem :=
  { entries := [(["notes"], .directory), (["notes", "old"], .file (.text "old"))] }

/-- A write by way of a directory that is left again, and one that stops when a directory was
made. -/
theorem save_disturbs_nothing_drawer :
    ((drawer.save "tmp/.././new/note" "text").fault = none
      ∧ (drawer.save "tmp/.././new/note" "text").files.readText "tmp/.././new/note" = .ok "text"
      ∧ (drawer.save "tmp/.././new/note" "text").files.entry? ["notes", "old"]
        = some (.file (.text "old"))
      ∧ drawer.InParent "tmp/.././new/note" ["new"])
    ∧ (drawer.save "made/../notes/old/note" "text").fault ≠ none
      ∧ (drawer.save "made/../notes/old/note" "text").files.entry? ["notes", "old"]
        = some (.file (.text "old"))
      ∧ drawer.InParent "made/../notes/old/note" ["made"] := by
  have hsaved : (drawer.save "tmp/.././new/note" "text").fault = none := by decide +kernel
  have hfault : (drawer.save "made/../notes/old/note" "text").fault ≠ none := by decide +kernel
  obtain ⟨hread, hkept, -, -, hadded⟩ :=
    (save_disturbs_nothing drawer "tmp/.././new/note" "text").1 hsaved
  obtain ⟨hkept', hadded'⟩ :=
    (save_disturbs_nothing drawer "made/../notes/old/note" "text").2 hfault
  refine ⟨⟨hsaved, hread, hkept _ _ (by decide +kernel) (by decide +kernel), ?_⟩, hfault,
    hkept' _ _ (by decide +kernel), ?_⟩
  · exact ((hadded ["new"] .directory (by decide +kernel) (by decide +kernel)).resolve_left
      (by decide +kernel)).2
  · exact (hadded' ["made"] .directory (by decide +kernel) (by decide +kernel)).2

end RamlExpress.FileSystem
