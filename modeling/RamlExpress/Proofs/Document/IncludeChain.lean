import Mathlib.Data.Finset.Card
import Mathlib.Data.Finset.Range
import Mathlib.Data.List.Chain
import Mathlib.Order.WellFounded
import RamlExpress.Document.Schema
import RamlExpress.Proofs.FileSystem
import RamlExpress.Proofs.Yaml.Value

/-!
# Proofs/Document/IncludeChain — files that only name other files

    a.raml  ──▸  b.raml  ──▸  c.json

A file may hold nothing but an include of another, and that one again.  The first file then stands
for what the last one stands for.  The bound on includes does not get in the way: a text determines
how many steps are left behind it (`EndsAfter.unique`), so a chain that ends passes through
different texts, and there are no more of them than files.  Only endless chains meet the bound.

* `Origin.EndsAfter.le_length` — a chain that ends is no longer than there are files.
* `Origin.result_resolve_eq_cycle_iff` — the bound is met just on an endless chain.
* `resolve_chain` — the first file of a chain stands for what the last one stands for.
-/

namespace RamlExpress

open Yaml (Value)

namespace Origin

/-- The include of a file. -/
def included (file : String) : Value := .tagged "include" (.string file)

/-- A text that only names another file. -/
structure PassesOn (text next : String) : Prop where
  not_object : looksLikeObject text.toList = false
  includes : ∃ content, Value.parse text = .ok (.tagged "include" content)
    ∧ content.untagged = .string next

/-- **A file leads to another**, both seen from the directory that all includes start from. -/
def LeadsTo (origin : Origin) (file next : String) : Prop :=
  ∃ text, origin.files.readText (Path.join origin.base file) = .ok text ∧ PassesOn text next

/-- **A chain of files ends** after some steps, at a file that leads nowhere else. -/
inductive EndsAfter (origin : Origin) : String → Nat → Prop
  | here {file : String} : (∀ next, ¬origin.LeadsTo file next) → EndsAfter origin file 0
  | step {file next : String} {steps : Nat} : origin.LeadsTo file next →
    EndsAfter origin next steps → EndsAfter origin file (steps + 1)

/-- The line that is logged for a file. -/
def includeLine (origin : Origin) (file : String) : LogLine :=
  ⟨.debug, "Resolving include: " ++ Path.join origin.base file⟩

variable {origin : Origin} {named : NamedSchemas} {file next other text : String} {steps : Nat}

/-! ## Steps that are left -/

theorem PassesOn.unique (h : PassesOn text next) (h' : PassesOn text other) : next = other := by
  obtain ⟨content, hparse, hcontent⟩ := h.includes
  obtain ⟨content', hparse', hcontent'⟩ := h'.includes
  obtain rfl := (Value.tagged.inj (Except.ok.inj (hparse.symm.trans hparse'))).2
  exact Value.string.inj (hcontent.symm.trans hcontent')

theorem LeadsTo.unique (h : origin.LeadsTo file next) (h' : origin.LeadsTo file other) :
    next = other := by
  obtain ⟨text, hread, hpasses⟩ := h
  obtain ⟨text', hread', hpasses'⟩ := h'
  obtain rfl := Except.ok.inj (hread.symm.trans hread')
  exact hpasses.unique hpasses'

theorem EndsAfter.unique (h : origin.EndsAfter file steps) {steps' : Nat}
    (h' : origin.EndsAfter file steps') : steps = steps' := by
  induction h generalizing steps' with
  | here hend =>
    cases h' with
    | here => rfl
    | step hleads _ => exact absurd hleads (hend _)
  | step hleads _ ih =>
    cases h' with
    | here hend => exact absurd hleads (hend _)
    | step hleads' hrest =>
      obtain rfl := hleads.unique hleads'
      rw [ih hrest]

/-- Each number of steps is left behind some text on the way. -/
theorem EndsAfter.exists_text (h : origin.EndsAfter file steps) {left : Nat}
    (hleft : left < steps) :
    ∃ text next, Entry.file (.text text) ∈ origin.files.entries.map Prod.snd
      ∧ PassesOn text next ∧ origin.EndsAfter next left := by
  induction h with
  | here => exact absurd hleft (Nat.not_lt_zero left)
  | step hleads hrest ih =>
    obtain hlt | rfl := Nat.lt_succ_iff_lt_or_eq.1 hleft
    · exact ih hlt
    · obtain ⟨text, hread, hpasses⟩ := hleads
      exact ⟨text, _, FileSystem.mem_entries_of_readText hread, hpasses, hrest⟩

/-- **A chain that ends is no longer than there are files.** -/
theorem EndsAfter.le_length (h : origin.EndsAfter file steps) :
    steps ≤ origin.files.entries.length := by
  have htext : ∀ left : Nat, ∃ text, left < steps →
      Entry.file (.text text) ∈ origin.files.entries.map Prod.snd
        ∧ ∃ next, PassesOn text next ∧ origin.EndsAfter next left := by
    intro left
    by_cases hleft : left < steps
    · obtain ⟨text, next, hmem, hpasses, hends⟩ := h.exists_text hleft
      exact ⟨text, fun _ => ⟨hmem, next, hpasses, hends⟩⟩
    · exact ⟨"", fun hlt => absurd hlt hleft⟩
  choose textAt htextAt using htext
  have hinjective : Set.InjOn (fun left => Entry.file (.text (textAt left)))
      (Finset.range steps) := by
    intro left hleft left' hleft' heq
    obtain ⟨-, next, hpasses, hends⟩ := htextAt left (Finset.mem_range.1 hleft)
    obtain ⟨-, next', hpasses', hends'⟩ := htextAt left' (Finset.mem_range.1 hleft')
    have hsame : textAt left = textAt left' := Content.text.inj (Entry.file.inj heq)
    rw [← hsame] at hpasses'
    obtain rfl := hpasses.unique hpasses'
    exact hends.unique hends'
  calc steps = (Finset.range steps).card := (Finset.card_range steps).symm
    _ ≤ (origin.files.entries.map Prod.snd).toFinset.card :=
      Finset.card_le_card_of_injOn _
        (fun left hleft => List.mem_toFinset.2 (htextAt left (Finset.mem_range.1 hleft)).1)
        hinjective
    _ ≤ (origin.files.entries.map Prod.snd).length := List.toFinset_card_le _
    _ = origin.files.entries.length := List.length_map _

/-- What is not endless ends. -/
theorem exists_endsAfter_of_acc (h : Acc (fun next file => origin.LeadsTo file next) file) :
    ∃ steps, origin.EndsAfter file steps := by
  induction h with
  | intro file _ ih =>
    by_cases hleads : ∃ next, origin.LeadsTo file next
    · obtain ⟨next, hnext⟩ := hleads
      obtain ⟨steps, hsteps⟩ := ih next hnext
      exact ⟨steps + 1, .step hnext hsteps⟩
    · exact ⟨0, .here fun next hnext => hleads ⟨next, hnext⟩⟩

/-- **A chain that has no end goes on forever.** -/
theorem not_endsAfter_iff : (¬∃ steps, origin.EndsAfter file steps) ↔
    ∃ chain : Nat → String, chain 0 = file ∧ ∀ i, origin.LeadsTo (chain i) (chain (i + 1)) := by
  constructor
  · intro hendless
    exact not_acc_iff_exists_descending_chain.1 (mt exists_endsAfter_of_acc hendless)
  · rintro ⟨chain, rfl, hchain⟩ ⟨steps, hends⟩
    -- The steps that are left become fewer from file to file.
    have hleft : ∀ i, ∃ left, origin.EndsAfter (chain i) left ∧ left + i = steps := by
      intro i
      induction i with
      | zero => exact ⟨steps, hends, rfl⟩
      | succ i ih =>
        obtain ⟨left, hleft, hsum⟩ := ih
        cases hleft with
        | here hend => exact absurd (hchain i) (hend _)
        | step hleads hrest =>
          obtain rfl := hleads.unique (hchain i)
          exact ⟨_, hrest, by omega⟩
    obtain ⟨left, -, hsum⟩ := hleft (steps + 1)
    omega

/-! ## Resolving a file -/

theorem resolveWithin_include {content : Value} (h : content.untagged = .string next) (fuel : Nat) :
    origin.resolveWithin named fuel (.tagged "include" content)
      = origin.resolveWithin named fuel (included next) := by
  have htarget : includeTarget content = includeTarget (.string next) := by
    rw [includeTarget, h]
    rfl
  cases fuel <;> simp only [included, resolveWithin, htarget]

/-- What is done with the text of an included file. -/
def ofIncluded (origin : Origin) (named : NamedSchemas) (fuel : Nat) (text : String) :
    Logged (Option String) :=
  if looksLikeObject text.toList then return some text
  else do
    let value ← Logged.of (parse text)
    origin.resolveWithin named fuel value

theorem resolveWithin_included (origin : Origin) (named : NamedSchemas) (fuel : Nat)
    (file : String) :
    origin.resolveWithin named (fuel + 1) (included file) = (do
      Logged.debug (origin.includeLine file).text
      let text ← Logged.of (read origin.files (Path.join origin.base file))
      origin.ofIncluded named fuel text) := by
  simp only [included, resolveWithin, if_true, includeTarget, Value.untagged, Value.string?,
    Logged.of_ok_bind]
  rfl

/-- **A file that leads to another stands for what that one stands for**, at the cost of one
include. -/
theorem resolveWithin_of_leadsTo (h : origin.LeadsTo file next) (fuel : Nat) :
    origin.resolveWithin named (fuel + 1) (included file)
      = (origin.resolveWithin named fuel (included next)).behind (origin.includeLine file) := by
  obtain ⟨text, hread, hobject, content, hparse, hcontent⟩ := h
  have hparse' : parse text = .ok (.tagged "include" content) := by rw [parse, hparse]
  have htext : origin.ofIncluded named fuel text
      = origin.resolveWithin named fuel (included next) := by
    rw [ofIncluded, if_neg (by simp [hobject]), hparse', Logged.of_ok_bind,
      resolveWithin_include hcontent]
  rw [resolveWithin_included, Logged.debug_bind, read, hread, Logged.of_ok_bind, htext]
  rfl

/-- What is given is the same however many includes are left, and does not complain about them. -/
def Settled (give : Nat → Logged (Option String)) : Prop :=
  (∀ fuel, give fuel = give 0) ∧ (give 0).result ≠ .error (.invalid .includeCycle)

theorem settled_const {logged : Logged (Option String)}
    (h : logged.result ≠ .error (.invalid .includeCycle)) : Settled fun _ => logged :=
  ⟨fun _ => rfl, h⟩

theorem Settled.behind {give : Nat → Logged (Option String)} (h : Settled give) (line : LogLine) :
    Settled fun fuel => (give fuel).behind line :=
  ⟨fun fuel => congrArg (Logged.behind line) (h.1 fuel), h.2⟩

/-- A value that names no file. -/
def NamesNoFile (value : Value) : Prop :=
  ∀ content target, value = .tagged "include" content → content.untagged ≠ .string target

theorem result_ofText_ne (named : NamedSchemas) (text : String) (failure : Failure) :
    (ofText named text).result ≠ .error failure := by
  simp only [ofText]
  split
  · nofun
  · split <;> nofun

theorem settled_resolveWithin {value : Value} (h : NamesNoFile value) :
    Settled fun fuel => origin.resolveWithin named fuel value := by
  cases value with
  | string text =>
    simp only [resolveWithin]
    exact settled_const (result_ofText_ne named text _)
  | mapping entries =>
    simp only [resolveWithin]
    refine settled_const ?_
    rw [Logged.result_map, Logged.result_of, jsonText]
    split <;> nofun
  | tagged name content =>
    by_cases hname : name = "include"
    · subst hname
      have htarget : includeTarget content = .error (.invalid .includeWithoutPath) := by
        rw [includeTarget]
        cases hcontent : content.untagged with
        | string target => exact absurd hcontent (h content target rfl)
        | null | bool _ | number _ | sequence _ | mapping _ | tagged _ _ => rfl
      simp only [resolveWithin, htarget, Logged.of_error_bind, if_true]
      exact settled_const nofun
    · simp only [resolveWithin, if_neg hname]
      exact settled_const nofun
  | null | bool _ | number _ | sequence _ =>
    simp only [resolveWithin]
    exact settled_const nofun

theorem settled_ofIncluded (h : ∀ next, ¬PassesOn text next) :
    Settled fun fuel => origin.ofIncluded named fuel text := by
  unfold ofIncluded
  split
  · exact settled_const nofun
  · rename_i hobject
    cases hparse : Value.parse text with
    | error fault =>
      simp only [parse, hparse, Logged.of_error_bind]
      exact settled_const nofun
    | ok value =>
      simp only [parse, hparse, Logged.of_ok_bind]
      refine settled_resolveWithin fun content target hvalue hcontent => h target ?_
      exact ⟨by simpa using hobject, content, hvalue ▸ hparse, hcontent⟩

/-- **Where a chain ends, one include is enough.** -/
theorem settled_of_end (h : ∀ next, ¬origin.LeadsTo file next) :
    Settled fun fuel => origin.resolveWithin named (fuel + 1) (included file) := by
  simp only [resolveWithin_included, Logged.debug_bind]
  cases hread : origin.files.readText (Path.join origin.base file) with
  | error fault =>
    simp only [read, hread, Logged.of_error_bind]
    exact settled_const nofun
  | ok text =>
    simp only [read, hread, Logged.of_ok_bind]
    exact (settled_ofIncluded fun next hpasses => h next ⟨text, hread, hpasses⟩).behind _

/-- **A chain that ends needs as many includes as it has files.** -/
theorem settled_of_endsAfter (h : origin.EndsAfter file steps) :
    Settled fun fuel => origin.resolveWithin named (fuel + (steps + 1)) (included file) := by
  induction h with
  | here hend => exact settled_of_end hend
  | @step file next steps hleads _ ih =>
    simp only [← Nat.add_assoc _ (steps + 1) 1, resolveWithin_of_leadsTo hleads]
    exact ih.behind _

/-- **An endless chain runs out of includes.** -/
theorem result_resolveWithin_of_endless {chain : Nat → String}
    (h : ∀ i, origin.LeadsTo (chain i) (chain (i + 1))) (fuel i : Nat) :
    (origin.resolveWithin named fuel (included (chain i))).result
      = .error (.invalid .includeCycle) := by
  induction fuel generalizing i with
  | zero => rfl
  | succ fuel ih => rw [resolveWithin_of_leadsTo (h i), Logged.result_behind, ih (i + 1)]

/-- **The bound on includes is enough for every chain that ends.** -/
theorem resolve_of_endsAfter (h : origin.EndsAfter file steps) :
    origin.resolve named (included file) = origin.resolveWithin named (steps + 1) (included file)
      ∧ (origin.resolve named (included file)).result ≠ .error (.invalid .includeCycle) := by
  obtain ⟨spare, hspare⟩ := Nat.exists_eq_add_of_le' (Nat.add_le_add_right h.le_length 1)
  obtain ⟨hsame, hresult⟩ : Settled fun fuel =>
      origin.resolveWithin named (fuel + (steps + 1)) (included file) := settled_of_endsAfter h
  have hresolve : origin.resolve named (included file)
      = origin.resolveWithin named (steps + 1) (included file) := by
    rw [resolve, maxIncludes, hspare]
    exact (hsame spare).trans (by simp only [Nat.zero_add])
  refine ⟨hresolve, ?_⟩
  rw [hresolve]
  simpa using hresult

/-- **The bound is met just on an endless chain.** -/
theorem result_resolve_eq_cycle_iff :
    (origin.resolve named (included file)).result = .error (.invalid .includeCycle)
      ↔ ∃ chain : Nat → String, chain 0 = file ∧ ∀ i, origin.LeadsTo (chain i) (chain (i + 1)) := by
  constructor
  · intro hcycle
    rw [← not_endsAfter_iff]
    rintro ⟨steps, hends⟩
    exact (resolve_of_endsAfter hends).2 hcycle
  · rintro ⟨chain, rfl, hchain⟩
    exact result_resolveWithin_of_endless hchain _ 0

/-- One file of a chain. -/
theorem resolve_of_leadsTo (named : NamedSchemas) (h : origin.LeadsTo file next) :
    (origin.resolve named (included file)).result = (origin.resolve named (included next)).result
    ∧ ((origin.resolve named (included next)).result ≠ .error (.invalid .includeCycle) →
      (origin.resolve named (included file)).log
        = origin.includeLine file :: (origin.resolve named (included next)).log) := by
  by_cases hends : ∃ steps, origin.EndsAfter next steps
  · obtain ⟨steps, hends⟩ := hends
    rw [(resolve_of_endsAfter hends).1, (resolve_of_endsAfter (.step h hends)).1,
      resolveWithin_of_leadsTo h, Logged.result_behind, Logged.log_behind]
    exact ⟨rfl, fun _ => rfl⟩
  · obtain ⟨chain, rfl, hchain⟩ := not_endsAfter_iff.1 hends
    have hnext : (origin.resolve named (included (chain 0))).result
        = .error (.invalid .includeCycle) := result_resolveWithin_of_endless hchain _ 0
    refine ⟨?_, fun hne => absurd hnext hne⟩
    rw [hnext, resolve, maxIncludes, resolveWithin_of_leadsTo h, Logged.result_behind]
    exact result_resolveWithin_of_endless hchain _ 0

/-- **A whole chain**: its first file stands for what its last one stands for, and the files on the
way are logged. -/
theorem resolve_of_isChain (named : NamedSchemas) {targets : List String} {first last : String}
    (h : (targets ++ [last]).IsChain origin.LeadsTo)
    (hfirst : (targets ++ [last]).head? = some first) :
    (origin.resolve named (included first)).result = (origin.resolve named (included last)).result
    ∧ ((origin.resolve named (included last)).result ≠ .error (.invalid .includeCycle) →
      (origin.resolve named (included first)).log
        = targets.map origin.includeLine ++ (origin.resolve named (included last)).log) := by
  induction targets generalizing first with
  | nil =>
    obtain rfl := Option.some.inj hfirst
    exact ⟨rfl, fun _ => rfl⟩
  | cons target rest ih =>
    obtain rfl := Option.some.inj hfirst
    obtain ⟨next, hnext⟩ : ∃ next, (rest ++ [last]).head? = some next := by
      cases rest <;> exact ⟨_, rfl⟩
    obtain ⟨hleads, hrest⟩ := List.isChain_cons.1 h
    obtain ⟨hresult, hlog⟩ := ih hrest hnext
    obtain ⟨hresult', hlog'⟩ := resolve_of_leadsTo named (hleads next hnext)
    refine ⟨hresult'.trans hresult, fun hne => ?_⟩
    rw [hlog' (by rwa [hresult]), hlog hne, List.map_cons, List.cons_append]

/-- A file that cannot be read… -/
theorem result_resolve_of_unreadable {fault : FileFault}
    (h : origin.files.readText (Path.join origin.base file) = .error fault) :
    (origin.resolve named (included file)).result
      = .error (.unreadable (Path.join origin.base file) fault) := by
  rw [resolve, maxIncludes, resolveWithin_included, Logged.debug_bind, read, h,
    Logged.of_error_bind]
  rfl

/-- …and one that starts like an object. -/
theorem result_resolve_of_object
    (h : origin.files.readText (Path.join origin.base file) = .ok text)
    (hobject : looksLikeObject text.toList = true) :
    (origin.resolve named (included file)).result = .ok (some text) := by
  rw [resolve, maxIncludes, resolveWithin_included, Logged.debug_bind, read, h,
    Logged.of_ok_bind, ofIncluded, if_pos hobject]
  rfl

end Origin

open Origin

/-- **The first file of a chain stands for what the last one stands for**, whatever the length of
the chain, all targets being seen from the same directory.  Only a chain that goes on forever behind
the last file is given up. -/
theorem resolve_chain (origin : Origin) (named : NamedSchemas) {targets : List String}
    {first last : String} (hchain : (targets ++ [last]).IsChain origin.LeadsTo)
    (hfirst : (targets ++ [last]).head? = some first) :
    let resolved (file : String) := origin.resolve named (included file)
    let lastPath := Path.join origin.base last
    (resolved first).result = (resolved last).result
    ∧ ((resolved first).result = .error (.invalid .includeCycle) ↔
      ∃ chain : Nat → String, chain 0 = last ∧ ∀ i, origin.LeadsTo (chain i) (chain (i + 1)))
    ∧ ((resolved last).result ≠ .error (.invalid .includeCycle) →
      (resolved first).log = targets.map origin.includeLine ++ (resolved last).log)
    ∧ (∀ fault, origin.files.readText lastPath = .error fault →
      (resolved first).result = .error (.unreadable lastPath fault))
    ∧ ∀ text, origin.files.readText lastPath = .ok text → looksLikeObject text.toList = true →
      (resolved first).result = .ok (some text) := by
  intro resolved lastPath
  obtain ⟨hresult, hlog⟩ := resolve_of_isChain named hchain hfirst
  refine ⟨hresult, ?_, hlog, fun fault hread => ?_, fun text hread hobject => ?_⟩
  · rw [hresult]
    exact result_resolve_eq_cycle_iff
  · rw [hresult]
    exact result_resolve_of_unreadable hread
  · rw [hresult]
    exact result_resolve_of_object hread hobject

/-- Files that name others, some of them in a directory of their own. -/
def relay : Origin where
  base := "specs"
  files := { entries := [(["specs"], .directory), (["specs", "sub"], .directory),
    (["specs", "a"], .file (.text "!include sub/b")),
    (["specs", "sub", "b"], .file (.text "!include c")), (["specs", "c"], .file (.text "\x7b\x7d")),
    (["specs", "sub", "d"], .file (.text "!include e"))] }

theorem leadsTo_relay {file text next : String}
    (hread : relay.files.readText (Path.join relay.base file) = .ok text)
    (hobject : looksLikeObject text.toList = false)
    (hparse : Value.parse text = .ok (included next)) : relay.LeadsTo file next :=
  ⟨text, hread, hobject, .string next, hparse, rfl⟩

/-- The target of `sub/b` is not looked for beside it, and neither is that of `sub/d`. -/
theorem resolve_chain_relay :
    (relay.resolve .empty (included "a")).result = .ok (some "\x7b\x7d")
    ∧ (relay.resolve .empty (included "sub/d")).result
      = .error (.unreadable "specs/e" .notFound) := by
  have ha : relay.LeadsTo "a" "sub/b" := leadsTo_relay rfl (by decide) (by decide +kernel)
  have hb : relay.LeadsTo "sub/b" "c" := leadsTo_relay rfl (by decide) (by decide +kernel)
  have hd : relay.LeadsTo "sub/d" "e" := leadsTo_relay rfl (by decide) (by decide +kernel)
  have hac : (["a", "sub/b"] ++ ["c"]).IsChain relay.LeadsTo :=
    .cons_cons ha (.cons_cons hb (.singleton "c"))
  have hde : (["sub/d"] ++ ["e"]).IsChain relay.LeadsTo := .cons_cons hd (.singleton "e")
  obtain ⟨-, -, -, -, hobject⟩ := resolve_chain relay .empty hac rfl
  obtain ⟨-, -, -, hunreadable, -⟩ := resolve_chain relay .empty hde rfl
  exact ⟨hobject _ rfl (by decide), hunreadable _ rfl⟩

end RamlExpress
