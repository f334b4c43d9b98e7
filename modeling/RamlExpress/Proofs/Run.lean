import RamlExpress.CommandLine.Run
import RamlExpress.Proofs.FileSystem

/-!
# Proofs/Run — a run is all or nothing

A run makes its whole content from the files as they are, and only then delivers it.  So a failure
on the way leaves no trace, and a file that is written, were it the description itself, holds what
the same run would have printed.

* `Arguments.rendering` — the content, as a function of the files alone.
* `run_all_or_nothing` — what a run leaves behind.
-/

namespace RamlExpress

namespace Arguments

/-- The content that some arguments ask for, given the API. -/
def rendered (arguments : Arguments) (api : Api) : Except Failure String :=
  match arguments.format with
  | .program => (api.program arguments.order).result.map Program.render
  | .json => api.collect.result.map fun scaffold => Registry.jsonText scaffold.models
  | .yaml => api.collect.result.map fun scaffold => Registry.yamlText scaffold.models

/-- **The content that some arguments ask for**: the program or the models of the API that the
description file describes. -/
def rendering (arguments : Arguments) (files : FileSystem) : Except Failure String :=
  (Api.ofFile files arguments.specPath).result >>= arguments.rendered

/-! ## The stages of a run -/

variable (arguments : Arguments) (files : FileSystem)

theorem result_load :
    (arguments.load files).result = (Api.ofFile files arguments.specPath).result := by
  simp only [load, Logged.result_bind, Logged.result_info, ok_bind]
  cases (Api.ofFile files arguments.specPath).result with
  | error failure => rfl
  | ok api =>
    rw [ok_bind]
    split <;> rfl

theorem result_content (api : Api) : (arguments.content api).result = arguments.rendered api := by
  simp only [content, rendered, Logged.result_bind, Logged.result_debug, ok_bind]
  cases arguments.format with
  | program =>
    rw [Logged.result_bind]
    cases (api.program arguments.order).result <;> rfl
  | json | yaml =>
    simp only [Logged.result_bind, Logged.result_debug, ok_bind]
    cases api.collect.result <;> rfl

end Arguments

/-- **What a run did**, whatever it logged: the files it left, its fault, and what it printed. -/
def Outcome.effect (outcome : Outcome) : FileSystem × Option RunFault × String :=
  (outcome.files, outcome.fault, outcome.printed)

theorem Outcome.effect_eq_iff {outcome : Outcome} {files : FileSystem} {fault : Option RunFault}
    {printed : String} :
    outcome.effect = (files, fault, printed)
      ↔ outcome.files = files ∧ outcome.fault = fault ∧ outcome.printed = printed := by
  simp [effect]

namespace Arguments

variable {arguments : Arguments} {files : FileSystem} {content : String}

theorem effect_run_of_unloaded {failure : Failure}
    (h : (Api.ofFile files arguments.specPath).result = .error failure) :
    (arguments.run files).effect = (files, some (.loading failure), "") := by
  rw [run, result_load, h]
  rfl

variable {api : Api} (hload : (Api.ofFile files arguments.specPath).result = .ok api)

include hload

theorem effect_run_of_unrendered {failure : Failure} (h : arguments.rendered api = .error failure) :
    (arguments.run files).effect = (files, some (.generating failure), "") := by
  simp only [run, result_load, hload, result_content, h]
  rfl

theorem effect_run_of_rendered (h : arguments.rendered api = .ok content) :
    (arguments.run files).effect = (arguments.deliver files content).effect := by
  simp only [run, result_load, hload, result_content, h]
  rfl

omit hload

theorem effect_deliver_of_none (h : arguments.outputPath = none) :
    (arguments.deliver files content).effect = (files, none, content) := by
  simp only [deliver, h]
  rfl

theorem effect_deliver_of_some {path : String} (h : arguments.outputPath = some path) :
    (arguments.deliver files content).effect
      = ((files.save path content).files, (files.save path content).fault.map .saving, "") := by
  simp only [deliver, h]
  cases hfault : (files.save path content).fault <;> simp [Outcome.effect]

/-! ## Failures and successes -/

/-- **A run without its content leaves nothing behind.** -/
theorem effect_run_of_error {failure : Failure} (h : arguments.rendering files = .error failure) :
    ∃ fault ∈ [RunFault.loading failure, RunFault.generating failure],
      (arguments.run files).effect = (files, some fault, "") := by
  cases hload : (Api.ofFile files arguments.specPath).result with
  | error other =>
    obtain rfl : other = failure := Except.error.inj ((congrArg (· >>= _) hload).symm.trans h)
    exact ⟨_, by simp, effect_run_of_unloaded hload⟩
  | ok api =>
    rw [rendering, hload] at h
    exact ⟨_, by simp, effect_run_of_unrendered hload h⟩

/-- **A run with its content delivers it.** -/
theorem effect_run_of_ok (h : arguments.rendering files = .ok content) :
    (arguments.run files).effect = (arguments.deliver files content).effect := by
  obtain ⟨api, hload, hcontent⟩ := bind_eq_ok_iff.1 h
  exact effect_run_of_rendered hload hcontent

/-- A run succeeds just if its content can be made, and saved where it is to be saved. -/
theorem fault_run_eq_none_iff :
    (arguments.run files).fault = none ↔ ∃ content, arguments.rendering files = .ok content
      ∧ ∀ path ∈ arguments.outputPath, (files.save path content).fault = none := by
  cases hrendering : arguments.rendering files with
  | error failure =>
    obtain ⟨fault, -, heffect⟩ := effect_run_of_error hrendering
    simp [(Outcome.effect_eq_iff.1 heffect).2.1]
  | ok content =>
    have heffect := effect_run_of_ok hrendering
    cases hpath : arguments.outputPath with
    | none =>
      rw [effect_deliver_of_none hpath] at heffect
      simp [(Outcome.effect_eq_iff.1 heffect).2.1]
    | some path =>
      rw [effect_deliver_of_some hpath] at heffect
      simp [(Outcome.effect_eq_iff.1 heffect).2.1]

end Arguments

/-- **A run is all or nothing.**  Without its content it fails, and no file has changed and nothing
is printed.  With it, it prints the content and changes no file; or it prints nothing, and the path
it was to write then holds what it would have printed, whatever stood there before. -/
theorem run_all_or_nothing (arguments : Arguments) (files : FileSystem) :
    let outcome := arguments.run files
    let printing := Arguments.run { arguments with outputPath := none } files
    (∀ failure, arguments.rendering files = .error failure →
      outcome.fault ∈ [some (.loading failure), some (.generating failure)]
        ∧ outcome.printed = "" ∧ outcome.files = files)
    ∧ (outcome.fault = none ↔ ∃ content, arguments.rendering files = .ok content
        ∧ ∀ path ∈ arguments.outputPath, (files.save path content).fault = none)
    ∧ (arguments.outputPath = none → outcome.fault = none →
        outcome.files = files ∧ arguments.rendering files = .ok outcome.printed)
    ∧ ∀ path, arguments.outputPath = some path → outcome.fault = none →
        outcome.printed = "" ∧ printing.fault = none
          ∧ outcome.files.readText path = .ok printing.printed := by
  intro outcome printing
  refine ⟨fun failure hfailure => ?_, Arguments.fault_run_eq_none_iff, fun hpath hfault => ?_,
    fun path hpath hfault => ?_⟩
  · obtain ⟨fault, hmem, heffect⟩ := Arguments.effect_run_of_error hfailure
    obtain ⟨hfiles, hfault, hprinted⟩ := Outcome.effect_eq_iff.1 heffect
    exact ⟨hfault ▸ List.mem_map_of_mem (f := some) hmem, hprinted, hfiles⟩
  · obtain ⟨content, hcontent, -⟩ := Arguments.fault_run_eq_none_iff.1 hfault
    have heffect : outcome.effect = (files, none, content) :=
      (Arguments.effect_run_of_ok hcontent).trans (Arguments.effect_deliver_of_none hpath)
    obtain ⟨hfiles, -, hprinted⟩ := Outcome.effect_eq_iff.1 heffect
    exact ⟨hfiles, hprinted ▸ hcontent⟩
  · obtain ⟨content, hcontent, hsaved⟩ := Arguments.fault_run_eq_none_iff.1 hfault
    -- The same content serves both runs: making it does not look at the path of the output.
    have hsame : Arguments.rendering { arguments with outputPath := none } files = .ok content :=
      hcontent
    have hprinting : printing.effect = (files, none, content) :=
      (Arguments.effect_run_of_ok hsame).trans (Arguments.effect_deliver_of_none rfl)
    obtain ⟨-, hdone, hprinted⟩ := Outcome.effect_eq_iff.1 hprinting
    obtain ⟨hfiles, -, hsilent⟩ := Outcome.effect_eq_iff.1
      ((Arguments.effect_run_of_ok hcontent).trans (Arguments.effect_deliver_of_some hpath))
    refine ⟨hsilent, hdone, ?_⟩
    rw [hprinted, hfiles]
    exact FileSystem.readText_save (hsaved path hpath)

/-- A description of books, which takes their schema from a second file. -/
def bookFiles : FileSystem where
  entries := [(["api.raml"], .file (.text ("/books: \x7bget: \x7bresponses: \x7b200: "
      ++ "\x7bbody: \x7btype: !include b\x7d\x7d\x7d\x7d\x7d\n"))),
    (["b"], .file (.text "\x7b\"type\":\"object\"\x7d"))]

def bookArguments (format : OutputFormat) (path : Option String) : Arguments where
  specPath := "api.raml"
  format := format
  outputPath := path

/-- What is written for it. -/
def bookOutput : OutputFormat → String
  | .program => "\n".intercalate [
    "function setupScaffold(app) \x7b",
    "",
    "  var Book = new Schema(\x7b\x7d, \x7b _id: false \x7d  );",
    "  var BookModel = mongoose.model(\"Book\", Book);",
    "  app.get('/books', function (req, res)\x7b",
    "    return BookModel.find(function (err, items) \x7b",
    "      if (!err) \x7b",
    "        return res.send(items);",
    "      \x7d else \x7b",
    "        console.log(err);",
    "        return res.status(500).send(err);",
    "      \x7d",
    "    \x7d);",
    "  \x7d);",
    "\x7d",
    "",
    ""]
  | .json => "\x7b\n  \"Book\": \x7b\x7d\n\x7d"
  | .yaml => "Book: \x7b\x7d\n"

/-- The description alone, without the schema that it includes. -/
def lostFiles : FileSystem := { bookFiles with entries := bookFiles.entries.take 1 }

theorem rendering_bookFiles (format : OutputFormat) :
    (bookArguments format none).rendering bookFiles = .ok (bookOutput format)
      ∧ ∃ failure, (bookArguments format none).rendering lostFiles = .error failure := by
  have hview : ∀ format ∈ [OutputFormat.program, .json, .yaml],
      ((bookArguments format none).rendering bookFiles).toOption.map id = some (bookOutput format)
        ∧ ((bookArguments format none).rendering lostFiles).toOption = none := by
    decide +kernel
  obtain ⟨hbook, hnone⟩ := hview format (by cases format <;> simp)
  obtain ⟨_, hcontent, rfl⟩ := exists_ok_of_toOption id hbook
  exact ⟨hcontent, exists_error_of_toOption hnone⟩

theorem fault_save_bookFiles (text : String) :
    ∀ path ∈ ["api.raml", "b", "out/models.json"], (bookFiles.save path text).fault = none := by
  rw [List.forall_mem_cons, List.forall_mem_cons, List.forall_mem_singleton]
  exact ⟨rfl, rfl, rfl⟩

/-- In every format, either of the two files may be written over, and a file may be written to a
new directory; with the second file lost, the first is not written over. -/
theorem run_all_or_nothing_bookFiles :
    (∀ format, ((bookArguments format none).run bookFiles).printed = bookOutput format)
    ∧ (∀ format, ∀ path ∈ ["api.raml", "b", "out/models.json"],
      ((bookArguments format (some path)).run bookFiles).fault = none
        ∧ ((bookArguments format (some path)).run bookFiles).files.readText path
          = .ok (bookOutput format))
    ∧ ∀ format, ((bookArguments format (some "api.raml")).run lostFiles).fault ≠ none
      ∧ ((bookArguments format (some "api.raml")).run lostFiles).files = lostFiles := by
  have hprinted (format : OutputFormat) :
      ((bookArguments format none).run bookFiles).printed = bookOutput format := by
    obtain ⟨-, hdone, hprint, -⟩ := run_all_or_nothing (bookArguments format none) bookFiles
    have hrendering := (rendering_bookFiles format).1
    have hfault := hdone.2 ⟨_, hrendering, nofun⟩
    exact Except.ok.inj ((hprint rfl hfault).2.symm.trans hrendering)
  refine ⟨hprinted, fun format path hpath => ?_, fun format => ?_⟩
  · obtain ⟨-, hdone, -, hwrite⟩ := run_all_or_nothing (bookArguments format (some path)) bookFiles
    have hsaved := fault_save_bookFiles (bookOutput format) path hpath
    have hfault := hdone.2
      ⟨_, (rendering_bookFiles format).1, fun other hother => Option.some.inj hother ▸ hsaved⟩
    have hread := (hwrite path rfl hfault).2.2
    exact ⟨hfault, hread.trans (congrArg Except.ok (hprinted format))⟩
  · obtain ⟨hfails, -⟩ := run_all_or_nothing (bookArguments format (some "api.raml")) lostFiles
    obtain ⟨failure, hlost⟩ := (rendering_bookFiles format).2
    obtain ⟨hfault, -, hfiles⟩ := hfails failure hlost
    refine ⟨fun hnone => ?_, hfiles⟩
    simp [hnone] at hfault

end RamlExpress
