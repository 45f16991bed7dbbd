import Spreadsheet.CommandLine.Run
import Spreadsheet.Proofs.CommandLine.Options
import Spreadsheet.Proofs.Files.Writing
import Spreadsheet.Proofs.Sheet.StoredResults

/-!
# What a run of a command line does

A run can stop in four places: at the words, at a request for help, at the file to import and at the
file to write.  The main result, `CommandLine.run_outcome`, says for all words and files what has
been printed and written in each case.

The sheet that the commands see is described by the requests of a user (`CommandLine.Imports` and
`CommandLine.commitRequest`), that is, by steps of the sheet, whose effects are known; and whether
the run fails is described by the two files alone, so that settings, commits and commands have no
part in it.
-/

namespace Spreadsheet

namespace CommandLine

/-! ## The sheet of a run -/

/-- The requests that import the file at a path, which can be read and gives cells; without a path
there are none. -/
inductive Imports (files : Files) : Option String → List Step → Prop
  | none : Imports files none []
  | some {path : String} {content : ByteArray} {cells : List (Address × String)}
      (content_eq : files.read path = .ok content)
      (cells_eq : Csv.read content.data.toList = .ok cells) :
      Imports files (some path) [.importBytes content.data.toList]

/-- The request that makes a commit. -/
def commitRequest : Address × String → Step
  | (a, input) => .commit a.text input

/-- The sheet that the commands see: an empty one after the imports and then the commits. -/
def finalSheet (limits : Limits) (imports : List Step) (commits : List (Address × String)) :
    Sheet :=
  ({ limits } : Sheet).run (imports ++ commits.map commitRequest)

/-- The request for a commit makes this commit, since an address is found by its own text. -/
lemma step_commitRequest (s : Sheet) (commit : Address × String) :
    (s.step (commitRequest commit)).1 = (s.commit commit.1 commit.2).1 := by
  obtain ⟨a, input⟩ := commit
  have hplace : Sheet.place a.text = .ok a :=
    Sheet.place_eq_ok_iff.mpr (Address.ofText?_eq_some_iff.mpr rfl)
  have hwhole : s.tryStep (commitRequest (a, input)) =
      .ok ((s.commit a input).1, Sheet.evaluated (s.commit a input).2) := by
    rw [commitRequest, Sheet.tryStep, hplace]
    rfl
  rw [Sheet.step_eq_tryStep, hwhole]

/-- A file that can be read is imported whole, and the count is that of the texts found in it. -/
lemma importCsv_of_read (s : Sheet) {bytes : List UInt8} {cells : List (Address × String)}
    (h : Csv.read bytes = .ok cells) :
    s.importCsv bytes = .ok (s.putTexts cells, cells.length) := by
  rw [Sheet.importCsv, h]
  rfl

/-- The request for an import stores the texts that are found in the file. -/
lemma step_importBytes (s : Sheet) {bytes : List UInt8} {cells : List (Address × String)}
    (h : Csv.read bytes = .ok cells) : (s.step (.importBytes bytes)).1 = s.putTexts cells := by
  have hwhole : s.tryStep (.importBytes bytes) = .ok (s.putTexts cells, .count cells.length) := by
    rw [Sheet.tryStep, importCsv_of_read s h]
    rfl
  rw [Sheet.step_eq_tryStep, hwhole]

/-- Importing a file succeeds exactly if the file is there and can be read, and then does what a
request for the import of its bytes does. -/
lemma importFile_eq_ok_iff {s next : Sheet} {files : Files} {path : String} :
    (s.importFile files path).map (·.1) = .ok next ↔
      ∃ imports, Imports files (some path) imports ∧ next = s.run imports := by
  rw [map_eq_ok_iff]
  constructor
  · rintro ⟨⟨next, count⟩, himport, rfl⟩
    obtain ⟨content, hcontent, himport⟩ := bind_eq_ok_iff.mp himport
    obtain ⟨cells, hcells, rfl⟩ := Sheet.importCsv_eq_ok (mapError_eq_ok_iff.mp himport)
    exact ⟨_, .some (mapError_eq_ok_iff.mp hcontent) hcells, (step_importBytes s hcells).symm⟩
  · rintro ⟨imports, himports, rfl⟩
    cases himports with
    | @some _ content cells hcontent hcells =>
      refine ⟨(s.putTexts cells, cells.length), ?_, (step_importBytes s hcells).symm⟩
      exact bind_eq_ok_iff.mpr ⟨content, mapError_eq_ok_iff.mpr hcontent,
        mapError_eq_ok_iff.mpr (importCsv_of_read s hcells)⟩

/-- A run has a sheet exactly when its file, if any, can be imported. -/
lemma prepare_eq_ok_iff {files : Files} {limits : Limits} {args : Arguments} {s : Sheet} :
    prepare files limits args = .ok s ↔ ∃ imports, Imports files args.csvFile imports ∧
      s = finalSheet limits imports args.commits := by
  have hcommits : ∀ imports, finalSheet limits imports args.commits =
      args.commits.foldl (fun s (a, input) => (s.commit a input).1)
        (({ limits } : Sheet).run imports) := by
    intro imports
    rw [finalSheet, Sheet.run, List.foldl_append, List.foldl_map]
    simp only [step_commitRequest]
    rfl
  simp only [hcommits]
  rw [prepare]
  cases args.csvFile with
  | none =>
    rw [bind_eq_ok_iff]
    constructor
    · rintro ⟨_, ⟨⟩, ⟨⟩⟩
      exact ⟨[], .none, rfl⟩
    · rintro ⟨_, ⟨⟩, rfl⟩
      exact ⟨_, rfl, rfl⟩
  | some path =>
    simp only [bind_eq_ok_iff, importFile_eq_ok_iff]
    constructor
    · rintro ⟨_, ⟨imports, himports, rfl⟩, ⟨⟩⟩
      exact ⟨imports, himports, rfl⟩
    · rintro ⟨imports, himports, rfl⟩
      exact ⟨_, ⟨imports, himports, rfl⟩, rfl⟩

/-! ## The report of a run -/

/-- The report is that of a run which has read the arguments and is not asked for help. -/
structure Report.Answers (report : Report) (files : Files) (usualSettings : Option String)
    (args : Arguments) : Prop where
  /-- Only the file that the sheet is written to can change. -/
  elsewhere : ∀ place, (∀ path ∈ args.outputFile, files.follow path ≠ .ok place) →
    report.files.entry? place = files.entry? place
  exitCode_le : report.exitCode ≤ 1
  /-- The run fails when there is no importing the one file or no writing the other. -/
  exitCode_eq_one_iff : report.exitCode = 1 ↔
    (¬∃ imports, Imports files args.csvFile imports) ∨
      ∃ path ∈ args.outputFile, ∀ content, ∃ fault, files.write path content = .error fault
  /-- Nothing is printed or written when there is no importing. -/
  of_not_imports : (¬∃ imports, Imports files args.csvFile imports) →
    report.output = "" ∧ report.files = files
  /-- All commands are answered by the same sheet, which is then written. -/
  of_imports : ∀ imports, Imports files args.csvFile imports →
    let s := finalSheet (Settings.load files args.settingsFile usualSettings).1 imports args.commits
    report.output = String.join
        (args.commands.map fun formula => Formula.display (s.evaluate formula) ++ "\n") ∧
      (report.exitCode = 0 → ∀ path ∈ args.outputFile,
        files.write path s.exportCsv.toUTF8 = .ok report.files)

/-- The bytes of a file are imported in one way only. -/
lemma Imports.unique {files : Files} {path : Option String} {imports imports' : List Step}
    (h : Imports files path imports) (h' : Imports files path imports') : imports' = imports := by
  cases h with
  | none =>
    cases h' with
    | none => rfl
  | some hcontent =>
    cases h' with
    | some hcontent' => rw [Except.ok.inj (hcontent'.symm.trans hcontent)]

/-- There is one way to import a file at most, so what holds of one list of imports holds of every
one. -/
lemma Imports.forall_of {files : Files} {path : Option String} {imports : List Step}
    {P : List Step → Prop} (h : Imports files path imports) (hP : P imports) :
    ∀ imports', Imports files path imports' → P imports' := by
  intro imports' h'
  rw [h.unique h']
  exact hP

/-- A run that has read its arguments does what they ask for: its imports, its answers, its file and
its exit code are all accounted for. -/
lemma answers_runArguments (files : Files) (usual : Option String) (args : Arguments) :
    (runArguments files usual args).Answers files usual args := by
  rw [runArguments]
  dsimp only
  split
  case h_1 e hprepare =>
    have hnone : ¬∃ imports, Imports files args.csvFile imports := by
      rintro ⟨imports, himports⟩
      rw [prepare_eq_ok_iff.mpr ⟨imports, himports, rfl⟩] at hprepare
      cases hprepare
    exact ⟨fun _ _ => rfl, le_refl 1, iff_of_true rfl (.inl hnone), fun _ => ⟨rfl, rfl⟩,
      fun imports himports => absurd ⟨imports, himports⟩ hnone⟩
  case h_2 s hprepare =>
    obtain ⟨imports, himports, rfl⟩ := prepare_eq_ok_iff.mp hprepare
    have hnot : ¬¬∃ imports, Imports files args.csvFile imports := not_not.mpr ⟨imports, himports⟩
    split
    case h_1 houtput =>
      exact ⟨fun _ _ => rfl, Nat.zero_le 1, by simp [hnot, houtput], fun h => absurd h hnot,
        himports.forall_of ⟨rfl, by simp [houtput]⟩⟩
    case h_2 path houtput =>
      split
      case h_1 written hexport =>
        have hwrite := mapError_eq_ok_iff.mp hexport
        obtain ⟨place, hwritable, rfl⟩ := Files.write_eq_ok_iff.mp hwrite
        refine ⟨?_, Nat.zero_le 1, ?_, fun h => absurd h hnot, himports.forall_of ⟨rfl, ?_⟩⟩
        · intro other hother
          refine hwritable.entry?_store ?_ _
          rintro rfl
          exact hother path houtput hwritable.leads
        · simp only [houtput, hnot, Files.exists_write_eq_error_iff]
          simpa using ⟨place, hwritable⟩
        · simpa [houtput] using hwrite
      case h_2 e hexport =>
        -- Whether a file can be written does not depend on the content.
        obtain ⟨fault, hwrite, -⟩ := mapError_eq_error_iff.mp hexport
        have hnowhere := Files.exists_write_eq_error_iff.mp ⟨fault, hwrite⟩
        have hfails : ∀ content, ∃ fault, files.write path content = .error fault :=
          fun _ => Files.exists_write_eq_error_iff.mpr hnowhere
        exact ⟨fun _ _ => rfl, le_refl 1, iff_of_true rfl (.inr ⟨path, houtput, hfails⟩),
          fun h => absurd h hnot, himports.forall_of ⟨rfl, by simp⟩⟩

/-- Words that ask for something are run as the arguments that they ask for, where a request for
help comes before everything else. -/
lemma run_of_asks {words : List String} {args : Arguments} (h : Asks words args) :
    run files usual words =
      if args.help then ⟨0, "", usage, files⟩ else runArguments files usual args := by
  rw [run, read_eq_ok_iff.mpr h]

/-- Words that ask for nothing make the run fail, without output and with the files as they were. -/
lemma run_of_not_asks {words : List String} (h : ¬∃ args, Asks words args) :
    ∃ messages, run files usual words = ⟨1, "", messages, files⟩ := by
  rw [run]
  split
  case h_1 e _ => exact ⟨_, rfl⟩
  case h_2 args hread => exact absurd ⟨args, read_eq_ok_iff.mp hread⟩ h

/-- Words that ask for nothing fail, and words that ask for help succeed; in both cases nothing is
printed as output and no file changes.  Otherwise only the file that the sheet is written to can
change.  The run fails exactly when the one file cannot be imported or the other not written; so it
fails or not like any run with the same two files, whatever the settings, the commits and the
commands.  When there is no importing, nothing is printed or written; else the commands are answered
in their order by the sheet after the import and all commits, in their order, each with the text
that a cell would show and a line feed. -/
theorem run_outcome (files : Files) (usual : Option String) (words : List String) :
    ((¬∃ args, Asks words args) → (run files usual words).exitCode = 1 ∧
      (run files usual words).output = "" ∧ (run files usual words).files = files) ∧
    (∀ args, Asks words args → args.help = true → (run files usual words).exitCode = 0 ∧
      (run files usual words).output = "" ∧ (run files usual words).files = files) ∧
    ∀ args, Asks words args → args.help = false →
      (run files usual words).Answers files usual args ∧
      ∀ usual' words' args', Asks words' args' → args'.help = false →
        args'.csvFile = args.csvFile → args'.outputFile = args.outputFile →
          (run files usual' words').exitCode = (run files usual words).exitCode := by
  have hanswers : ∀ {usual words args}, Asks words args → args.help = false →
      (run files usual words).Answers files usual args := by
    intro usual words args hasks hhelp
    rw [run_of_asks hasks, hhelp]
    exact answers_runArguments files usual args
  refine ⟨?_, ?_, ?_⟩
  · intro hnone
    obtain ⟨messages, hrun⟩ := run_of_not_asks hnone
    rw [hrun]
    exact ⟨rfl, rfl, rfl⟩
  · intro args hasks hhelp
    rw [run_of_asks hasks, hhelp]
    exact ⟨rfl, rfl, rfl⟩
  · intro args hasks hhelp
    refine ⟨hanswers hasks hhelp, ?_⟩
    intro usual' words' args' hasks' hhelp' hcsv houtput
    have hle := (@hanswers usual _ _ hasks hhelp).exitCode_le
    have hle' := (@hanswers usual' _ _ hasks' hhelp').exitCode_le
    have hiff := (@hanswers usual _ _ hasks hhelp).exitCode_eq_one_iff
    have hiff' := (@hanswers usual' _ _ hasks' hhelp').exitCode_eq_one_iff
    rw [hcsv, houtput, ← hiff] at hiff'
    omega

/-- Commits and commands are interleaved, a command fails and there is no settings file; all
commands see the imported cells and both commits.  With a request for help behind them nothing is
answered, and with an option that lacks its value the run fails. -/
theorem run_outcome_interleaved :
    let files : Files := ⟨["home"], [(["home", "in.csv"], .file "1,2".toUTF8)]⟩
    let words := ["-c", "SUM(A1:B2)", "-s", "A2=4", "--config", "none.toml", "--command", "FOO(A1)",
      "--csv", "in.csv", "--set", " B2 ==A2*2"]
    ((run files none words).exitCode = 0 ∧ (run files none words).output = "15\n#ERROR!\n" ∧
      ∀ place, (run files none words).files.entry? place = files.entry? place) ∧
    ((run files none (words ++ ["-h"])).exitCode = 0 ∧
      (run files none (words ++ ["-h"])).output = "") ∧
    (run files none (words ++ ["-c"])).exitCode = 1 := by
  intro files words
  let args : Arguments := {
    csvFile := some "in.csv"
    commits := [(⟨⟨2, by decide, by decide⟩, ⟨1, by decide, by decide⟩⟩, "4"),
      (⟨⟨2, by decide, by decide⟩, ⟨2, by decide, by decide⟩⟩, "=A2*2")]
    commands := ["SUM(A1:B2)", "FOO(A1)"]
    settingsFile := some "none.toml" }
  refine ⟨?_, ?_, ?_⟩
  · have hasks : Asks words args := read_eq_ok_iff.mp (by decide +kernel)
    obtain ⟨-, -, hrun⟩ := run_outcome files none words
    obtain ⟨hanswers, -⟩ := hrun args hasks rfl
    have hcells : Csv.read "1,2".toUTF8.data.toList =
        .ok [(⟨⟨1, by decide, by decide⟩, ⟨1, by decide, by decide⟩⟩, "1"),
          (⟨⟨1, by decide, by decide⟩, ⟨2, by decide, by decide⟩⟩, "2")] := by
      decide +kernel
    have himports : Imports files args.csvFile [.importBytes "1,2".toUTF8.data.toList] :=
      .some (by decide +kernel) hcells
    refine ⟨?_, ?_, ?_⟩
    · have hcode : (run files none words).exitCode ≠ 1 := by
        rw [ne_eq, hanswers.exitCode_eq_one_iff]
        simpa [args] using ⟨_, himports⟩
      have hle := hanswers.exitCode_le
      omega
    · rw [(hanswers.of_imports _ himports).1]
      decide +kernel
    · exact fun place => hanswers.elsewhere place (by simp [args])
  · have hasks : Asks (words ++ ["-h"]) { args with help := true } :=
      read_eq_ok_iff.mp (by decide +kernel)
    obtain ⟨-, hhelp, -⟩ := run_outcome files none (words ++ ["-h"])
    obtain ⟨hcode, houtput, -⟩ := hhelp _ hasks rfl
    exact ⟨hcode, houtput⟩
  · have hread : Arguments.read (words ++ ["-c"]) = .error (.missingValue "-c") := by
      decide +kernel
    obtain ⟨hfails, -⟩ := run_outcome files none (words ++ ["-c"])
    refine (hfails ?_).1
    rintro ⟨args, hasks⟩
    rw [read_eq_ok_iff.mpr hasks] at hread
    cases hread

end CommandLine

end Spreadsheet
