import Mathlib.Data.List.Forall2
import Spreadsheet.Proofs.CommandLine.Options
import Spreadsheet.Proofs.Text.Characters

/-!
# Writing command lines

A command line is written as a list of flags, each in one of its spellings and with its value, if it
takes one, in the next word.  The main result, `CommandLine.read_words`, is that the words of every
list of flags are read, as what the flags give: each kind of flag has its values in their order,
however the kinds are interleaved and whatever the values look like, and of a flag that is meant
once the last value counts.
-/

namespace Spreadsheet

namespace CommandLine

/-! ## Flags -/

/-- An assignment as it is written, with white space around the address. -/
structure Assignment where
  before : String
  address : Address
  after : String
  input : String
  before_blank : Text.isBlank before = true
  after_blank : Text.isBlank after = true

/-- The characters of an assignment. -/
def Assignment.text (a : Assignment) : String :=
  a.before ++ a.address.text ++ a.after ++ "=" ++ a.input

/-- A flag of a command line, with its value and, where there are two spellings, the choice of the
long one. -/
inductive Flag where
  | help (long : Bool)
  | csv (path : String)
  | set (long : Bool) (assignment : Assignment)
  | command (long : Bool) (formula : String)
  | output (long : Bool) (path : String)
  | settings (path : String)

namespace Flag

/-- The words of a flag. -/
def words : Flag → List String
  | help long => [if long then "--help" else "-h"]
  | csv path => ["--csv", path]
  | set long assignment => [if long then "--set" else "-s", assignment.text]
  | command long formula => [if long then "--command" else "-c", formula]
  | output long path => [if long then "--output" else "-o", path]
  | settings path => ["--config", path]

/-- The option that a flag gives. -/
def given : Flag → Given
  | help _ => .help
  | csv path => .valued .csv path
  | set _ assignment => .valued .commit assignment.text
  | command _ formula => .valued .command formula
  | output _ path => .valued .output path
  | settings path => .valued .settings path

/-- The commit that a flag makes. -/
def commit? : Flag → Option (Address × String)
  | set _ assignment => some (assignment.address, assignment.input)
  | _ => none

end Flag

variable {flags : List Flag}

/-- The flags give the values of the arguments and no others, the values of one kind in their order.
-/
structure Interleaves (flags : List Flag) (args : Arguments) : Prop where
  csv_eq : values .csv (flags.map Flag.given) = args.csvFile.toList
  commits_eq : flags.filterMap Flag.commit? = args.commits
  commands_eq : values .command (flags.map Flag.given) = args.commands
  output_eq : values .output (flags.map Flag.given) = args.outputFile.toList
  settings_eq : values .settings (flags.map Flag.given) = args.settingsFile.toList
  help_iff : Given.help ∈ flags.map Flag.given ↔ args.help = true

/-! ## Reading -/

/-- Command lines may be put together: the second one starts where a value of the first one ends. -/
lemma gives_append {words more : List String} {given rest : List Given} (h : Gives words given)
    (h' : Gives more rest) : Gives (words ++ more) (given ++ rest) := by
  induction h with
  | nil => exact h'
  | help spelled _ ih => exact .help spelled ih
  | valued spelled _ ih => exact .valued spelled ih

/-- The words of a flag give its option, whatever the value looks like. -/
lemma Flag.gives_words (flag : Flag) : Gives flag.words [flag.given] := by
  cases flag with
  | help long => cases long <;> exact .help (by decide) .nil
  | csv path => exact .valued rfl .nil
  | set long assignment => cases long <;> exact .valued rfl .nil
  | command long formula => cases long <;> exact .valued rfl .nil
  | output long path => cases long <;> exact .valued rfl .nil
  | settings path => exact .valued rfl .nil

/-- The words of flags give the options of the flags, in their order. -/
lemma gives_flatMap_words (flags : List Flag) :
    Gives (flags.flatMap Flag.words) (flags.map Flag.given) := by
  induction flags with
  | nil => exact .nil
  | cons flag flags ih => exact gives_append flag.gives_words ih

/-- An assignment is split behind its address, so that the input may hold equals signs. -/
lemma Assignment.assigns (a : Assignment) : Assigns a.text (a.address, a.input) := by
  have hbefore := a.before_blank
  have hafter := a.after_blank
  have hword := List.all_eq_true.mp a.address.all_isWordChar_chars
  unfold Text.isBlank at hbefore hafter
  have hblank : ∀ {s : String}, s.toList.all Text.isBlankChar = true → '=' ∉ s.toList := by
    intro s hs hmem
    exact absurd (List.all_eq_true.mp hs _ hmem) (by decide)
  refine ⟨a.before ++ a.address.text ++ a.after, rfl, ?_, ?_⟩
  · simp only [String.toList_append, List.mem_append, Address.text, String.toList_ofList, not_or]
    exact ⟨⟨hblank hbefore, fun hmem => absurd (hword _ hmem) (by decide)⟩, hblank hafter⟩
  · rw [← String.toList_inj, Text.toList_trim, String.toList_append, String.toList_append,
      Address.text, String.toList_ofList]
    exact Text.trimChars_append hbefore hafter fun c hc =>
      Text.isBlankChar_of_isWordChar (hword c hc)

/-- The assignments among the flags assign the commits of the flags, in their order. -/
lemma assigns_commits (flags : List Flag) :
    List.Forall₂ Assigns (values .commit (flags.map Flag.given))
      (flags.filterMap Flag.commit?) := by
  induction flags with
  | nil => exact .nil
  | cons flag flags ih =>
    cases flag with
    | set long assignment => exact .cons assignment.assigns ih
    | help | csv | command | output | settings => exact ih

/-- Every list of flags, written out in words, is read as what the flags give one after another. -/
lemma read_flatMap_words (flags : List Flag) : Arguments.read (flags.flatMap Flag.words) =
    .ok (collected (flags.map Flag.given) (flags.filterMap Flag.commit?)) :=
  read_eq_ok_iff.mpr ⟨_, _, gives_flatMap_words flags, assigns_commits flags, rfl⟩

lemma getLast?_toList {α : Type} (o : Option α) : o.toList.getLast? = o := by
  cases o <;> rfl

/-- Flags that give the values of the arguments, in whatever order of the kinds, collect to these
arguments. -/
lemma collected_of_interleaves {args : Arguments} (h : Interleaves flags args) :
    collected (flags.map Flag.given) (flags.filterMap Flag.commit?) = args := by
  have hhelp : (flags.map Flag.given).contains .help = args.help := by
    rw [Bool.eq_iff_iff, List.contains_iff_mem, h.help_iff]
  rw [collected, h.csv_eq, h.commits_eq, h.commands_eq, h.output_eq, h.settings_eq, hhelp,
    getLast?_toList, getLast?_toList, getLast?_toList]

/-- Flags that give the arguments, kind after kind. -/
def Arguments.toFlags (args : Arguments) : List Flag :=
  args.csvFile.toList.map .csv ++
  args.commits.map (fun (a, input) => .set false ⟨"", a, "", input, rfl, rfl⟩) ++
  args.commands.map (.command false) ++
  args.outputFile.toList.map (.output false) ++
  args.settingsFile.toList.map .settings ++
  if args.help then [.help false] else []

/-- Each kind of flag gives its own values. -/
lemma values_toFlags (args : Arguments) :
    values .csv (args.toFlags.map Flag.given) = args.csvFile.toList ∧
      values .command (args.toFlags.map Flag.given) = args.commands ∧
      values .output (args.toFlags.map Flag.given) = args.outputFile.toList ∧
      values .settings (args.toFlags.map Flag.given) = args.settingsFile.toList := by
  unfold Arguments.toFlags
  cases args.help <;> simp [values, Flag.given, Given.valueOf?, Function.comp_def]

/-- Every value of the arguments is given by some flags, namely by the list of its own. -/
lemma interleaves_toFlags (args : Arguments) : Interleaves args.toFlags args := by
  obtain ⟨hcsv, hcommands, houtput, hsettings⟩ := values_toFlags args
  refine ⟨hcsv, ?commits, hcommands, houtput, hsettings, ?help⟩
  case commits =>
    unfold Arguments.toFlags
    cases args.help <;> simp [Flag.commit?, Function.comp_def]
  case help =>
    unfold Arguments.toFlags
    cases args.help <;> simp [Flag.given]

/-- The words of every list of flags are read, as what the flags give: of each kind of flag the
values in their order, and of a flag that is meant once the last value.  So all flags that give the
values of some arguments, each once and interleaved in any way, are read as these arguments, and all
arguments are given by some flags. -/
theorem read_words :
    (∀ flags : List Flag, Arguments.read (flags.flatMap Flag.words) =
      .ok (collected (flags.map Flag.given) (flags.filterMap Flag.commit?))) ∧
    (∀ (args : Arguments) (flags : List Flag), Interleaves flags args →
      Arguments.read (flags.flatMap Flag.words) = .ok args) ∧
    ∀ args : Arguments, ∃ flags, Interleaves flags args := by
  refine ⟨read_flatMap_words, ?_, fun args => ⟨_, interleaves_toFlags args⟩⟩
  intro args flags h
  rw [read_flatMap_words, collected_of_interleaves h]

/-- Values that look like flags, an input with equals signs, and an output path that is given twice.
-/
theorem read_words_lookalikes :
    let first : Address := ⟨⟨1, by decide, by decide⟩, ⟨1, by decide, by decide⟩⟩
    let args : Arguments := {
      csvFile := some "-o"
      commits := [(first, "=1=1"), (first, "--set")]
      commands := ["-h", "--csv"]
      settingsFile := some "--help" }
    let words := ["-c", "-h", "--set", " A1\t==1=1", "--csv", "-o", "-s", "A1=--set",
      "--config", "--help", "--command", "--csv"]
    Arguments.read words = .ok args ∧
      Arguments.read (words ++ ["-o", "x", "--output", "y"]) =
        .ok { args with outputFile := some "y" } := by
  intro first args words
  let flags : List Flag := [.command false "-h",
    .set true ⟨" ", first, "\t", "=1=1", by decide, by decide⟩, .csv "-o",
    .set false ⟨"", first, "", "--set", by decide, by decide⟩, .settings "--help",
    .command true "--csv"]
  obtain ⟨hcollected, hread, -⟩ := read_words
  have hwords : words = flags.flatMap Flag.words := by decide +kernel
  constructor
  · rw [hwords]
    exact hread args flags ⟨rfl, rfl, rfl, rfl, rfl, by decide⟩
  · have hmore : words ++ ["-o", "x", "--output", "y"] =
        (flags ++ [Flag.output false "x", Flag.output true "y"]).flatMap Flag.words := by
      rw [hwords]
      rfl
    rw [hmore, hcollected]
    rfl

end CommandLine

end Spreadsheet
