import Mathlib.Data.List.Forall2
import Mathlib.Data.List.Induction
import Spreadsheet.CommandLine.Arguments
import Spreadsheet.Proofs.Grid.Spelling
import Spreadsheet.Proofs.Outcomes

/-!
# What the words of a command line say

Reading passes over the words once and keeps what it has read so far.  Here the words are first
taken as a list of options, each with its value (`CommandLine.Gives`), and what is asked for is
then said of that list as a whole (`CommandLine.collected`): each kind of option has its values, in
their order, however it is interleaved with the others.  Reading succeeds exactly on the words that
give options whose assignments all read, and gives what is collected from them
(`CommandLine.read_eq_ok_iff`).
-/

namespace Spreadsheet

namespace CommandLine

/-! ## Assignments -/

/-- The value of an assignment is the address, perhaps within white space, an equals sign and the
input, which may hold more equals signs. -/
def Assigns (value : String) (commit : Address × String) : Prop :=
  ∃ spot, value = spot ++ "=" ++ commit.2 ∧ '=' ∉ spot.toList ∧ Text.trim spot = commit.1.text

/-- An address is read from its own text and from no other. -/
lemma ofText_eq_ok_iff {t : String} {a : Address} : Address.ofText t = .ok a ↔ t = a.text := by
  rw [@eq_comm _ t, ← Address.ofText?_eq_some_iff, Address.ofText]
  cases Address.ofText? t <;> simp

/-- An assignment is read at its first equals sign. -/
lemma assignment_append_equals {spot input : List Char} (h : '=' ∉ spot)
    {commit : Address × String} :
    assignment (String.ofList (spot ++ '=' :: input)) = .ok commit ↔
      Text.trim (String.ofList spot) = commit.1.text ∧ String.ofList input = commit.2 := by
  simp only [assignment, String.toList_ofList, Text.dropWhile_ne_append h,
    Text.takeWhile_ne_append h]
  rw [← ofText_eq_ok_iff]
  cases Address.ofText (Text.trim (String.ofList spot)) with
  | ok a => simp [Prod.ext_iff]
  | error cause => simp

/-- Without an equals sign there is no assignment, and the error shows the whole value. -/
lemma assignment_of_equals_notMem {value : String} (h : '=' ∉ value.toList) :
    assignment value = .error (.noAssignment value) := by
  simp only [assignment, Text.dropWhile_ne_eq_nil h]

/-- An assignment is read exactly from the values that assign, and as what they assign. -/
lemma assignment_eq_ok_iff {value : String} {commit : Address × String} :
    assignment value = .ok commit ↔ Assigns value commit := by
  constructor
  · intro h
    by_cases hmem : '=' ∈ value.toList
    · obtain ⟨spot, input, hvalue, hspot⟩ := List.eq_append_cons_of_mem hmem
      obtain rfl : value = String.ofList (spot ++ '=' :: input) := by
        rw [← hvalue, String.ofList_toList]
      obtain ⟨htrim, hinput⟩ := (assignment_append_equals hspot).mp h
      refine ⟨String.ofList spot, ?_, by rwa [String.toList_ofList], htrim⟩
      rw [← hinput, ← String.toList_inj]
      simp
    · rw [assignment_of_equals_notMem hmem] at h
      cases h
  · rintro ⟨spot, hvalue, hspot, htrim⟩
    obtain rfl : value = String.ofList (spot.toList ++ '=' :: commit.2.toList) := by
      rw [hvalue, ← String.toList_inj]
      simp
    rw [assignment_append_equals hspot, String.ofList_toList, String.ofList_toList]
    exact ⟨htrim, rfl⟩

/-! ## Options -/

/-- One option of a command line. -/
inductive Given where
  | help
  | valued (option : ValueOption) (value : String)
deriving DecidableEq

/-- The words give the options, each in one of its spellings; the word behind an option that takes a
value is the value, whatever it looks like. -/
inductive Gives : List String → List Given → Prop
  | nil : Gives [] []
  | help {word : String} {words : List String} {given : List Given} (spelled : isHelp word = true)
      (rest : Gives words given) : Gives (word :: words) (.help :: given)
  | valued {word value : String} {words : List String} {option : ValueOption} {given : List Given}
      (spelled : ValueOption.ofText? word = some option) (rest : Gives words given) :
      Gives (word :: value :: words) (.valued option value :: given)

/-- The value that an option has as an option of a certain kind. -/
def Given.valueOf? (option : ValueOption) : Given → Option String
  | .help => none
  | .valued o value => if o = option then some value else none

/-- The values of the options of one kind, in their order. -/
def values (option : ValueOption) (given : List Given) : List String :=
  given.filterMap (Given.valueOf? option)

/-- What options ask for when their assignments make the commits. -/
def collected (given : List Given) (commits : List (Address × String)) : Arguments where
  csvFile := (values .csv given).getLast?
  commits := commits
  commands := values .command given
  outputFile := (values .output given).getLast?
  settingsFile := (values .settings given).getLast?
  help := given.contains .help

/-- The words are a command line that asks for the arguments. -/
def Asks (words : List String) (args : Arguments) : Prop :=
  ∃ given commits, Gives words given ∧ List.Forall₂ Assigns (values .commit given) commits ∧
    args = collected given commits

/-! ## Reading word by word -/

/-- The arguments with one more option. -/
def Arguments.take (args : Arguments) : Given → Except ArgumentError Arguments
  | .help => .ok { args with help := true }
  | .valued option value => args.add option value

variable {given : List Given} {commits : List (Address × String)}

/-- An option at the end adds its value at the end of the values of its kind, and nothing to those
of another kind. -/
lemma values_concat (option : ValueOption) (given : List Given) (g : Given) :
    values option (given ++ [g]) = values option given ++ (g.valueOf? option).toList := by
  rw [values, List.filterMap_append]
  cases h : g.valueOf? option <;> simp [values, h]

/-- One more option adds its value to the values of its kind. -/
lemma take_collected {g : Given} {args : Arguments} :
    (collected given commits).take g = .ok args ↔
      ∃ more, List.Forall₂ Assigns (g.valueOf? .commit).toList more ∧
        args = collected (given ++ [g]) (commits ++ more) := by
  cases g with
  | help =>
    simp [Arguments.take, collected, values_concat, Given.valueOf?, List.forall₂_nil_left_iff,
      eq_comm]
  | valued option value =>
    cases option with
    | commit =>
      simp only [Arguments.take, Arguments.add, Given.valueOf?, if_true, Option.toList_some,
        List.forall₂_cons_left_iff, List.forall₂_nil_left_iff, bind_eq_ok_iff,
        assignment_eq_ok_iff]
      simp [collected, values_concat, Given.valueOf?, eq_comm, pure, Except.pure]
    | csv | command | output | settings =>
      simp [Arguments.take, Arguments.add, collected, values_concat, Given.valueOf?,
        List.forall₂_nil_left_iff, eq_comm]

/-- A list that is related to two parts one after the other is split like them. -/
lemma forall₂_append_iff {α β : Type} {r : α → β → Prop} {xs ys : List α} {zs : List β} :
    List.Forall₂ r (xs ++ ys) zs ↔
      ∃ us vs, List.Forall₂ r xs us ∧ List.Forall₂ r ys vs ∧ zs = us ++ vs := by
  induction xs generalizing zs with
  | nil => simp [List.forall₂_nil_left_iff]
  | cons x xs ih =>
    simp only [List.cons_append, List.forall₂_cons_left_iff, ih]
    constructor
    · rintro ⟨z, _, hz, ⟨us, vs, hus, hvs, rfl⟩, rfl⟩
      exact ⟨z :: us, vs, ⟨z, us, hz, hus, rfl⟩, hvs, rfl⟩
    · rintro ⟨_, vs, ⟨z, us, hz, hus, rfl⟩, hvs, rfl⟩
      exact ⟨z, us ++ vs, hz, ⟨us, vs, hus, hvs, rfl⟩, rfl⟩

/-- Options taken one after the other are collected. -/
lemma foldlM_take_eq_ok_iff {args : Arguments} : given.foldlM Arguments.take {} = .ok args ↔
    ∃ commits, List.Forall₂ Assigns (values .commit given) commits ∧
      args = collected given commits := by
  induction given using List.reverseRecOn generalizing args with
  | nil => simp [values, collected, List.forall₂_nil_left_iff, pure, Except.pure, eq_comm]
  | append_singleton given g ih =>
    rw [List.foldlM_append, bind_eq_ok_iff]
    simp only [ih, List.foldlM_cons, List.foldlM_nil, bind_pure, values_concat,
      forall₂_append_iff]
    constructor
    · rintro ⟨_, ⟨commits, hcommits, rfl⟩, hg⟩
      obtain ⟨more, hmore, rfl⟩ := take_collected.mp hg
      exact ⟨commits ++ more, ⟨commits, more, hcommits, hmore, rfl⟩, rfl⟩
    · rintro ⟨_, ⟨commits, more, hcommits, hmore, rfl⟩, rfl⟩
      exact ⟨_, ⟨commits, hcommits, rfl⟩, take_collected.mpr ⟨more, hmore, rfl⟩⟩

/-- A word that asks for help is no option with a value. -/
lemma ofText?_of_isHelp {word : String} (h : isHelp word = true) :
    ValueOption.ofText? word = none := by
  rw [isHelp, Bool.or_eq_true, beq_iff_eq, beq_iff_eq] at h
  rcases h with rfl | rfl <;> rfl

/-- No words give no options: neither flags nor commits can come from an empty line. -/
lemma gives_nil_iff : Gives [] given ↔ given = [] := by
  constructor
  · rintro ⟨⟩
    rfl
  · rintro rfl
    exact .nil

/-- A word that asks for help gives this option in front of what the other words give. -/
lemma gives_help_iff {word : String} {words : List String} (h : isHelp word = true) :
    Gives (word :: words) given ↔ ∃ rest, Gives words rest ∧ given = .help :: rest := by
  constructor
  · rintro (_ | ⟨-, hrest⟩ | ⟨hvalued, -⟩)
    · exact ⟨_, hrest, rfl⟩
    · rw [ofText?_of_isHelp h] at hvalued
      cases hvalued
  · rintro ⟨rest, hrest, rfl⟩
    exact .help h hrest

/-- An option with a value takes the next word as its value, and gives nothing where no word is
left. -/
lemma gives_valued_iff {word : String} {words : List String} {option : ValueOption}
    (h : ValueOption.ofText? word = some option) :
    Gives (word :: words) given ↔ ∃ value behind rest, words = value :: behind ∧
      Gives behind rest ∧ given = .valued option value :: rest := by
  constructor
  · rintro (_ | ⟨hhelp, -⟩ | ⟨hvalued, hrest⟩)
    · rw [ofText?_of_isHelp hhelp] at h
      cases h
    · obtain rfl := Option.some.inj (h.symm.trans hvalued)
      exact ⟨_, _, _, rfl, hrest, rfl⟩
  · rintro ⟨value, behind, rest, rfl, hrest, rfl⟩
    exact .valued h hrest

/-- Words that start with anything but an option are no command line. -/
lemma not_gives_of_unknown {word : String} {words : List String} (hhelp : ¬isHelp word = true)
    (hvalued : ValueOption.ofText? word = none) : ¬Gives (word :: words) given := by
  rintro (_ | ⟨h, -⟩ | ⟨h, -⟩)
  · exact hhelp h
  · rw [hvalued] at h
    cases h

/-- Reading takes the options that the words give, one after the other. -/
lemma readAfter_eq_ok_iff {words : List String} {args result : Arguments} :
    Arguments.readAfter args words = .ok result ↔
      ∃ given, Gives words given ∧ given.foldlM Arguments.take args = .ok result := by
  fun_induction Arguments.readAfter args words with
  | case1 args => simp [gives_nil_iff, pure, Except.pure]
  | case2 args word words hhelp ih =>
    rw [ih]
    simp only [gives_help_iff hhelp]
    constructor
    · rintro ⟨rest, hrest, htake⟩
      exact ⟨_, ⟨rest, hrest, rfl⟩, htake⟩
    · rintro ⟨_, ⟨rest, hrest, rfl⟩, htake⟩
      exact ⟨rest, hrest, htake⟩
  | case3 args word words hhelp hunknown =>
    simp [not_gives_of_unknown hhelp hunknown]
  | case4 args word hhelp option hvalued =>
    simp [gives_valued_iff hvalued]
  | case5 args word hhelp option hvalued value words next hadd ih =>
    rw [ih]
    simp only [gives_valued_iff hvalued]
    constructor
    · rintro ⟨rest, hrest, htake⟩
      refine ⟨_, ⟨value, words, rest, rfl, hrest, rfl⟩, ?_⟩
      rw [List.foldlM_cons, bind_eq_ok_iff]
      exact ⟨next, hadd, htake⟩
    · rintro ⟨_, ⟨_, _, rest, ⟨⟩, hrest, rfl⟩, htake⟩
      rw [List.foldlM_cons, bind_eq_ok_iff] at htake
      obtain ⟨next', hadd', htake⟩ := htake
      obtain rfl := Except.ok.inj (hadd.symm.trans hadd')
      exact ⟨rest, hrest, htake⟩
  | case6 args word hhelp option hvalued value words e hadd =>
    have htake : args.take (.valued option value) = .error e := hadd
    simp only [gives_valued_iff hvalued, reduceCtorEq, false_iff]
    rintro ⟨_, ⟨_, _, rest, ⟨⟩, hrest, rfl⟩, hfold⟩
    rw [List.foldlM_cons, htake] at hfold
    cases hfold

/-- Reading succeeds exactly on the words that ask for something, and gives what they ask for. -/
theorem read_eq_ok_iff {words : List String} {args : Arguments} :
    Arguments.read words = .ok args ↔ Asks words args := by
  rw [Arguments.read, readAfter_eq_ok_iff]
  simp only [foldlM_take_eq_ok_iff]
  constructor
  · rintro ⟨given, hgives, commits, hcommits, rfl⟩
    exact ⟨given, commits, hgives, hcommits, rfl⟩
  · rintro ⟨given, commits, hgives, hcommits, rfl⟩
    exact ⟨given, hgives, commits, hcommits, rfl⟩

end CommandLine

end Spreadsheet
