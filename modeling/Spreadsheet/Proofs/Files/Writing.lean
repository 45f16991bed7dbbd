import Spreadsheet.Files.Basic
import Spreadsheet.Proofs.Outcomes

/-!
# Writing one file

Whether a file can be written depends on its path only (`Files.exists_write_eq_error_iff`), and when
it is, every other place of the tree has what it had before (`Files.Writable.entry?_store`).  For
the second, a place that can be written lies in a directory, so that no directory comes into being
on the way to it.
-/

namespace Spreadsheet

namespace Files

variable {files : Files} {path : String} {place : List String}

/-- The path leads to a place where a file may be stored. -/
structure Writable (files : Files) (path : String) (place : List String) : Prop where
  leads : files.follow path = .ok place
  namesFile : namesDirectory path = false
  notDirectory : files.entry? place ≠ some .directory

/-- Writing succeeds exactly where the path leads to a place for a file, and stores the content
there. -/
lemma write_eq_ok_iff {content : ByteArray} {written : Files} :
    files.write path content = .ok written ↔
      ∃ place, files.Writable path place ∧ written = files.store place content := by
  rw [write, bind_eq_ok_iff]
  refine exists_congr fun place => ⟨?_, ?_⟩
  · rintro ⟨hleads, h⟩
    split at h
    case isTrue => cases h
    case isFalse hname =>
      split at h
      case h_1 => cases h
      case h_2 hentry =>
        cases h
        exact ⟨⟨hleads, Bool.eq_false_iff.mpr hname, hentry⟩, rfl⟩
  · rintro ⟨⟨hleads, hname, hentry⟩, rfl⟩
    refine ⟨hleads, ?_⟩
    rw [if_neg (Bool.eq_false_iff.mp hname)]
    split
    case h_1 hdirectory => exact absurd hdirectory hentry
    case h_2 => rfl

/-- Writing fails exactly when the path leads to no place for a file: the content never matters. -/
lemma exists_write_eq_error_iff {content : ByteArray} :
    (∃ fault, files.write path content = .error fault) ↔ ¬∃ place, files.Writable path place := by
  cases hwrite : files.write path content with
  | ok written =>
    obtain ⟨place, hwritable, -⟩ := write_eq_ok_iff.mp hwrite
    simp only [reduceCtorEq, exists_false, false_iff, not_not]
    exact ⟨place, hwritable⟩
  | error fault =>
    refine iff_of_true ⟨fault, rfl⟩ ?_
    rintro ⟨place, hwritable⟩
    rw [write_eq_ok_iff.mpr ⟨place, hwritable, rfl⟩] at hwrite
    cases hwrite

/-! ## Where files lie -/

/-- The places that are on record: the current directory and those with an entry. -/
def recorded (files : Files) : List (List String) :=
  files.current :: files.entries.map (·.1)

/-- What is at a place is the last entry for it, or else a directory if some place on record lies
below it. -/
lemma entry?_eq (files : Files) (place : List String) :
    files.entry? place = (files.entries.reverse.lookup place).or
      (if ∃ known ∈ files.recorded, place <+: known then some .directory else none) := by
  have hany : (files.recorded.any place.isPrefixOf = true) =
      ∃ known ∈ files.recorded, place <+: known := by
    simp only [List.any_eq_true, List.isPrefixOf_iff_prefix]
  simp only [← hany]
  unfold entry? recorded
  cases files.entries.reverse.lookup place <;> rfl

/-- Where there is something, a recorded place lies at or below it. -/
lemma exists_recorded_of_entry? {e : Entry} (h : files.entry? place = some e) :
    ∃ known ∈ files.recorded, place <+: known := by
  rw [entry?_eq, Option.or_eq_some_iff] at h
  rcases h with hlookup | ⟨-, hinside⟩
  · obtain ⟨before, behind, hentries, -⟩ := List.lookup_eq_some_iff.mp hlookup
    have hmem : (place, e) ∈ files.entries := by
      rw [← List.mem_reverse, hentries]
      simp
    exact ⟨place, List.mem_cons_of_mem _ (List.mem_map_of_mem hmem), List.prefix_rfl⟩
  · split at hinside
    case isTrue hknown => exact hknown
    case isFalse => cases hinside

/-- One step along a path starts in a directory, stays there, goes up or appends a component. -/
lemma walk_cases {next : List String} {component : String}
    (h : files.walk place component = .ok next) : files.entry? place = some .directory ∧
      (component = "." ∨ component = ".." ∨ next = place ++ [component]) := by
  unfold walk at h
  split at h
  case h_1 => cases h
  case h_2 => cases h
  case h_3 hdirectory =>
    refine ⟨hdirectory, ?_⟩
    split_ifs at h with hself hup hlong
    · exact .inl hself
    · exact .inr (.inl hup)
    · exact .inr (.inr (Except.ok.inj h).symm)

/-- A path leads where its components lead one after the other, from the root or from the current
directory on. -/
lemma foldlM_of_follow (h : files.follow path = .ok place) :
    (components path).foldlM files.walk (if path.startsWith "/" then [] else files.current) =
      .ok place := by
  unfold follow at h
  split at h
  case isTrue => cases h
  case isFalse =>
    split at h
    case isTrue => cases h
    case isFalse =>
      split at h
      case isTrue => cases h
      case isFalse => exact h

/-- A place that can be written is on the way to the current directory, or in a directory. -/
lemma Writable.parent (h : files.Writable path place) : place <+: files.current ∨
    ∃ directory name, place = directory ++ [name] ∧
      files.entry? directory = some .directory := by
  have hfollow := foldlM_of_follow h.leads
  have hname := h.namesFile
  rw [namesDirectory, Bool.or_eq_false_iff] at hname
  rcases List.eq_nil_or_concat (components path) with hnil | ⟨cs, c, hcs⟩
  · rw [hnil, List.foldlM_nil] at hfollow
    left
    obtain rfl := Except.ok.inj hfollow
    split
    · exact List.nil_prefix
    · exact List.prefix_rfl
  · right
    rw [List.concat_eq_append] at hcs
    rw [hcs, List.foldlM_append, bind_eq_ok_iff] at hfollow
    obtain ⟨directory, -, hwalk⟩ := hfollow
    rw [List.foldlM_cons, bind_eq_ok_iff] at hwalk
    obtain ⟨_, hwalk, ⟨⟩⟩ := hwalk
    obtain ⟨hdirectory, rfl | rfl | hplace⟩ := walk_cases hwalk
    · simp [hcs] at hname
    · simp [hcs] at hname
    · exact ⟨directory, c, hplace, hdirectory⟩

/-- Above a place that can be written there is nothing new. -/
lemma Writable.exists_recorded (h : files.Writable path place) {other : List String}
    (hne : other ≠ place) (hinside : other <+: place) :
    ∃ known ∈ files.recorded, other <+: known := by
  rcases h.parent with hcurrent | ⟨directory, name, rfl, hdirectory⟩
  · exact ⟨_, List.mem_cons_self, hinside.trans hcurrent⟩
  · rcases List.prefix_concat_iff.mp hinside with hsame | habove
    · exact absurd hsame hne
    · obtain ⟨known, hmem, hknown⟩ := exists_recorded_of_entry? hdirectory
      exact ⟨known, hmem, habove.trans hknown⟩

/-- Writing a file changes what is at its place and nothing else. -/
lemma Writable.entry?_store (h : files.Writable path place) {other : List String}
    (hne : other ≠ place) (content : ByteArray) :
    entry? (files.store place content) other = files.entry? other := by
  have hlookup : (files.store place content).entries.reverse.lookup other =
      files.entries.reverse.lookup other := by
    rw [store, List.reverse_append, List.reverse_singleton, List.singleton_append,
      List.lookup_cons, beq_eq_false_iff_ne.mpr hne]
  have hrecorded : (∃ known ∈ (files.store place content).recorded, other <+: known) ↔
      ∃ known ∈ files.recorded, other <+: known := by
    have hsplit : (files.store place content).recorded = files.recorded ++ [place] := by
      simp [store, recorded]
    simp only [hsplit, List.mem_append, List.mem_singleton, or_and_right, exists_or,
      exists_eq_left]
    exact or_iff_left_of_imp (h.exists_recorded hne)
  rw [entry?_eq, entry?_eq, hlookup]
  simp only [hrecorded]

end Files

end Spreadsheet
