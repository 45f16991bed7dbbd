import Mathlib.Data.List.Nodup
import Spreadsheet.Proofs.Json.Numerals
import Spreadsheet.Proofs.Json.RoundTrip
import Spreadsheet.Sheet.Json

/-!
# Cells that are written and read again

A style and a cell are written as objects of those of their fields that are present. No name occurs
twice, so such an object is read as its own parts (`parts?_object_present`), and a field is looked
up among them as what it was, missing or not (`lookup_present`). Leaving a field out and taking a
missing one for nothing then cancel for each field by itself (`optional?_map`).

Main statement: the text of a cell is read as the cell exactly when its font size is missing or
finite (`ofText?_text_toJson_eq_some_iff`).
-/

namespace Spreadsheet

/-! ## Objects of fields that may be missing -/

namespace Json

/-- The members of an object with fields of which some may be missing. -/
def present (fields : List (String × Option Json)) : List (String × Json) :=
  fields.flatMap fun (name, value) => value.toList.map fun v => (name, v)

variable {fields : List (String × Option Json)} {name : String}

lemma present_cons_none : present ((name, none) :: fields) = present fields := rfl

lemma present_cons_some {v : Json} :
    present ((name, some v) :: fields) = (name, v) :: present fields := rfl

/-- The names of the members are among those of the fields, in the same order. -/
lemma map_fst_present_sublist : ((present fields).map (·.1)).Sublist (fields.map (·.1)) := by
  induction fields with
  | nil => exact .slnil
  | cons field fields ih =>
    obtain ⟨name, value⟩ := field
    cases value with
    | none => exact ih.cons name
    | some v => exact ih.cons_cons name

/-- Among the members that are written, a field with a name of its own is found as what it was. -/
lemma lookup_present (hnames : (fields.map (·.1)).Nodup) :
    (present fields).lookup name = (fields.lookup name).join := by
  induction fields with
  | nil => rfl
  | cons field fields ih =>
    obtain ⟨first, value⟩ := field
    rw [List.map_cons, List.nodup_cons] at hnames
    obtain ⟨hfirst, hrest⟩ := hnames
    by_cases hname : name = first
    · subst hname
      rw [List.lookup_cons_self]
      cases value with
      | none =>
        rw [present_cons_none, Option.join_some, List.lookup_eq_none_iff]
        intro member hmember
        have hmem := map_fst_present_sublist.subset (List.mem_map_of_mem hmember)
        rw [bne_iff_ne]
        rintro rfl
        exact hfirst hmem
      | some v => rw [present_cons_some, List.lookup_cons_self, Option.join_some]
    · have hne : (name == first) = false := beq_eq_false_iff_ne.mpr hname
      cases value with
      | none => rw [present_cons_none, List.lookup_cons, hne, ih hrest]
      | some v => rw [present_cons_some, List.lookup_cons, List.lookup_cons, hne, ih hrest]

/-- An object of fields by some of the known names is read as its members. -/
lemma parts?_object_present (hnames : (fields.map (·.1)).Nodup) :
    (object (present fields)).parts? (fields.map (·.1)) = some (present fields) := by
  have hknown : (present fields).filter (fun member => (fields.map (·.1)).contains member.1) =
      present fields := by
    rw [List.filter_eq_self]
    intro member hmember
    rw [List.contains_iff_mem]
    exact map_fst_present_sublist.subset (List.mem_map_of_mem hmember)
  have hnodup := hnames.sublist map_fst_present_sublist
  rw [← hknown] at hnodup
  exact (if_pos hnodup).trans (congrArg some hknown)

/-- A field that is left out when it is missing is read like the others. -/
lemma optional?_map {α : Type} {encode : α → Json} {read : Json → Option α} {reread : α → α}
    {field : Option α} (h : ∀ a ∈ field, encode a ≠ .null ∧ read (encode a) = some (reread a)) :
    optional? read (field.map encode) = some (field.map reread) := by
  cases field with
  | none => rfl
  | some a =>
    obtain ⟨hnull, hread⟩ := h a rfl
    rw [Option.map_some, optional?]
    · rw [hread, Option.map_some, Option.map_some]
    · simpa using hnull

/-- A text that may be missing is read as it was written. -/
lemma optional?_map_string (field : Option String) :
    optional? string? (field.map .string) = some field := by
  have hread := @optional?_map _ .string string? id field fun _ _ => ⟨by simp, rfl⟩
  rwa [Option.map_id] at hread

/-- An object of fields says something if its fields do, those that are missing apart. -/
lemma wellFormed_object_present (h : ∀ field ∈ fields, ∀ v ∈ field.2, v.WellFormed) :
    (object (present fields)).WellFormed := by
  refine .object fun member hmember => ?_
  obtain ⟨field, hfield, hmember⟩ := List.mem_flatMap.mp hmember
  obtain ⟨v, hv, rfl⟩ := List.mem_map.mp hmember
  exact h field hfield v (Option.mem_toList.mp hv)

/-! ## Font sizes -/

/-- A finite number reads back as it is written. -/
def ReadsBack (size : FontSize) : Prop :=
  size.isFinite = true → fontSize? (ofBinary size) = some size

/-- A font size is written as a number or as `null`, and a text can say both. -/
lemma wellFormed_ofBinary (size : FontSize) : (ofBinary size).WellFormed := by
  cases hfinite : size.isFinite with
  | true =>
    obtain ⟨written, hwritten, hnumber⟩ := isNumber_ofBinary hfinite
    rw [hwritten]
    exact .number hnumber
  | false =>
    rw [ofBinary_of_not_isFinite hfinite]
    exact .null

/-- A font size that is not finite is written like nothing, and read as a missing one. -/
lemma optional?_fontSize {field : Option FontSize} (h : ∀ size ∈ field, ReadsBack size) :
    optional? fontSize? (field.map ofBinary) = some (field.filter (·.isFinite)) := by
  cases field with
  | none => rfl
  | some size =>
    cases hfinite : size.isFinite with
    | false =>
      rw [Option.map_some, ofBinary_of_not_isFinite hfinite, Option.filter_some, hfinite]
      rfl
    | true =>
      obtain ⟨written, hwritten, -⟩ := isNumber_ofBinary hfinite
      have hnull : ofBinary size ≠ .null := by simp [hwritten]
      rw [Option.map_some, Option.filter_some, hfinite, if_pos rfl, optional?,
        h size rfl hfinite, Option.map_some]
      exact hnull

end Json

/-! ## Styles -/

namespace Style

/-- The fields of a style. -/
def fields (style : Style) : List (String × Option Json) :=
  [("bold", some (.bool style.bold)), ("italic", some (.bool style.italic)),
    ("underline", some (.bool style.underline)),
    ("background_color", style.backgroundColor.map .string),
    ("text_color", style.textColor.map .string),
    ("font_size", style.fontSize.map Json.ofBinary),
    ("font_family", style.fontFamily.map .string)]

/-- The style without a font size that is not finite. -/
def withFiniteSize (style : Style) : Style :=
  { style with fontSize := style.fontSize.filter (·.isFinite) }

variable {style : Style}

/-- A style is written as the object of its fields. -/
lemma toJson_eq : style.toJson = .object (Json.present style.fields) := by
  simp [toJson, fields, Json.present]

/-- The fields of a style have different names. -/
lemma nodup_fields : (style.fields.map (·.1)).Nodup := by
  simp [fields]

/-- A written style is one that a text can say. -/
lemma wellFormed_toJson : style.toJson.WellFormed := by
  rw [toJson_eq]
  refine Json.wellFormed_object_present ?_
  simp [fields, Json.WellFormed.bool, Json.WellFormed.string, Json.wellFormed_ofBinary]

/-- A style is read as it was, without a font size that is not finite. -/
lemma ofJson?_toJson (h : ∀ size ∈ style.fontSize, Json.ReadsBack size) :
    ofJson? style.toJson = some style.withFiniteSize := by
  have hparts := Json.parts?_object_present style.nodup_fields
  rw [ofJson?, toJson_eq]
  -- The names that are looked for are those of the fields.
  change ((Json.object (Json.present style.fields)).parts? (style.fields.map (·.1))).bind _ = _
  rw [hparts, Option.bind_some]
  simp only [Json.lookup_present nodup_fields]
  simp [fields, List.lookup_cons, Json.withDefault?, Json.bool?, Json.optional?_map_string,
    Json.optional?_fontSize h, withFiniteSize]

/-- A style loses nothing by dropping a font size that is not finite exactly when it has none of
that kind. -/
lemma withFiniteSize_eq_self_iff :
    style.withFiniteSize = style ↔ ∀ size ∈ style.fontSize, size.isFinite = true := by
  obtain ⟨bold, italic, underline, backgroundColor, textColor, fontSize, fontFamily⟩ := style
  cases fontSize with
  | none => simp [withFiniteSize]
  | some size => simp [withFiniteSize, Option.filter_some]

end Style

/-! ## Cells -/

namespace Cell

/-- The fields of a cell. -/
def fields (c : Cell) : List (String × Option Json) :=
  [("value", some (.string c.value)), ("formula", c.formula.map .string),
    ("style", c.style.map Style.toJson)]

/-- The font size of a cell. -/
def fontSize? (c : Cell) : Option FontSize :=
  c.style.bind Style.fontSize

/-- The cell without a font size that is not finite. -/
def withFiniteSize (c : Cell) : Cell :=
  { c with style := c.style.map Style.withFiniteSize }

variable {c : Cell}

/-- A cell is written as the object of its fields. -/
lemma toJson_eq : c.toJson = .object (Json.present c.fields) := by
  obtain ⟨value, formula, style⟩ := c
  cases formula <;> cases style <;> rfl

/-- The fields of a cell have different names. -/
lemma nodup_fields : (c.fields.map (·.1)).Nodup := by
  simp [fields]

/-- A written cell is one that a text can say. -/
lemma wellFormed_toJson : c.toJson.WellFormed := by
  rw [toJson_eq]
  refine Json.wellFormed_object_present ?_
  simp [fields, Json.WellFormed.string, Style.wellFormed_toJson]

/-- A cell is read as it was, without a font size that is not finite. -/
lemma ofJson?_toJson (h : ∀ size ∈ c.fontSize?, Json.ReadsBack size) :
    ofJson? c.toJson = some c.withFiniteSize := by
  have hparts := Json.parts?_object_present c.nodup_fields
  have hstyle : Json.optional? Style.ofJson? (c.style.map Style.toJson) =
      some (c.style.map Style.withFiniteSize) := by
    refine Json.optional?_map fun style hs => ⟨by simp [Style.toJson], ?_⟩
    refine Style.ofJson?_toJson fun size hsize => h size ?_
    exact Option.mem_bind_iff.mpr ⟨style, hs, hsize⟩
  rw [ofJson?, toJson_eq]
  change ((Json.object (Json.present c.fields)).parts? (c.fields.map (·.1))).bind _ = _
  rw [hparts, Option.bind_some]
  simp only [Json.lookup_present nodup_fields]
  simp [fields, List.lookup_cons, Json.string?, Json.optional?_map_string, hstyle, withFiniteSize]

/-- A cell loses nothing by dropping a font size that is not finite exactly when it has none of that
kind. -/
lemma withFiniteSize_eq_self_iff :
    c.withFiniteSize = c ↔ ∀ size ∈ c.fontSize?, size.isFinite = true := by
  obtain ⟨value, formula, style⟩ := c
  cases style with
  | none => simp [withFiniteSize, fontSize?]
  | some style => simp [withFiniteSize, fontSize?, Style.withFiniteSize_eq_self_iff]

/-- A cell is written so that it is read as the cell exactly when its font size, if there is one, is
finite, provided that finite numbers read back. -/
theorem ofText?_text_toJson_eq_some_iff (c : Cell)
    (hcodec : ∀ size ∈ c.fontSize?, Json.ReadsBack size) :
    ofText? c.toJson.text = some c ↔ ∀ size ∈ c.fontSize?, size.isFinite = true := by
  rw [ofText?, Json.ofText?_text wellFormed_toJson, Option.bind_some, ofJson?_toJson hcodec,
    Option.some_inj, withFiniteSize_eq_self_iff]

/-- Quotes, backslashes, control characters and what lies beyond two bytes come back, and a style
that says nothing but a font size of 12.1 does. -/
theorem ofText?_text_toJson_eq_some_iff_escapes :
    let size : FontSize := Binary.ofDecimal false ⟨121, -1⟩
    let c : Cell := ⟨"\x07\"\\\n𝄞", some "=\"\\\"&A1", some { fontSize := some size }⟩
    Json.ReadsBack size ∧ size.isFinite = true ∧ ofText? c.toJson.text = some c := by
  intro size c
  have hread : Json.ReadsBack size := fun _ => by decide +kernel
  have hfinite : size.isFinite = true := by decide +kernel
  refine ⟨hread, hfinite, (ofText?_text_toJson_eq_some_iff c ?_).mpr ?_⟩
  · intro size' hsize
    cases hsize
    exact hread
  · intro size' hsize
    cases hsize
    exact hfinite

end Cell

end Spreadsheet
