import Spreadsheet.Json.Reading
import Spreadsheet.Proofs.Json.Lexing

/-!
# Reading written JSON

The reader follows the writer: `Reads written p` says that the text `written`, whatever follows it,
takes the reader to the state `p`, and `ReadsAtEnd written p` says so of texts behind which a value
has ended. Writing a value in front of which the reader awaits one takes it to where the value is
complete (`Reread`); for arrays and objects this is an induction on what is left to be written, with
what has been read on the stack.

Main statement: the text of a well-formed value is read as the value (`ofText?_text`).
-/

namespace Spreadsheet

namespace Json

/-- A value that a text can say: its numbers are written as numbers, and no string is missing. -/
inductive WellFormed : Json → Prop where
  | null : WellFormed .null
  | bool (b : Bool) : WellFormed (.bool b)
  | number {written : String} (h : isNumber written.toList = true) : WellFormed (.number written)
  | string (content : String) : WellFormed (.string content)
  | array {items : List Json} (h : ∀ item ∈ items, WellFormed item) : WellFormed (.array items)
  | object {members : List (String × Json)} (h : ∀ member ∈ members, WellFormed member.2) :
    WellFormed (.object members)

/-! ## Where the reader is -/

/-- In front of certain texts, the text takes the reader to the state. -/
def ReadsBefore (P : List Char → Prop) (written : String) (p : Progress) : Prop :=
  ∃ tokens, SplitsBefore P written.toList tokens ∧
    tokens.foldlM Progress.take ⟨[], .value⟩ = some p

/-- The text takes the reader to the state, whatever follows. -/
abbrev Reads : String → Progress → Prop :=
  ReadsBefore fun _ => True

/-- The text takes the reader to the state, when what follows does not go on with its last
token. -/
abbrev ReadsAtEnd : String → Progress → Prop :=
  ReadsBefore Ends

variable {P Q : List Char → Prop} {before after : String} {p q : Progress} {frames : List Frame}

/-- Before anything is read, a value is awaited and nothing is open. -/
lemma reads_empty : Reads "" ⟨[], .value⟩ :=
  ⟨[], splits_nil, rfl⟩

/-- What is read whatever follows is read in front of what may stand behind a value. -/
lemma Reads.atEnd (h : Reads before p) : ReadsAtEnd before p := by
  obtain ⟨tokens, hsplits, hp⟩ := h
  exact ⟨tokens, Splits.atEnd hsplits, hp⟩

/-- What is read so far goes on with one more token, if the text splits off this token and the
reader takes it. -/
lemma ReadsBefore.take (h : ReadsBefore P before p) {token : Token}
    (hsplits : ∀ {tokens}, SplitsBefore P before.toList tokens →
      SplitsBefore Q after.toList (tokens ++ [token]))
    (htake : p.take token = some q) : ReadsBefore Q after q := by
  obtain ⟨tokens, htokens, hp⟩ := h
  refine ⟨tokens ++ [token], hsplits htokens, ?_⟩
  rw [List.foldlM_append, hp]
  simp [htake]

/-- A mark is read behind any text that ends with a token of its own. -/
lemma Reads.mark (h : Reads before p) {c : Char} {token : Token} (hc : mark? c = some token)
    (htake : p.take token = some q) : Reads (before.push c) q := by
  refine h.take (fun hsplits => ?_) htake
  rw [String.toList_push]
  exact Splits.mark hsplits hc

/-- A mark that may stand behind a value is read behind a number or a word too. -/
lemma ReadsAtEnd.mark (h : ReadsAtEnd before p) {c : Char} {token : Token}
    (hc : mark? c = some token) (hends : c ∈ [',', ']', '\x7d']) (htake : p.take token = some q) :
    Reads (before.push c) q := by
  refine h.take (fun hsplits => ?_) htake
  rw [String.toList_push]
  exact SplitsAtEnd.mark hsplits hc hends

/-- A quoted string at the end is read as the string, if the reader takes a string there. -/
lemma Reads.quote (h : Reads before p) (s : String) (htake : p.take (.string (some s)) = some q) :
    Reads (before ++ Json.quote s) q := by
  refine h.take (fun hsplits => ?_) htake
  rw [String.toList_append]
  exact Splits.quote hsplits s

/-- A number is read as it is written, if nothing goes on with it. -/
lemma Reads.number (h : Reads before p) {written : String}
    (hwritten : isNumber written.toList = true) (htake : p.take (.number written) = some q) :
    ReadsAtEnd (before ++ written) q := by
  refine h.take (fun hsplits => ?_) htake
  rw [String.toList_append]
  exact Splits.number hsplits hwritten

/-- A word is read as what it stands for, if nothing goes on with it. -/
lemma Reads.word (h : Reads before p) {word : String} {token : Token}
    (hword : word? word.toList = some token) (htake : p.take token = some q) :
    ReadsAtEnd (before ++ word) q := by
  refine h.take (fun hsplits => ?_) htake
  rw [String.toList_append]
  exact Splits.word hsplits hword

/-! ## Values -/

/-- The reader awaits a value, with the given arrays and objects open once it has begun: the first
item of an array opens the array. -/
inductive Awaits : Progress → List Frame → Prop where
  | value (frames : List Frame) : Awaits ⟨frames, .value⟩ frames
  | firstItem (frames : List Frame) : Awaits ⟨frames, .firstItem⟩ (.array [] :: frames)

/-- Where a value is awaited, every token begins one, but for the mark that closes an empty array.
-/
lemma Awaits.take (h : Awaits p frames) {token : Token} (htoken : token ≠ .closeArray) :
    p.take token = Progress.begin frames token := by
  cases h with
  | value => rfl
  | firstItem frames =>
    rw [Progress.take]
    exact if_neg htoken

/-- Where a value is awaited, the text of this one takes the reader to its end. -/
def Reread (v : Json) : Prop :=
  ∀ {before p frames}, Awaits p frames → Reads before p →
    ReadsAtEnd (writeAfter before v) ⟨frames, .separator v⟩

/-- The rest of an array is read as the items that are left, behind those on the stack. -/
lemma reads_writeItems {items : List Json} (h : ∀ item ∈ items, Reread item)
    {done : List Json} {last : Json}
    (hbefore : ReadsAtEnd before ⟨.array done :: frames, .separator last⟩) :
    Reads ((writeItems before false items).push ']')
      ⟨frames, .separator (.array (done.reverse ++ last :: items))⟩ := by
  induction items generalizing before done last with
  | nil =>
    rw [← List.reverse_cons]
    exact hbefore.mark rfl (by decide) rfl
  | cons item items ih =>
    obtain ⟨hitem, hitems⟩ := List.forall_mem_cons.mp h
    have hcomma : Reads (before.push ',') ⟨.array (last :: done) :: frames, .value⟩ :=
      hbefore.mark rfl (by decide) rfl
    have hrest := ih hitems (hitem (.value _) hcomma)
    rwa [List.reverse_cons, List.append_assoc, List.singleton_append] at hrest

/-- A name with its colon, where a name is awaited. -/
lemma Reads.named (h : Reads before p) {members : Members} {name : String}
    (hname : p.take (.string (some name)) = some ⟨frames, .colon members (some name)⟩) :
    Reads (before ++ Json.quote name ++ ":") ⟨.object members (some name) :: frames, .value⟩ :=
  (h.quote name hname).mark rfl rfl

/-- The rest of an object is read as the members that are left, behind those on the stack. -/
lemma reads_writeMembers {members : List (String × Json)} (h : ∀ member ∈ members, Reread member.2)
    {done : List (String × Json)} {name : String} {value : Json}
    (hbefore : ReadsAtEnd before ⟨.object (some done) (some name) :: frames, .separator value⟩) :
    Reads ((writeMembers before false members).push '\x7d')
      ⟨frames, .separator (.object (done.reverse ++ (name, value) :: members))⟩ := by
  induction members generalizing before done name value with
  | nil =>
    rw [← List.reverse_cons]
    exact hbefore.mark rfl (by decide) rfl
  | cons member members ih =>
    obtain ⟨nextName, nextValue⟩ := member
    obtain ⟨hmember, hmembers⟩ := List.forall_mem_cons.mp h
    have hcomma : Reads (before.push ',') ⟨frames, .nextName (some ((name, value) :: done))⟩ :=
      hbefore.mark rfl (by decide) rfl
    have hnamed : Reads (before.push ',' ++ Json.quote nextName ++ ":")
        ⟨.object (some ((name, value) :: done)) (some nextName) :: frames, .value⟩ :=
      hcomma.named rfl
    have hrest := ih hmembers (hmember (.value _) hnamed)
    rwa [List.reverse_cons, List.append_assoc, List.singleton_append] at hrest

/-- A well-formed value is read where it is written. -/
lemma WellFormed.reread {v : Json} (hv : v.WellFormed) : Reread v := by
  induction hv with
  | null => exact fun hp h => h.word rfl (hp.take (by decide))
  | bool b =>
    intro before p frames hp h
    cases b with
    | true => exact h.word rfl (hp.take (by decide))
    | false => exact h.word rfl (hp.take (by decide))
  | number hwritten => exact fun hp h => h.number hwritten (hp.take (by simp))
  | string content => exact fun hp h => (h.quote content (hp.take (by simp))).atEnd
  | @array items _ ih =>
    intro before p frames hp h
    have hopen : Reads (before.push '[') ⟨frames, .firstItem⟩ := h.mark rfl (hp.take (by decide))
    cases items with
    | nil => exact (hopen.mark rfl rfl).atEnd
    | cons item items =>
      obtain ⟨hitem, hitems⟩ := List.forall_mem_cons.mp ih
      exact (reads_writeItems hitems (hitem (.firstItem _) hopen)).atEnd
  | @object members _ ih =>
    intro before p frames hp h
    have hopen : Reads (before.push '\x7b') ⟨frames, .firstName⟩ :=
      h.mark rfl (hp.take (by decide))
    cases members with
    | nil => exact (hopen.mark rfl rfl).atEnd
    | cons member members =>
      obtain ⟨name, value⟩ := member
      obtain ⟨hmember, hmembers⟩ := List.forall_mem_cons.mp ih
      exact (reads_writeMembers hmembers (hmember (.value _) (hopen.named rfl))).atEnd

/-- The text of a well-formed value is read as the value. -/
theorem ofText?_text {v : Json} (hv : v.WellFormed) : ofText? v.text = some v := by
  obtain ⟨tokens, hsplits, hp⟩ := hv.reread (.value []) reads_empty
  have htokens : tokens? v.text = some tokens := by
    have hend := hsplits [] ends_nil
    rwa [List.append_nil, tokensAfter, List.reverse_reverse] at hend
  rw [ofText?, htokens]
  simp [hp]

end Json

end Spreadsheet
