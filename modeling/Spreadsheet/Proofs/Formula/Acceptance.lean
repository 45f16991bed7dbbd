import Spreadsheet.Proofs.Formula.Grammar
import Spreadsheet.Proofs.Outcomes

/-!
# Reading accepts exactly the grammar

The reader of `Formula.Reading` keeps a stack of open constructs.  The main result is that it
accepts exactly the token lists that the grammar derives within the limits, and builds the tree of
the derivation: `Expr.ofTokens_eq_ok_iff` on tokens, and on texts
`Expr.ofText_eq_ok_iff_derives`, which adds that no token list has two trees.

Both directions rest on `Admits`, the condition under which the innermost open construct takes an
operand of some level as it stands.

* Soundness follows the tokens.  `Opened` says which tokens leave which constructs open, and
  `Consumed` extends it by what the reader awaits; every token preserves it
  (`Consumed.take`).  Completing operands moves tokens from the open constructs into the operand.
* Completeness follows the derivation.  After the tokens of a phrase the reader need not have
  completed its tree, but it holds an operand that completes to that tree (`Progress.Holds`).
-/

namespace Spreadsheet

namespace Formula

/-! ## Phrases within the limits -/

section Reading

variable {limits : Limits}

/-- Inside `depth` open constructs, `calls` of them calls, the tokens are a phrase that keeps to the
limits. -/
def Fits (limits : Limits) (depth calls level : Nat) (ts : List Token) (e : Expr) : Prop :=
  ∃ d c, Derives level ts e d c ∧ depth + d ≤ limits.maxDepth ∧
    (limits.nestedCalls = true ∨ calls + c ≤ 1)

/-- A phrase also stands where a looser one may. -/
lemma Fits.of_le {depth calls k l : Nat} {ts : List Token} {e : Expr}
    (h : Fits limits depth calls k ts e) (hl : l ≤ k) : Fits limits depth calls l ts e := by
  obtain ⟨d, c, hder, hd, hc⟩ := h
  exact ⟨d, c, hder.of_le hl, hd, hc⟩

/-- Two phrases side by side nest calls as deeply as the deeper one. -/
lemma calls_max_le {calls c c' : Nat} (hc : limits.nestedCalls = true ∨ calls + c ≤ 1)
    (hc' : limits.nestedCalls = true ∨ calls + c' ≤ 1) :
    limits.nestedCalls = true ∨ calls + max c c' ≤ 1 := by
  rcases hc with hn | hc
  · exact Or.inl hn
  · exact hc'.imp id fun hc' => by omega

/-- The innermost open construct takes an operand of the given level as it stands. -/
def Admits (level : Nat) : List Frame → Prop
  | .unary _ :: _ => 4 ≤ level
  | .binary op _ :: _ => op.level < level
  | _ => True

/-- Every operator binds looser than a sign. -/
lemma BinaryOp.level_lt_four (op : BinaryOp) : op.level < 4 := by
  cases op <;> simp [BinaryOp.level]

/-- A signed operand is taken wherever an operand may stand. -/
lemma admits_four (frames : List Frame) : Admits 4 frames := by
  match frames with
  | [] => trivial
  | .binary op _ :: _ => exact op.level_lt_four
  | .unary _ :: _ => exact Nat.le_refl 4
  | .paren :: _ => trivial
  | .call _ _ :: _ => trivial

/-- A tighter operand is taken where a looser one is. -/
lemma Admits.of_le {k l : Nat} {frames : List Frame} (h : Admits k frames) (hl : k ≤ l) :
    Admits l frames := by
  match frames with
  | [] => trivial
  | .binary op _ :: _ => exact Nat.lt_of_lt_of_le h hl
  | .unary _ :: _ => exact Nat.le_trans h hl
  | .paren :: _ => trivial
  | .call _ _ :: _ => trivial

/-- Nothing is completed where the innermost construct takes the operand as it stands. -/
lemma complete_of_admits {level depth : Nat} {frames : List Frame} {e : Expr}
    (hl : level < 4) (h : Admits level frames) :
    Progress.complete level frames depth e = (frames, depth, e) := by
  match frames with
  | [] => rfl
  | .binary op left :: frames =>
    have hop : ¬level ≤ op.level := Nat.not_le_of_lt h
    simp only [Progress.complete, if_neg hop]
  | .unary _ :: _ => exact absurd h (Nat.not_le_of_lt hl)
  | .paren :: _ => rfl
  | .call _ _ :: _ => rfl

/-! ## Soundness -/

/-- The tokens of the arguments of an open call, up to the comma behind the last of them. -/
def FitsArguments (limits : Limits) (depth calls : Nat) (ts : List Token) (es : List Expr) : Prop :=
  ts = [] ∧ es = [] ∨ ∃ us d c, ts = us ++ [.comma] ∧ DerivesArguments us es d c ∧
    depth + d ≤ limits.maxDepth ∧ (limits.nestedCalls = true ∨ calls + c ≤ 1)

/-- The tokens leave these constructs open, at this depth and with this number of open calls. -/
inductive Opened (limits : Limits) : List Token → List Frame → Nat → Nat → Prop where
  | start : Opened limits [] [] 0 0
  | sign {op : BinaryOp} {sign : UnaryOp} {ts : List Token} {frames : List Frame}
    {depth calls : Nat} (spelling : op.sign? = some sign)
    (outer : Opened limits ts frames depth calls) (room : depth < limits.maxDepth) :
    Opened limits (ts ++ [.operator op]) (.unary sign :: frames) (depth + 1) calls
  | paren {ts : List Token} {frames : List Frame} {depth calls : Nat}
    (outer : Opened limits ts frames depth calls) (room : depth < limits.maxDepth) :
    Opened limits (ts ++ [.openParen]) (.paren :: frames) (depth + 1) calls
  | binary {op : BinaryOp} {ts us : List Token} {left : Expr} {frames : List Frame}
    {depth calls : Nat} (outer : Opened limits ts frames depth calls)
    (admits : Admits op.level frames) (operand : Fits limits depth calls op.level us left) :
    Opened limits (ts ++ us ++ [.operator op]) (.binary op left :: frames) depth calls
  | call {name : String} {ts us : List Token} {args : List Expr} {frames : List Frame}
    {depth calls : Nat} (outer : Opened limits ts frames depth calls)
    (room : depth < limits.maxDepth) (leave : limits.nestedCalls = true ∨ calls = 0)
    (before : FitsArguments limits (depth + 1) (calls + 1) us args.reverse) :
    Opened limits (ts ++ .name name :: .openParen :: us) (.call name args :: frames) (depth + 1)
      (calls + 1)

/-- Completing an operand moves tokens from the open constructs into it, and stops where the
innermost construct left takes an operand of the level asked for. -/
lemma Opened.complete {l k depth calls : Nat} {ts us : List Token} {frames : List Frame}
    {e : Expr} (h : Opened limits ts frames depth calls)
    (he : Fits limits depth calls k us e) (hk : Admits k frames) (hl : l ≤ k)
    (hlevel : l ≤ 3) :
    ∃ ts' us' frames' depth' e', Progress.complete l frames depth e = (frames', depth', e') ∧
      ts ++ us = ts' ++ us' ∧ Opened limits ts' frames' depth' calls ∧
      Fits limits depth' calls l us' e' ∧ Admits l frames' := by
  induction h generalizing k us e with
  | start => exact ⟨[], us, [], 0, e, rfl, rfl, .start, he.of_le hl, trivial⟩
  | @sign op sign ts frames depth calls spelling outer room ih =>
    -- A sign is always complete, and then stands wherever a signed phrase may.
    obtain ⟨d, c, hder, hd, hc⟩ := he
    have hsigned : Fits limits depth calls 4 (.operator op :: us) (.unary sign e) :=
      ⟨d + 1, c, .signed spelling (hder.of_le hk), by omega, hc⟩
    obtain ⟨ts', us', frames', depth', e', heq, happ, rest⟩ :=
      ih hsigned (admits_four frames) (by omega)
    refine ⟨ts', us', frames', depth', e', ?_, ?_, rest⟩
    · rw [← heq]
      rfl
    · rw [← happ, List.append_assoc, List.singleton_append]
  | paren outer room ih => exact ⟨_, us, _, _, e, rfl, rfl, .paren outer room, he.of_le hl, trivial⟩
  | @binary op ts vs left frames depth calls outer admits operand ih =>
    by_cases hop : l ≤ op.level
    · obtain ⟨d, c, hder, hd, hc⟩ := he
      obtain ⟨d', c', hder', hd', hc'⟩ := operand
      have hboth : Fits limits depth calls op.level (vs ++ .operator op :: us)
          (.binary op left e) := by
        have hmax : depth + max d' d ≤ limits.maxDepth := by omega
        exact ⟨_, _, .binary op hder' (hder.of_le hk), hmax, calls_max_le hc' hc⟩
      obtain ⟨ts', us', frames', depth', e', heq, happ, rest⟩ := ih hboth admits hop
      refine ⟨ts', us', frames', depth', e', ?_, ?_, rest⟩
      · rw [← heq, Progress.complete, if_pos hop]
      · rw [← happ]
        simp
    · refine ⟨_, us, _, _, e, ?_, rfl, .binary outer admits operand, he.of_le hl, ?_⟩
      · rw [Progress.complete, if_neg hop]
      · exact Nat.lt_of_not_le hop
  | call outer room leave before ih =>
    exact ⟨_, us, _, _, e, rfl, rfl, .call outer room leave before, he.of_le hl, trivial⟩

/-- A construct is opened exactly when the depth leaves room for it. -/
lemma Progress.enter_eq_ok_iff {p q : Progress} {frame : Frame} {awaiting : Awaiting} :
    p.enter limits frame awaiting = .ok q ↔ p.depth < limits.maxDepth ∧
      q = { p with frames := frame :: p.frames, depth := p.depth + 1, awaiting } := by
  unfold Progress.enter
  split
  case isTrue room =>
    rw [Except.ok.injEq, eq_comm]
    exact (and_iff_right room).symm
  case isFalse room =>
    constructor
    · intro h
      cases h
    · rintro ⟨h, -⟩
      exact absurd h room

/-- The tokens read so far, against what the reader awaits. -/
def Consumed (limits : Limits) (ts : List Token) (p : Progress) : Prop :=
  match p.awaiting with
  | .operand => Opened limits ts p.frames p.depth p.calls
  | .arguments name => ∃ us, ts = us ++ [.name name] ∧ Opened limits us p.frames p.depth p.calls
  | .firstArgument =>
    Opened limits ts p.frames p.depth p.calls ∧ ∃ name frames, p.frames = .call name [] :: frames
  | .colonOrNext a => ∃ us, ts = us ++ [.cell a] ∧ Opened limits us p.frames p.depth p.calls
  | .corner a => ∃ us, ts = us ++ [.cell a, .colon] ∧ Opened limits us p.frames p.depth p.calls
  | .next e => ∃ us vs, ts = us ++ vs ∧ Opened limits us p.frames p.depth p.calls ∧
      Fits limits p.depth p.calls 5 vs e
  | .nothing e => ∃ us, ts = us ++ [.endOfText] ∧ Fits limits 0 0 0 us e

/-- What is open keeps to the limits. -/
lemma Opened.within {ts : List Token} {frames : List Frame} {depth calls : Nat}
    (h : Opened limits ts frames depth calls) :
    depth ≤ limits.maxDepth ∧ (limits.nestedCalls = true ∨ calls ≤ 1) := by
  induction h with
  | start => exact ⟨Nat.zero_le _, Or.inr (Nat.zero_le _)⟩
  | sign _ _ room ih => exact ⟨room, ih.2⟩
  | paren _ room ih => exact ⟨room, ih.2⟩
  | binary _ _ _ ih => exact ih
  | call _ room leave => exact ⟨room, leave.imp id fun h => by omega⟩

/-- An operand of a single token fits wherever it stands. -/
lemma Opened.fits {ts us : List Token} {e : Expr} {frames : List Frame} {depth calls : Nat}
    (h : Opened limits ts frames depth calls) (he : Derives 5 us e 0 0) :
    Fits limits depth calls 5 us e :=
  ⟨0, 0, he, h.within.1, h.within.2⟩

/-- A token that is taken as an operand, or in front of one, continues what was read. -/
lemma Consumed.takeOperand {ts : List Token} {p q : Progress} {found : Placed}
    (h : Opened limits ts p.frames p.depth p.calls) (hq : p.takeOperand limits found = .ok q) :
    Consumed limits (ts ++ [found.token]) q := by
  unfold Progress.takeOperand at hq
  split at hq
  case h_1 value htok =>
    cases hq
    exact ⟨ts, [.number value], by rw [htok], h, h.fits (.number value)⟩
  case h_2 content htok =>
    cases hq
    exact ⟨ts, [.text content], by rw [htok], h, h.fits (.text content)⟩
  case h_3 address htok =>
    cases hq
    exact ⟨ts, by rw [htok], h⟩
  case h_4 name htok =>
    cases hq
    exact ⟨ts, by rw [htok], h⟩
  case h_5 htok =>
    obtain ⟨room, rfl⟩ := Progress.enter_eq_ok_iff.mp hq
    rw [htok]
    exact Opened.paren h room
  case h_6 op htok =>
    split at hq
    case h_1 sign hsign =>
      obtain ⟨room, rfl⟩ := Progress.enter_eq_ok_iff.mp hq
      rw [htok]
      exact Opened.sign hsign h room
    case h_2 => cases hq
  case h_7 => cases hq

/-- The arguments of an open call together with the last one. -/
lemma FitsArguments.snoc {depth calls : Nat} {ts us : List Token} {es : List Expr} {e : Expr}
    (h : FitsArguments limits depth calls ts es) (he : Fits limits depth calls 0 us e) :
    ∃ d c, DerivesArguments (ts ++ us) (es ++ [e]) d c ∧ depth + d ≤ limits.maxDepth ∧
      (limits.nestedCalls = true ∨ calls + c ≤ 1) := by
  obtain ⟨d, c, hder, hd, hc⟩ := he
  rcases h with ⟨rfl, rfl⟩ | ⟨vs, d', c', rfl, hargs, hd', hc'⟩
  · exact ⟨d, c, .one hder, hd, hc⟩
  · refine ⟨max d' d, max c' c, ?_, by omega, calls_max_le hc' hc⟩
    rw [List.append_assoc, List.singleton_append]
    exact .more hargs hder

/-- A token that is taken behind an operand continues what was read, where it completes the phrases
that the operand ends. -/
lemma Consumed.takeNext {ts us : List Token} {e : Expr} {p q : Progress} {found : Placed}
    (h : Opened limits ts p.frames p.depth p.calls) (he : Fits limits p.depth p.calls 5 us e)
    (hq : p.takeNext e found = .ok q) :
    Consumed limits (ts ++ us ++ [found.token]) q := by
  obtain ⟨frames, depth, calls, awaiting⟩ := p
  have hadmits : Admits 5 frames := (admits_four frames).of_le (by omega)
  unfold Progress.takeNext at hq
  split at hq
  case h_1 op htok =>
    have hop := op.level_lt_four
    obtain ⟨ts', us', frames', depth', e', heq, happ, hopen, hfits, hadm⟩ :=
      h.complete he hadmits (l := op.level) (by omega) (by omega)
    rw [heq] at hq
    cases hq
    rw [htok, happ]
    exact Opened.binary hopen hadm hfits
  case h_2 htok =>
    obtain ⟨ts', us', frames', depth', e', heq, happ, hopen, hfits, -⟩ :=
      h.complete he hadmits (l := 0) (by omega) (by omega)
    rw [heq] at hq
    rw [happ]
    split at hq
    case h_1 outside d₀ e'' heq' htok' =>
      cases heq'
      cases hq
      cases hopen with
      | paren outer room =>
        obtain ⟨d, c, hder, hd, hc⟩ := hfits
        exact ⟨_, .openParen :: us' ++ [.closeParen], by simp [htok'], outer, d + 1, c,
          .paren hder, by dsimp only; omega, hc⟩
    case h_2 name args outside d₀ e'' heq' htok' =>
      cases heq'
      cases hq
      cases hopen with
      | @call _ ts₀ before _ _ depth₀ calls₀ outer room leave hbefore =>
        obtain ⟨d, c, hargs, hd, hc⟩ := hbefore.snoc hfits
        have hcall : calls₀ + 1 + c ≤ 1 → calls₀ + (c + 1) ≤ 1 := by omega
        refine ⟨ts₀, .name name :: .openParen :: (before ++ us') ++ [.closeParen],
          by simp [htok'], outer, d + 1, c + 1, ?_, by dsimp only; omega, hc.imp id hcall⟩
        simpa using Derives.call name hargs
    case h_3 name args outside d₀ e'' heq' htok' =>
      cases heq'
      cases hq
      cases hopen with
      | @call _ ts₀ before _ _ _ _ outer room leave hbefore =>
        obtain ⟨d, c, hargs, hd, hc⟩ := hbefore.snoc hfits
        have hopened := @Opened.call limits name _ _ (e' :: args) _ _ _ outer room leave
          (Or.inr ⟨before ++ us', d, c, rfl, by simpa using hargs, hd, hc⟩)
        simpa [Consumed, htok'] using hopened
    case h_4 d₀ e'' heq' htok' =>
      cases heq'
      cases hq
      cases hopen with
      | start => exact ⟨us', by simp [htok'], hfits⟩
    case h_5 => cases hq

/-- One more token preserves what is known of the tokens read. -/
lemma Consumed.take {ts : List Token} {p q : Progress} {found : Placed}
    (h : Consumed limits ts p) (hq : p.take limits found = .ok q) :
    Consumed limits (ts ++ [found.token]) q := by
  obtain ⟨frames, depth, calls, awaiting⟩ := p
  cases awaiting with
  | operand => exact Consumed.takeOperand (p := ⟨frames, depth, calls, .operand⟩) h hq
  | arguments name =>
    obtain ⟨us, rfl, hopen⟩ := h
    simp only [Progress.take] at hq
    split at hq
    case isTrue htok =>
      split at hq
      case isTrue => cases hq
      case isFalse hleave =>
        obtain ⟨room, rfl⟩ := Progress.enter_eq_ok_iff.mp hq
        have leave : limits.nestedCalls = true ∨ calls = 0 := by
          by_cases hn : limits.nestedCalls = true
          · exact Or.inl hn
          · right
            have hcalls : ¬0 < calls := fun h => hleave ⟨h, hn⟩
            omega
        have hcall := @Opened.call limits name _ _ [] _ _ _ hopen room leave (Or.inl ⟨rfl, rfl⟩)
        exact ⟨by simpa [htok] using hcall, name, frames, rfl⟩
    case isFalse => cases hq
  | firstArgument =>
    obtain ⟨hopen, name, outside, rfl⟩ := h
    simp only [Progress.take] at hq
    split at hq
    case h_1 name' args outside' heq htok =>
      cases heq
      cases hq
      cases hopen with
      | @call _ ts₀ before _ _ depth₀ calls₀ outer room leave hbefore =>
        have hcalls : calls₀ = 0 → calls₀ + 1 ≤ 1 := by omega
        obtain rfl : before = [] := by
          rcases hbefore with ⟨rfl, -⟩ | ⟨us, d, c, -, hargs, -⟩
          · rfl
          · exact absurd rfl hargs.ne_nil
        exact ⟨ts₀, [.name name, .openParen, .closeParen], by simp [htok], outer, 1, 1,
          .emptyCall name, room, leave.imp id hcalls⟩
    case h_2 =>
      exact Consumed.takeOperand (p := ⟨.call name [] :: outside, depth, calls, .firstArgument⟩)
        hopen hq
  | colonOrNext a =>
    obtain ⟨us, rfl, hopen⟩ := h
    simp only [Progress.take] at hq
    split at hq
    case isTrue htok =>
      cases hq
      exact ⟨us, by simp [htok], hopen⟩
    case isFalse =>
      exact Consumed.takeNext (p := ⟨frames, depth, calls, .colonOrNext a⟩) hopen
        (hopen.fits (.cell a)) hq
  | corner a =>
    obtain ⟨us, rfl, hopen⟩ := h
    simp only [Progress.take] at hq
    split at hq
    case h_1 last htok =>
      cases hq
      exact ⟨us, _, by simp [htok], hopen, hopen.fits (.range a last)⟩
    case h_2 => cases hq
  | next e =>
    obtain ⟨us, vs, rfl, hopen, hfits⟩ := h
    exact Consumed.takeNext (p := ⟨frames, depth, calls, .next e⟩) hopen hfits hq
  | nothing e => cases hq

/-- A run of the reader over more tokens has consumed these tokens behind what it had consumed
before. -/
lemma Consumed.foldlM {ts : List Token} {p q : Progress} {found : List Placed}
    (h : Consumed limits ts p) (hq : found.foldlM (Progress.take limits) p = .ok q) :
    Consumed limits (ts ++ found.map Placed.token) q := by
  induction found generalizing ts p with
  | nil =>
    cases hq
    simpa using h
  | cons t found ih =>
    rw [List.foldlM_cons] at hq
    obtain ⟨p', ht, hq⟩ := bind_eq_ok_iff.mp hq
    simpa using ih (h.take ht) hq

/-! ## Completeness -/

/-- The reader awaits an operand. -/
def Progress.AwaitsOperand (p : Progress) : Prop :=
  p.awaiting = .operand ∨ p.awaiting = .firstArgument

/-- The operand that the reader holds, when it may go on behind one. -/
def Progress.operand? (p : Progress) : Option Expr :=
  match p.awaiting with
  | .next e => some e
  | .colonOrNext a => some (.cell a)
  | _ => none

/-- Between `p` and `q` the tokens of a phrase were read: `q` holds an operand that completes to the
tree of the phrase on top of what is open in `p`. -/
def Progress.Holds (p q : Progress) (level : Nat) (e : Expr) : Prop :=
  ∃ last, q.operand? = some last ∧ q.calls = p.calls ∧ ∀ m ≤ level,
    Progress.complete m q.frames q.depth last = Progress.complete m p.frames p.depth e

/-- Where an operand is awaited every token is taken as one, but for the mark that closes a call
without arguments. -/
lemma Progress.take_of_awaitsOperand {p : Progress} {found : Placed} (hp : p.AwaitsOperand)
    (ht : found.token ≠ .closeParen) : p.take limits found = p.takeOperand limits found := by
  unfold Progress.take
  rcases hp with hp | hp
  · rw [hp]
  · rw [hp]
    dsimp only
    split
    case h_1 _ _ htok => exact absurd htok ht
    case h_2 => rfl

/-- Behind an operand a token is taken as going on, but for the mark that makes a range of a
reference. -/
lemma Progress.take_of_operand {p : Progress} {found : Placed} {e : Expr}
    (hp : p.operand? = some e) (ht : found.token ≠ .colon) :
    p.take limits found = p.takeNext e found := by
  unfold Progress.operand? at hp
  unfold Progress.take
  split at hp
  case h_1 e' hawait =>
    cases hp
    rw [hawait]
  case h_2 a hawait =>
    cases hp
    rw [hawait]
    exact if_neg ht
  case h_3 => cases hp

/-- The reader goes on with what it has after the first token. -/
lemma Progress.foldlM_cons {p q : Progress} {t : Placed} {found : List Placed}
    (h : p.take limits t = .ok q) : (t :: found).foldlM (Progress.take limits) p =
      found.foldlM (Progress.take limits) q := by
  rw [List.foldlM_cons, h]
  rfl

/-- The reader goes on with what it has after the first tokens. -/
lemma Progress.foldlM_append {p q : Progress} {first rest : List Placed}
    (h : first.foldlM (Progress.take limits) p = .ok q) :
    (first ++ rest).foldlM (Progress.take limits) p = rest.foldlM (Progress.take limits) q := by
  rw [List.foldlM_append, h]
  rfl

/-- The operator behind a phrase opens a frame with the tree of the phrase as left operand. -/
lemma Progress.Holds.takeOperator {p q : Progress} {op : BinaryOp} {e : Expr} {found : Placed}
    (h : p.Holds q op.level e) (hadm : Admits op.level p.frames)
    (ht : found.token = .operator op) : q.take limits found =
      .ok ⟨.binary op e :: p.frames, p.depth, p.calls, .operand⟩ := by
  obtain ⟨last, hlast, hcalls, hcomplete⟩ := h
  have hop := op.level_lt_four
  rw [Progress.take_of_operand hlast (by simp [ht])]
  simp only [Progress.takeNext, ht, hcomplete op.level (Nat.le_refl _),
    complete_of_admits hop hadm, hcalls]

/-- Where an expression ends, everything is complete but the construct around it. -/
lemma Progress.Holds.complete {p q : Progress} {e : Expr} (h : p.Holds q 0 e)
    (hadm : Admits 0 p.frames) : ∃ last, q.operand? = some last ∧ q.calls = p.calls ∧
      Progress.complete 0 q.frames q.depth last = (p.frames, p.depth, e) := by
  obtain ⟨last, hlast, hcalls, hcomplete⟩ := h
  refine ⟨last, hlast, hcalls, ?_⟩
  rw [hcomplete 0 (Nat.le_refl 0), complete_of_admits (by omega) hadm]

/-- Wherever an operand of this level may stand, and the limits leave room for it, the reader takes
these tokens and then holds the tree. -/
def Reads (limits : Limits) (level : Nat) (ts : List Token) (e : Expr) (d c : Nat) : Prop :=
  ∀ (p : Progress) (found : List Placed), found.map Placed.token = ts → p.AwaitsOperand →
    Admits level p.frames → p.depth + d ≤ limits.maxDepth →
    (limits.nestedCalls = true ∨ p.calls + c ≤ 1) →
    ∃ q, found.foldlM (Progress.take limits) p = .ok q ∧ p.Holds q level e

/-- Behind the opening mark of a call the reader takes these tokens, and then holds the last
argument and has stored the others. -/
def ReadsArguments (limits : Limits) (ts : List Token) (es : List Expr) (d c : Nat) : Prop :=
  ∀ (p : Progress) (found : List Placed) (name : String) (frames : List Frame),
    found.map Placed.token = ts → p.awaiting = .firstArgument →
    p.frames = .call name [] :: frames → p.depth + d ≤ limits.maxDepth →
    (limits.nestedCalls = true ∨ p.calls + c ≤ 1) →
    ∃ q others e last, found.foldlM (Progress.take limits) p = .ok q ∧ es = others ++ [e] ∧
      q.operand? = some last ∧ q.calls = p.calls ∧ Progress.complete 0 q.frames q.depth last =
        (.call name others.reverse :: frames, p.depth, e)

/-- A token that is an operand by itself. -/
lemma reads_single {tok : Token} {e : Expr} {awaiting : Awaiting} (hclose : tok ≠ .closeParen)
    (htake : ∀ (p : Progress) (t : Placed), t.token = tok →
      p.takeOperand limits t = .ok { p with awaiting })
    (hoperand : ∀ p : Progress, Progress.operand? { p with awaiting } = some e) :
    Reads limits 5 [tok] e 0 0 := by
  intro p found hfound hp _ _ _
  obtain ⟨t, rfl, ht⟩ := List.map_eq_singleton_iff.mp hfound
  have hrun : p.take limits t = .ok { p with awaiting } := by
    rw [Progress.take_of_awaitsOperand hp (by rwa [ht])]
    exact htake p t ht
  refine ⟨{ p with awaiting }, ?_, e, hoperand p, rfl, fun _ _ => rfl⟩
  rw [Progress.foldlM_cons hrun]
  rfl

/-- A number is an operand by itself, at the tightest level and without nesting. -/
lemma reads_number (value : Number) : Reads limits 5 [.number value] (.number value) 0 0 :=
  reads_single (by simp) (fun p t ht => by rw [Progress.takeOperand, ht]) fun p => rfl

/-- A text is an operand by itself, at the tightest level and without nesting. -/
lemma reads_text (content : String) : Reads limits 5 [.text content] (.text content) 0 0 :=
  reads_single (by simp) (fun p t ht => by rw [Progress.takeOperand, ht]) fun p => rfl

/-- A reference is an operand by itself, unless a colon follows and makes a range of it. -/
lemma reads_cell (a : Address) : Reads limits 5 [.cell a] (.cell a) 0 0 :=
  reads_single (by simp) (fun p t ht => by rw [Progress.takeOperand, ht]) fun p => rfl

/-- Two references with a colon between them are read as a range. -/
lemma reads_range (first last : Address) :
    Reads limits 5 [.cell first, .colon, .cell last] (.range ⟨first, last⟩) 0 0 := by
  intro p found hfound hp _ _ _
  obtain ⟨t, rest, rfl, ht, hrest⟩ := List.map_eq_cons_iff.mp hfound
  obtain ⟨t', rest, rfl, ht', hrest⟩ := List.map_eq_cons_iff.mp hrest
  obtain ⟨t'', rfl, ht''⟩ := List.map_eq_singleton_iff.mp hrest
  refine ⟨{ p with awaiting := .next (.range ⟨first, last⟩) }, ?_, _, rfl, rfl, fun _ _ => rfl⟩
  have hfirst : p.take limits t = .ok { p with awaiting := .colonOrNext first } := by
    rw [Progress.take_of_awaitsOperand hp (by simp [ht]), Progress.takeOperand, ht]
  have hcolon : Progress.take limits { p with awaiting := .colonOrNext first } t' =
      .ok { p with awaiting := .corner first } := if_pos ht'
  have hlast : Progress.take limits { p with awaiting := .corner first } t'' =
      .ok { p with awaiting := .next (.range ⟨first, last⟩) } := by
    simp only [Progress.take, ht'']
  rw [Progress.foldlM_cons hfirst, Progress.foldlM_cons hcolon, Progress.foldlM_cons hlast]
  rfl

/-- A phrase in parentheses is read as an operand, one construct deeper than the phrase. -/
lemma reads_paren {ts : List Token} {e : Expr} {d c : Nat} (h : Reads limits 0 ts e d c) :
    Reads limits 5 (.openParen :: ts ++ [.closeParen]) e (d + 1) c := by
  intro p found hfound hp _ hd hc
  obtain ⟨t, rest, rfl, ht, hrest⟩ := List.map_eq_cons_iff.mp hfound
  obtain ⟨inner, close, rfl, hinner, hclose⟩ := List.map_eq_append_iff.mp hrest
  obtain ⟨t', rfl, ht'⟩ := List.map_eq_singleton_iff.mp hclose
  have hopen : p.take limits t =
      .ok { p with frames := .paren :: p.frames, depth := p.depth + 1, awaiting := .operand } := by
    rw [Progress.take_of_awaitsOperand hp (by simp [ht]), Progress.takeOperand, ht]
    exact Progress.enter_eq_ok_iff.mpr ⟨by omega, rfl⟩
  obtain ⟨q, hq, hholds⟩ := h
    { p with frames := .paren :: p.frames, depth := p.depth + 1, awaiting := .operand } inner
    hinner (Or.inl rfl) trivial (by dsimp only; omega) hc
  obtain ⟨last, hlast, hcalls, hcomplete⟩ := hholds.complete trivial
  have htake : q.take limits t' = .ok { p with awaiting := .next e } := by
    rw [Progress.take_of_operand hlast (by simp [ht'])]
    simp [Progress.takeNext, ht', hcomplete, hcalls]
  refine ⟨{ p with awaiting := .next e }, ?_, _, rfl, rfl, fun _ _ => rfl⟩
  rw [Progress.foldlM_cons hopen, Progress.foldlM_append hq, Progress.foldlM_cons htake]
  rfl

/-- The name and the opening mark of a call open one frame, if the depth and the nesting of calls
still allow it. -/
lemma Progress.foldlM_call {p : Progress} {t t' : Placed} {name : String} (hp : p.AwaitsOperand)
    (ht : t.token = .name name) (ht' : t'.token = .openParen) (hd : p.depth < limits.maxDepth)
    (hc : limits.nestedCalls = true ∨ p.calls = 0) :
    [t, t'].foldlM (Progress.take limits) p =
      .ok ⟨.call name [] :: p.frames, p.depth + 1, p.calls + 1, .firstArgument⟩ := by
  have hname : p.take limits t = .ok { p with awaiting := .arguments name } := by
    rw [Progress.take_of_awaitsOperand hp (by simp [ht]), Progress.takeOperand, ht]
  have hleave : ¬(0 < p.calls ∧ ¬limits.nestedCalls = true) := by
    rintro ⟨hpos, hn⟩
    rcases hc with hc | hc
    · exact hn hc
    · omega
  have hopen : Progress.take limits { p with awaiting := .arguments name } t' =
      .ok ⟨.call name [] :: p.frames, p.depth + 1, p.calls + 1, .firstArgument⟩ := by
    simp only [Progress.take, ht', if_true]
    rw [if_neg hleave]
    exact Progress.enter_eq_ok_iff.mpr ⟨hd, rfl⟩
  rw [Progress.foldlM_cons hname, Progress.foldlM_cons hopen]
  rfl

/-- A name with empty parentheses behind it is read as a call without arguments. -/
lemma reads_emptyCall (name : String) :
    Reads limits 5 [.name name, .openParen, .closeParen] (.call name []) 1 1 := by
  intro p found hfound hp _ hd hc
  obtain ⟨t, rest, rfl, ht, hrest⟩ := List.map_eq_cons_iff.mp hfound
  obtain ⟨t', rest, rfl, ht', hrest⟩ := List.map_eq_cons_iff.mp hrest
  obtain ⟨t'', rfl, ht''⟩ := List.map_eq_singleton_iff.mp hrest
  have hroom : p.depth < limits.maxDepth := by omega
  have hcall := Progress.foldlM_call hp ht ht' hroom (hc.imp id fun h => by omega)
  have hclose : Progress.take limits
      ⟨.call name [] :: p.frames, p.depth + 1, p.calls + 1, .firstArgument⟩ t'' =
        .ok { p with awaiting := .next (.call name []) } := by
    simp [Progress.take, ht'']
  refine ⟨{ p with awaiting := .next (.call name []) }, ?_, _, rfl, rfl, fun _ _ => rfl⟩
  rw [show [t, t', t''] = [t, t'] ++ [t''] from rfl, Progress.foldlM_append hcall,
    Progress.foldlM_cons hclose]
  rfl

/-- Arguments in parentheses behind a name are read as a call, one construct and one call deeper
than the arguments. -/
lemma reads_call (name : String) {ts : List Token} {es : List Expr} {d c : Nat}
    (h : ReadsArguments limits ts es d c) :
    Reads limits 5 (.name name :: .openParen :: ts ++ [.closeParen]) (.call name es) (d + 1)
      (c + 1) := by
  intro p found hfound hp _ hd hc
  obtain ⟨t, rest, rfl, ht, hrest⟩ := List.map_eq_cons_iff.mp hfound
  obtain ⟨t', rest, rfl, ht', hrest⟩ := List.map_eq_cons_iff.mp hrest
  obtain ⟨inner, close, rfl, hinner, hclose⟩ := List.map_eq_append_iff.mp hrest
  obtain ⟨t'', rfl, ht''⟩ := List.map_eq_singleton_iff.mp hclose
  have hroom : p.depth < limits.maxDepth := by omega
  have hcall := Progress.foldlM_call hp ht ht' hroom (hc.imp id fun h => by omega)
  obtain ⟨q, others, e, last, hq, rfl, hlast, hcalls, hcomplete⟩ := h
    ⟨.call name [] :: p.frames, p.depth + 1, p.calls + 1, .firstArgument⟩ inner name p.frames
    hinner rfl rfl (by dsimp only; omega) (hc.imp id fun h => by dsimp only; omega)
  have htake : q.take limits t'' =
      .ok { p with awaiting := .next (.call name (others ++ [e])) } := by
    rw [Progress.take_of_operand hlast (by simp [ht''])]
    simp [Progress.takeNext, ht'', hcomplete, hcalls]
  refine ⟨{ p with awaiting := .next (.call name (others ++ [e])) }, ?_, _, rfl, rfl,
    fun _ _ => rfl⟩
  rw [show t :: t' :: (inner ++ [t'']) = [t, t'] ++ (inner ++ [t'']) from rfl,
    Progress.foldlM_append hcall, Progress.foldlM_append hq, Progress.foldlM_cons htake]
  rfl

/-- A sign takes the signed operand behind it, one construct deeper than the operand. -/
lemma reads_signed {op : BinaryOp} {sign : UnaryOp} (spelling : op.sign? = some sign)
    {ts : List Token} {e : Expr} {d c : Nat} (h : Reads limits 4 ts e d c) :
    Reads limits 4 (.operator op :: ts) (.unary sign e) (d + 1) c := by
  intro p found hfound hp _ hd hc
  obtain ⟨t, rest, rfl, ht, hrest⟩ := List.map_eq_cons_iff.mp hfound
  have hsign : p.take limits t =
      .ok ⟨.unary sign :: p.frames, p.depth + 1, p.calls, .operand⟩ := by
    rw [Progress.take_of_awaitsOperand hp (by simp [ht])]
    simp only [Progress.takeOperand, ht, spelling]
    exact Progress.enter_eq_ok_iff.mpr ⟨by omega, rfl⟩
  obtain ⟨q, hq, last, hlast, hcalls, hcomplete⟩ := h
    ⟨.unary sign :: p.frames, p.depth + 1, p.calls, .operand⟩ rest hrest (Or.inl rfl)
    (Nat.le_refl 4) (by dsimp only; omega) hc
  refine ⟨q, ?_, last, hlast, hcalls, fun m hm => hcomplete m hm⟩
  rw [Progress.foldlM_cons hsign, hq]

/-- An operator takes the phrase in front of it and the tighter one behind it, and is no construct
that counts towards the depth. -/
lemma reads_binary (op : BinaryOp) {ts us : List Token} {left right : Expr} {d d' c c' : Nat}
    (h : Reads limits op.level ts left d c) (h' : Reads limits (op.level + 1) us right d' c') :
    Reads limits op.level (ts ++ .operator op :: us) (.binary op left right) (max d d')
      (max c c') := by
  intro p found hfound hp hadm hd hc
  obtain ⟨first, rest, rfl, hfirst, hrest⟩ := List.map_eq_append_iff.mp hfound
  obtain ⟨t, second, rfl, ht, hsecond⟩ := List.map_eq_cons_iff.mp hrest
  obtain ⟨q, hq, hholds⟩ := h p first hfirst hp hadm (by omega) (hc.imp id fun h => by omega)
  obtain ⟨q', hq', last, hlast, hcalls, hcomplete⟩ := h'
    ⟨.binary op left :: p.frames, p.depth, p.calls, .operand⟩ second hsecond (Or.inl rfl)
    (Nat.lt_succ_self op.level) (by dsimp only; omega) (hc.imp id fun h => by dsimp only; omega)
  refine ⟨q', ?_, last, hlast, hcalls, fun m hm => ?_⟩
  · rw [Progress.foldlM_append hq, Progress.foldlM_cons (hholds.takeOperator hadm ht), hq']
  · rw [hcomplete m (by omega)]
    simp only [Progress.complete, if_pos hm]

/-- An expression is read as the first argument of a call. -/
lemma readsArguments_one {ts : List Token} {e : Expr} {d c : Nat} (h : Reads limits 0 ts e d c) :
    ReadsArguments limits ts [e] d c := by
  intro p found name frames hfound hp hframes hd hc
  have hadm : Admits 0 p.frames := by
    rw [hframes]
    trivial
  obtain ⟨q, hq, hholds⟩ := h p found hfound (Or.inr hp) hadm hd hc
  obtain ⟨last, hlast, hcalls, hcomplete⟩ := hholds.complete hadm
  exact ⟨q, [], e, last, hq, rfl, hlast, hcalls, by rw [hcomplete, hframes, List.reverse_nil]⟩

/-- An expression behind a comma is read as one more argument. -/
lemma readsArguments_more {ts us : List Token} {es : List Expr} {e : Expr} {d d' c c' : Nat}
    (h : ReadsArguments limits ts es d c) (h' : Reads limits 0 us e d' c') :
    ReadsArguments limits (ts ++ .comma :: us) (es ++ [e]) (max d d') (max c c') := by
  intro p found name frames hfound hp hframes hd hc
  obtain ⟨first, rest, rfl, hfirst, hrest⟩ := List.map_eq_append_iff.mp hfound
  obtain ⟨t, second, rfl, ht, hsecond⟩ := List.map_eq_cons_iff.mp hrest
  obtain ⟨q, others, e', last, hq, rfl, hlast, hcalls, hcomplete⟩ := h p first name frames hfirst
    hp hframes (by omega) (hc.imp id fun h => by omega)
  have hcomma : q.take limits t =
      .ok ⟨.call name (e' :: others.reverse) :: frames, p.depth, p.calls, .operand⟩ := by
    rw [Progress.take_of_operand hlast (by simp [ht])]
    simp [Progress.takeNext, ht, hcomplete, hcalls]
  obtain ⟨q', hq', hholds⟩ := h'
    ⟨.call name (e' :: others.reverse) :: frames, p.depth, p.calls, .operand⟩ second hsecond
    (Or.inl rfl) trivial (by dsimp only; omega) (hc.imp id fun h => by dsimp only; omega)
  obtain ⟨last', hlast', hcalls', hcomplete'⟩ := hholds.complete trivial
  refine ⟨q', others ++ [e'], e, last', ?_, rfl, hlast', hcalls', ?_⟩
  · rw [Progress.foldlM_append hq, Progress.foldlM_cons hcomma, hq']
  · rw [hcomplete', List.reverse_append, List.reverse_singleton, List.singleton_append]

mutual

/-- The reader takes whatever the grammar derives. -/
lemma Derives.reads {level d c : Nat} {ts : List Token} {e : Expr} :
    Derives level ts e d c → Reads limits level ts e d c
  | .number value => reads_number value
  | .text content => reads_text content
  | .cell address => reads_cell address
  | .range first last => reads_range first last
  | .paren inner => reads_paren inner.reads
  | .emptyCall name => reads_emptyCall name
  | .call name arguments => reads_call name arguments.reads
  | .signed spelling operand => reads_signed spelling operand.reads
  | .binary op first second => reads_binary op first.reads second.reads
  | .looser phrase => fun p found hfound hp hadm hd hc =>
    have ⟨q, hq, last, hlast, hcalls, hcomplete⟩ :=
      phrase.reads p found hfound hp (hadm.of_le (Nat.le_succ _)) hd hc
    ⟨q, hq, last, hlast, hcalls, fun m hm => hcomplete m (Nat.le_succ_of_le hm)⟩

/-- The reader takes whatever arguments the grammar derives. -/
lemma DerivesArguments.reads {d c : Nat} {ts : List Token} {es : List Expr} :
    DerivesArguments ts es d c → ReadsArguments limits ts es d c
  | .one argument => readsArguments_one argument.reads
  | .more others argument => readsArguments_more others.reads argument.reads

end

end Reading

/-! ## The reader and the grammar -/

/-- The reader accepts tokens exactly when an expression within the limits and the end of the text
are all that there is. -/
lemma Expr.ofTokens_eq_ok_iff {limits : Limits} {found : List Placed} {e : Expr} :
    Expr.ofTokens limits found = .ok e ↔
      ∃ ts, found.map Placed.token = ts ++ [.endOfText] ∧ Fits limits 0 0 0 ts e := by
  constructor
  · intro h
    obtain ⟨⟨frames, depth, calls, awaiting⟩, hrun, h⟩ := bind_eq_ok_iff.mp h
    have hstart : Consumed limits [] .start := Opened.start
    have hconsumed := hstart.foldlM hrun
    cases awaiting with
    | nothing e' =>
      cases h
      exact hconsumed
    | _ => cases h
  · rintro ⟨ts, hfound, d, c, hder, hd, hc⟩
    obtain ⟨inner, last, rfl, hinner, hlast⟩ := List.map_eq_append_iff.mp hfound
    obtain ⟨t, rfl, ht⟩ := List.map_eq_singleton_iff.mp hlast
    have hreads : Reads limits 0 ts e d c := hder.reads
    obtain ⟨q, hq, hholds⟩ := hreads .start inner hinner (Or.inl rfl) trivial hd hc
    obtain ⟨last, hoperand, hcalls, hcomplete⟩ := hholds.complete trivial
    have htake : q.take limits t = .ok ⟨[], 0, 0, .nothing e⟩ := by
      rw [Progress.take_of_operand hoperand (by simp [ht])]
      simp [Progress.takeNext, ht, hcomplete, hcalls, Progress.start]
    unfold Expr.ofTokens
    rw [Progress.foldlM_append hq, Progress.foldlM_cons htake]
    rfl

/-- A text is read exactly when its tokens, up to the end of the text, are. -/
lemma Expr.ofText_eq_ok_iff {limits : Limits} {s : String} {e : Expr} :
    Expr.ofText limits s = .ok e ↔
      ∃ ts found, tokens s = .ok found ∧ found.map Placed.token = ts ++ [.endOfText] ∧
        Fits limits 0 0 0 ts e := by
  unfold Expr.ofText
  cases tokens s with
  | error fault => simp
  | ok found => simp [Expr.ofTokens_eq_ok_iff]

/-- No token list is derived with two trees: the grammar is unambiguous. -/
lemma Derives.unique {ts : List Token} {e e' : Expr} {d c d' c' : Nat}
    (h : Derives 0 ts e d c) (h' : Derives 0 ts e' d' c') : e = e' := by
  -- Limits that leave room for both derivations make the reader accept with both trees.
  let limits : Limits := { maxDepth := d + d', nestedCalls := true }
  let found : List Placed := (ts ++ [Token.endOfText]).map fun t => ⟨t, 0⟩
  have hfound : found.map Placed.token = ts ++ [.endOfText] := by
    simp [found, Function.comp_def]
  have hok : Expr.ofTokens limits found = .ok e :=
    Expr.ofTokens_eq_ok_iff.mpr ⟨ts, hfound, d, c, h, by simp [limits], Or.inl rfl⟩
  have hok' : Expr.ofTokens limits found = .ok e' :=
    Expr.ofTokens_eq_ok_iff.mpr ⟨ts, hfound, d', c', h', by simp [limits], Or.inl rfl⟩
  exact Except.ok.inj (hok.symm.trans hok')

end Formula

end Spreadsheet
