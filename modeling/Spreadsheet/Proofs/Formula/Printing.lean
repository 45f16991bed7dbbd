import Mathlib.Data.List.Chain
import Spreadsheet.Proofs.Formula.Acceptance

/-!
# The tokens of a tree

`Expr.phrase` writes a tree as a phrase of the grammar, with parentheses around a binary operator
exactly where the surroundings bind tighter than it does.  These tokens derive the tree
(`Expr.derives_phrase`), by a derivation of depth `Expr.nesting`, and no phrase with the same tree
is shorter or nests less (`Derives.phrase_le`), so that every parenthesis is needed.

Operators, names and operands of a phrase have fixed neighbours (`Derives.regular`): an operand
starts behind every operator, and an opening parenthesis stands behind every name.
-/

namespace Spreadsheet

namespace Formula

/-! ## Printing -/

/-- The binary operator that is spelled like the sign. -/
def UnaryOp.binary : UnaryOp → BinaryOp
  | .plus => .add
  | .minus => .subtract

/-- The operator that is written like a sign is read as this sign in front of an operand. -/
lemma UnaryOp.sign?_binary (op : UnaryOp) : op.binary.sign? = some op := by
  cases op <;> rfl

/-- The tokens, in parentheses when these are needed. -/
def enclosed (needed : Prop) [Decidable needed] (ts : List Token) : List Token :=
  if needed then .openParen :: ts ++ [.closeParen] else ts

mutual

/-- The tokens that write the tree where a phrase of the given level is expected. -/
def Expr.phrase (level : Nat) : Expr → List Token
  | .number value => [.number value]
  | .text content => [.text content]
  | .cell a => [.cell a]
  | .range r => [.cell r.first, .colon, .cell r.last]
  | .unary op e => .operator op.binary :: e.phrase 4
  | .binary op l r =>
    enclosed (op.level < level) (l.phrase op.level ++ .operator op :: r.phrase (op.level + 1))
  | .call name [] => [.name name, .openParen, .closeParen]
  | .call name (e :: es) =>
    .name name :: .openParen :: (e.phrase 0 ++ furtherTokens es) ++ [.closeParen]

/-- The tokens of further arguments, each one behind a comma. -/
def furtherTokens : List Expr → List Token
  | [] => []
  | e :: es => .comma :: e.phrase 0 ++ furtherTokens es

end

mutual

/-- How deeply parentheses, signs and calls are nested when the tree is written where a phrase of
the given level is expected. -/
def Expr.nesting (level : Nat) : Expr → Nat
  | .number _ | .text _ | .cell _ | .range _ => 0
  | .unary _ e => e.nesting 4 + 1
  | .binary op l r =>
    max (l.nesting op.level) (r.nesting (op.level + 1)) + if op.level < level then 1 else 0
  | .call _ args => nestingAll args + 1

/-- How deeply the deepest of several arguments is nested. -/
def nestingAll : List Expr → Nat
  | [] => 0
  | e :: es => max (e.nesting 0) (nestingAll es)

end

mutual

/-- The tokens of a tree derive it. -/
lemma Expr.derives_phrase {level : Nat} (hlevel : level ≤ 4) :
    ∀ e : Expr, ∃ calls, Derives level (e.phrase level) e (e.nesting level) calls
  | .number value => ⟨0, (Derives.number value).of_le (Nat.le_succ_of_le hlevel)⟩
  | .text content => ⟨0, (Derives.text content).of_le (Nat.le_succ_of_le hlevel)⟩
  | .cell a => ⟨0, (Derives.cell a).of_le (Nat.le_succ_of_le hlevel)⟩
  | .range r => ⟨0, (Derives.range r.first r.last).of_le (Nat.le_succ_of_le hlevel)⟩
  | .unary op e => by
    obtain ⟨calls, operand⟩ := e.derives_phrase (Nat.le_refl 4)
    exact ⟨calls, (Derives.signed op.sign?_binary operand).of_le hlevel⟩
  | .binary op l r => by
    have hop := op.level_lt_four
    obtain ⟨calls, first⟩ := l.derives_phrase (Nat.le_of_lt hop)
    obtain ⟨calls', second⟩ := r.derives_phrase hop
    have hphrase := Derives.binary op first second
    simp only [Expr.phrase, Expr.nesting, enclosed]
    split
    case isTrue hlooser =>
      have hinner := hphrase.of_le (Nat.zero_le _)
      exact ⟨_, hinner.paren.of_le (Nat.le_succ_of_le hlevel)⟩
    case isFalse hlooser => exact ⟨_, hphrase.of_le (Nat.not_lt.mp hlooser)⟩
  | .call name [] => ⟨1, (Derives.emptyCall name).of_le (Nat.le_succ_of_le hlevel)⟩
  | .call name (e :: es) => by
    obtain ⟨calls, argument⟩ := e.derives_phrase (Nat.zero_le 4)
    obtain ⟨calls', arguments⟩ := derivesArguments_furtherTokens es (.one argument)
    exact ⟨_, (Derives.call name arguments).of_le (Nat.le_succ_of_le hlevel)⟩

/-- Further arguments, each with a comma in front, are derived behind those that are there. -/
lemma derivesArguments_furtherTokens :
    ∀ (us : List Expr) {ts : List Token} {es : List Expr} {depth calls : Nat},
      DerivesArguments ts es depth calls → ∃ calls',
        DerivesArguments (ts ++ furtherTokens us) (es ++ us) (max depth (nestingAll us)) calls'
  | [], ts, es, depth, calls, h => by
    refine ⟨calls, ?_⟩
    simpa [furtherTokens, nestingAll] using h
  | e :: us, ts, es, depth, calls, h => by
    obtain ⟨calls', argument⟩ := e.derives_phrase (Nat.zero_le 4)
    obtain ⟨calls'', arguments⟩ := derivesArguments_furtherTokens us (h.more argument)
    refine ⟨calls'', ?_⟩
    simpa [furtherTokens, nestingAll, Nat.max_assoc] using arguments

end

/-! ## Needless parentheses -/

/-- Parentheses take two tokens where they are needed, and none elsewhere. -/
lemma length_enclosed (needed : Prop) [Decidable needed] (ts : List Token) :
    (enclosed needed ts).length = ts.length + if needed then 2 else 0 := by
  unfold enclosed
  split
  · simp
  · rfl

/-- Where a phrase may bind looser no more parentheses are needed, and where it has to bind tighter
at most one pair more. -/
lemma Expr.phrase_le_of_le (e : Expr) {k l : Nat} (h : k ≤ l) :
    (e.phrase k).length ≤ (e.phrase l).length ∧ e.nesting k ≤ e.nesting l ∧
      (e.phrase l).length ≤ (e.phrase k).length + 2 ∧ e.nesting l ≤ e.nesting k + 1 := by
  cases e with
  | binary op left right =>
    simp only [Expr.phrase, Expr.nesting, length_enclosed]
    split <;> split <;> omega
  | call name args => cases args <;> simp [Expr.phrase, Expr.nesting]
  | _ => simp [Expr.phrase, Expr.nesting]

/-- Further arguments take as many tokens as their parts. -/
lemma length_furtherTokens_append (es us : List Expr) :
    (furtherTokens (es ++ us)).length = (furtherTokens es).length + (furtherTokens us).length := by
  induction es with
  | nil => simp [furtherTokens]
  | cons e es ih =>
    simp only [List.cons_append, furtherTokens, List.length_cons, List.length_append, ih]
    omega

/-- Trees side by side nest as deep as the deepest one. -/
lemma nestingAll_append (es us : List Expr) :
    nestingAll (es ++ us) = max (nestingAll es) (nestingAll us) := by
  induction es with
  | nil => simp [nestingAll]
  | cons e es ih => simp only [List.cons_append, nestingAll, ih, Nat.max_assoc]

mutual

/-- No phrase with the tree has fewer tokens than those of the tree or is nested less. -/
theorem Derives.phrase_le {level depth calls : Nat} {ts : List Token} {e : Expr} :
    Derives level ts e depth calls →
      (e.phrase level).length ≤ ts.length ∧ e.nesting level ≤ depth
  | .number _ | .text _ | .cell _ | .range _ _ => by simp [Expr.phrase, Expr.nesting]
  | .paren inner => by
    -- Whatever the surroundings are, they cost the tree no more than this pair.
    have hinner := inner.phrase_le
    have htighter := e.phrase_le_of_le (Nat.zero_le 5)
    simp only [List.cons_append, List.length_cons, List.length_append, List.length_nil]
    omega
  | .emptyCall name => by simp [Expr.phrase, Expr.nesting, nestingAll]
  | @Derives.call name _ es _ _ arguments => by
    have hne := arguments.ne_nil
    have harguments := arguments.arguments_le
    cases es with
    | nil => exact absurd rfl hne
    | cons e es =>
      simp only [furtherTokens, List.length_cons, List.length_append] at harguments
      simp only [Expr.phrase, Expr.nesting, List.cons_append, List.length_cons, List.length_append,
        List.length_nil]
      omega
  | .signed _ operand => by
    have hoperand := operand.phrase_le
    simp only [Expr.phrase, Expr.nesting, List.length_cons]
    omega
  | .binary op first second => by
    have hfirst := first.phrase_le
    have hsecond := second.phrase_le
    simp only [Expr.phrase, Expr.nesting, length_enclosed, List.length_append, List.length_cons,
      if_neg (Nat.lt_irrefl _)]
    omega
  | .looser phrase => by
    have hphrase := phrase.phrase_le
    have htighter := e.phrase_le_of_le (Nat.le_add_right level 1)
    omega

/-- However arguments are written, they take at least the tokens and the depth that printing them
takes. -/
lemma DerivesArguments.arguments_le {depth calls : Nat} {ts : List Token} {es : List Expr} :
    DerivesArguments ts es depth calls →
      (furtherTokens es).length ≤ ts.length + 1 ∧ nestingAll es ≤ depth
  | .one argument => by
    have hargument := argument.phrase_le
    simp only [furtherTokens, nestingAll, List.length_cons, List.length_append, List.length_nil]
    omega
  | .more others argument => by
    have hothers := others.arguments_le
    have hargument := argument.phrase_le
    simp only [length_furtherTokens_append, nestingAll_append, furtherTokens, nestingAll,
      List.length_cons, List.length_append, List.length_nil]
    omega

end

/-! ## Neighbours -/

/-- The token may start a phrase. -/
def Token.Starts : Token → Prop
  | .number _ | .text _ | .cell _ | .name _ | .openParen => True
  | .operator op => op.sign?.isSome = true
  | _ => False

/-- The token may end a phrase. -/
def Token.Ends : Token → Prop
  | .number _ | .text _ | .cell _ | .closeParen => True
  | _ => False

/-- The second token may stand directly behind the first one, as far as operators and names go. -/
def Precedes : Token → Token → Prop
  | .operator _, u => u.Starts
  | .name _, u => u = .openParen
  | _, _ => True

/-- The tokens start and end like a phrase, and keep the neighbours that operators and names
need. -/
structure Regular (ts : List Token) : Prop where
  ne_nil : ts ≠ []
  chain : ts.IsChain Precedes
  starts : ∀ t ∈ ts.head?, t.Starts
  ends : ∀ t ∈ ts.getLast?, t.Ends

/-- Behind a token that may end a phrase, operators and names ask for nothing. -/
lemma Token.Ends.precedes {t : Token} (h : t.Ends) (u : Token) : Precedes t u := by
  cases t <;> first | exact trivial | exact absurd h id

/-- A token that may start and end a phrase is one. -/
lemma Regular.single {t : Token} (hstarts : t.Starts) (hends : t.Ends) : Regular [t] := by
  refine ⟨List.cons_ne_nil _ _, List.isChain_singleton t, ?_, ?_⟩
  · rintro _ ⟨⟩
    exact hstarts
  · rintro _ ⟨⟩
    exact hends

/-- In front of a regular list a token may stand that starts phrases and is a good neighbour to the
first one. -/
lemma Regular.cons {t : Token} {ts : List Token} (h : Regular ts) (hstarts : t.Starts)
    (hprecedes : ∀ u ∈ ts.head?, Precedes t u) : Regular (t :: ts) := by
  refine ⟨List.cons_ne_nil _ _, List.isChain_cons.mpr ⟨hprecedes, h.chain⟩, ?_, ?_⟩
  · rintro _ ⟨⟩
    exact hstarts
  · rw [List.getLast?_cons_of_ne_nil h.ne_nil]
    exact h.ends

/-- Two regular phrases with a mark between them are regular, if the mark may precede what starts a
phrase. -/
lemma Regular.join {t : Token} {ts us : List Token} (h : Regular ts) (h' : Regular us)
    (hprecedes : ∀ u, u.Starts → Precedes t u) : Regular (ts ++ t :: us) := by
  have hchain : (t :: us).IsChain Precedes :=
    List.isChain_cons.mpr ⟨fun u hu => hprecedes u (h'.starts u hu), h'.chain⟩
  refine ⟨by simp, List.isChain_append.mpr ⟨h.chain, hchain, ?_⟩, ?_, ?_⟩
  · intro u hu v _
    exact (h.ends u hu).precedes v
  · rw [List.head?_append_of_ne_nil _ h.ne_nil]
    exact h.starts
  · rw [List.getLast?_append_of_ne_nil _ (List.cons_ne_nil _ _),
      List.getLast?_cons_of_ne_nil h'.ne_nil]
    exact h'.ends

/-- A regular phrase in parentheses is regular. -/
lemma Regular.paren {ts : List Token} (h : Regular ts) :
    Regular (.openParen :: ts ++ [.closeParen]) := by
  have hclosed : Regular (ts ++ [.closeParen]) := by
    refine ⟨by simp, List.isChain_append.mpr ⟨h.chain, List.isChain_singleton _, ?_⟩, ?_, ?_⟩
    · intro u hu v _
      exact (h.ends u hu).precedes v
    · rw [List.head?_append_of_ne_nil _ h.ne_nil]
      exact h.starts
    · rw [List.getLast?_concat]
      rintro _ ⟨⟩
      exact trivial
  exact hclosed.cons trivial fun _ _ => trivial

/-- An operator that is written like a sign may start a phrase. -/
lemma Token.starts_of_sign? {op : BinaryOp} {sign : UnaryOp} (h : op.sign? = some sign) :
    (Token.operator op).Starts := by
  rw [Token.Starts, h]
  rfl

mutual

/-- In a phrase operators and names have the neighbours that they need. -/
lemma Derives.regular {level depth calls : Nat} {ts : List Token} {e : Expr} :
    Derives level ts e depth calls → Regular ts
  | .number _ | .text _ | .cell _ => Regular.single trivial trivial
  | .range first last =>
    (Regular.single (t := .cell first) trivial trivial).join
      (Regular.single (t := .cell last) trivial trivial) fun _ _ => trivial
  | .paren inner => inner.regular.paren
  | .emptyCall name => by
    refine ⟨List.cons_ne_nil _ _, ?_, ?_, ?_⟩
    · simp [Precedes]
    · rintro _ ⟨⟩
      exact trivial
    · rintro _ ⟨⟩
      exact trivial
  | .call name arguments => by
    refine arguments.regular.paren.cons trivial ?_
    rintro _ ⟨⟩
    rfl
  | .signed spelling operand =>
    operand.regular.cons (Token.starts_of_sign? spelling) operand.regular.starts
  | .binary _ first second => first.regular.join second.regular fun _ hu => hu
  | .looser phrase => phrase.regular

/-- Arguments start and end like phrases, and hold no operator or name without its neighbours. -/
lemma DerivesArguments.regular {depth calls : Nat} {ts : List Token} {es : List Expr} :
    DerivesArguments ts es depth calls → Regular ts
  | .one argument => argument.regular
  | .more others argument => others.regular.join argument.regular fun _ _ => trivial

end

end Formula

end Spreadsheet
