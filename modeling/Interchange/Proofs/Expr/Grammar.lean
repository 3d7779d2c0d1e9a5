import Interchange.Expr.Evaluate
/-!
# The grammar of expressions

The grammar stands beside the reader as a relation.  It knows nothing of what follows an
expression, and where it repeats operators it is left-recursive, so that they associate to the
left; the reader looks one token ahead and carries the left operand along.

* `Derives` — the trees that a line of the grammar derives from tokens.
* `yields_readLevel` — what is read is derived from the tokens that were used up.
* `Derives.outcome_readLevel` — what a line derives is read, whatever follows, up to the operators
  of the line, with which the reader goes on.
* `Tree.parse_exact` — the reader accepts what the grammar derives and nothing else.
-/

namespace Interchange.Expr

/-! ### The grammar -/

/-- The lines of the grammar, lowest precedence first. -/
inductive Line
  | or | and | equality | comparison | additive | term | unary | primary
deriving DecidableEq

/-- The lines of binary operators: the signs of a line, and the line of its operands. -/
inductive BinaryLine : Line → List (Token × BinaryOp) → Line → Prop
  | or : BinaryLine .or [(.or, .or)] .and
  | and : BinaryLine .and [(.and, .and)] .equality
  | equality : BinaryLine .equality [(.equal, .equal), (.notEqual, .notEqual)] .comparison
  | comparison : BinaryLine .comparison
      [(.less, .less), (.lessEqual, .lessEqual), (.greater, .greater),
        (.greaterEqual, .greaterEqual)] .additive
  | additive : BinaryLine .additive [(.plus, .add), (.minus, .sub)] .term
  | term : BinaryLine .term [(.star, .mul), (.slash, .div), (.percent, .rem)] .unary

/-- The signs of unary operators. -/
def unarySigns : List (Token × UnaryOp) := [(.not, .not), (.minus, .neg), (.plus, .plus)]

/-- **The grammar**: the trees that a line derives from tokens, all of which it uses. -/
inductive Derives : Line → List Token → Tree → Prop
  | operand {line operands : Line} {signs : List (Token × BinaryOp)} {ts : List Token} {e : Tree}
      (binary : BinaryLine line signs operands) (single : Derives operands ts e) :
      Derives line ts e
  /-- What stands left of a sign may have signs of the same line, and what stands right may not. -/
  | binary {line operands : Line} {signs : List (Token × BinaryOp)} {t : Token} {op : BinaryOp}
      {ls rs : List Token} {l r : Tree} (binary : BinaryLine line signs operands)
      (sign : (t, op) ∈ signs) (left : Derives line ls l) (right : Derives operands rs r) :
      Derives line (ls ++ t :: rs) (.binary op l r)
  | unary {t : Token} {op : UnaryOp} {ts : List Token} {e : Tree} (sign : (t, op) ∈ unarySigns)
      (operand : Derives .unary ts e) : Derives .unary (t :: ts) (.unary op e)
  | primary {ts : List Token} {e : Tree} (single : Derives .primary ts e) : Derives .unary ts e
  | number (x : Float) : Derives .primary [.number x] (.literal (.number x))
  | text (s : String) : Derives .primary [.text s] (.literal (.text s))
  | trueName : Derives .primary [.name "true"] (.literal (.bool true))
  | falseName : Derives .primary [.name "false"] (.literal (.bool false))
  | nullName : Derives .primary [.name "null"] (.literal .null)
  | name {s : String} (notTrue : s ≠ "true") (notFalse : s ≠ "false") (notNull : s ≠ "null") :
      Derives .primary [.name s] (.name s)
  | parentheses {ts : List Token} {e : Tree} (inner : Derives .or ts e) :
      Derives .primary (.openParen :: (ts ++ [.closeParen])) e

/-- The faults of tokens that are no expression. -/
inductive Fault.OfSyntax : Fault → Prop
  | unexpectedToken (t : Token) : OfSyntax (.unexpectedToken t)
  | unclosedParenthesis : OfSyntax .unclosedParenthesis
  | unexpectedEnd : OfSyntax .unexpectedEnd

/-! ### Lines and levels -/

/-- The level on which a line is read. -/
def Line.level : Line → Nat
  | .or => 0
  | .and => 1
  | .equality => 2
  | .comparison => 3
  | .additive => 4
  | .term => 5
  | .unary | .primary => 6

section Lines

variable {line operands : Line} {signs : List (Token × BinaryOp)}

/-- Below the top, every level is that of a line of binary operators. -/
theorem Line.exists_binaryLine (below : line.level < levels) :
    ∃ signs operands, BinaryLine line signs operands := by
  cases line with
  | or => exact ⟨_, _, .or⟩
  | and => exact ⟨_, _, .and⟩
  | equality => exact ⟨_, _, .equality⟩
  | comparison => exact ⟨_, _, .comparison⟩
  | additive => exact ⟨_, _, .additive⟩
  | term => exact ⟨_, _, .term⟩
  | unary | primary => exact absurd below (by decide)

/-- At the top there is only the line of unary operators to read. -/
theorem Line.eq_unary (notPrimary : line ≠ .primary) (top : ¬ line.level < levels) :
    line = .unary := by
  cases line with
  | unary => rfl
  | primary => exact absurd rfl notPrimary
  | _ => exact absurd (by decide) top

theorem BinaryLine.level_lt (binary : BinaryLine line signs operands) : line.level < levels := by
  cases binary <;> decide

/-- Operands are read one level higher. -/
theorem BinaryLine.level_operands (binary : BinaryLine line signs operands) :
    operands.level = line.level + 1 := by
  cases binary <;> rfl

theorem BinaryLine.operands_ne (binary : BinaryLine line signs operands) :
    operands ≠ .primary := by
  cases binary <;> decide

/-- The signs of a line are the operators of its level. -/
theorem BinaryLine.operator?_eq_some_iff (binary : BinaryLine line signs operands) {t : Token}
    {op : BinaryOp} : operator? line.level t = some op ↔ (t, op) ∈ signs := by
  cases binary <;> cases t <;> simp [Line.level, operator?, eq_comm]

end Lines

theorem unaryOperator?_eq_some_iff {t : Token} {op : UnaryOp} :
    unaryOperator? t = some op ↔ (t, op) ∈ unarySigns := by
  cases t <;> simp [unaryOperator?, unarySigns, eq_comm]

/-- The level on which a token is a binary operator. -/
def Token.level? : Token → Option Nat
  | .or => some 0
  | .and => some 1
  | .equal | .notEqual => some 2
  | .less | .lessEqual | .greater | .greaterEqual => some 3
  | .plus | .minus => some 4
  | .star | .slash | .percent => some 5
  | _ => none

/-- A sign of a level is on that level and on no other. -/
theorem level?_of_operator? {level : Nat} {t : Token} {op : BinaryOp}
    (sign : operator? level t = some op) : t.level? = some level := by
  unfold operator? at sign
  split at sign <;> cases sign <;> rfl

theorem lt_of_level? {level : Nat} {t : Token} (found : t.level? = some level) :
    level < levels := by
  cases t <;> cases found <;> decide

/-- Whether the first of some tokens is no binary operator of a level or a higher one. -/
def Stops (level : Nat) (ts : List Token) : Prop :=
  ∀ t ∈ ts.head?, ∀ found ∈ t.level?, found < level

theorem Stops.mono {level higher : Nat} {ts : List Token} (stops : Stops level ts)
    (le : level ≤ higher) : Stops higher ts :=
  fun t first found ofLevel => Nat.lt_of_lt_of_le (stops t first found ofLevel) le

/-- There are no binary operators beyond the last level, -/
theorem stops_levels (ts : List Token) : Stops levels ts :=
  fun _ _ _ found => lt_of_level? found

/-- and none where the tokens have ended. -/
theorem stops_nil (level : Nat) : Stops level [] := by
  intro t first
  cases first

/-- What is no binary operator stops all levels. -/
theorem stops_of_level?_none {level : Nat} {t : Token} (none : t.level? = none) (ts : List Token) :
    Stops level (t :: ts) := by
  intro u first found ofLevel
  cases first
  rw [none] at ofLevel
  cases ofLevel

/-- An operator stops the levels above its own. -/
theorem stops_operator {level : Nat} {t : Token} {op : BinaryOp}
    (sign : operator? level t = some op) (ts : List Token) : Stops (level + 1) (t :: ts) := by
  intro u first found ofLevel
  cases first
  rw [level?_of_operator? sign] at ofLevel
  cases ofLevel
  exact Nat.lt_succ_self level

/-- Where a level is stopped, its chain does not go on. -/
theorem Stops.operator?_eq_none {level : Nat} {t : Token} {ts : List Token}
    (stops : Stops level (t :: ts)) : operator? level t = none := by
  cases sign : operator? level t with
  | none => rfl
  | some op => exact absurd (stops t rfl level (level?_of_operator? sign)) (Nat.lt_irrefl level)

/-! ### What is read -/

/-- What a reading gives: a tree and the tokens after it. -/
def outcome {bound : Nat} (r : Except Fault (Parsed bound)) : Except Fault (Tree × List Token) :=
  r.map fun p => (p.tree, p.rest)

/-- What is left is shorter than what was given, which is why the reader ends. -/
theorem length_lt_of_outcome {bound : Nat} {r : Except Fault (Parsed bound)} {e : Tree}
    {rest : List Token} (read : outcome r = .ok (e, rest)) : rest.length < bound := by
  rcases r with why | p
  · cases read
  · cases read
    exact p.shorter

theorem outcome_map {m n : Nat} {f : Parsed m → Parsed n}
    (same : ∀ p, ((f p).tree, (f p).rest) = (p.tree, p.rest)) (r : Except Fault (Parsed m)) :
    outcome (r.map f) = outcome r := by
  cases r with
  | error why => rfl
  | ok p => exact congrArg Except.ok (same p)

section Outcome

variable {level : Nat} {t : Token} {ts rest : List Token} {left e : Tree}

/-- **A level** is an operand from the next one, and the chain behind it. -/
theorem outcome_readLevel (below : level < levels) : outcome (readLevel level ts) =
    (outcome (readLevel (level + 1) ts)).bind fun p => outcome (readChain level p.1 p.2) := by
  rw [readLevel, if_pos below]
  cases readLevel (level + 1) ts with
  | error why => rfl
  | ok p => exact outcome_map (by intro q; rfl) _

theorem outcome_readLevel_of_top (top : ¬ level < levels) :
    outcome (readLevel level ts) = outcome (readUnary ts) := by
  rw [readLevel, if_neg top]

theorem outcome_readChain_nil : outcome (readChain level left []) = .ok (left, []) := by
  rw [readChain]
  rfl

/-- A chain ends at what is no sign of its level, -/
theorem outcome_readChain_none (none : operator? level t = none) :
    outcome (readChain level left (t :: ts)) = .ok (left, t :: ts) := by
  rw [readChain]
  split
  · rfl
  · next found => rw [none] at found; cases found

/-- and goes on behind a sign, with the left operand grown by one. -/
theorem outcome_readChain_some {op : BinaryOp} (sign : operator? level t = some op) :
    outcome (readChain level left (t :: ts)) =
      (outcome (readLevel (level + 1) ts)).bind fun p =>
        outcome (readChain level (.binary op left p.1) p.2) := by
  rw [readChain]
  split
  · next found => rw [sign] at found; cases found
  · next found =>
      rw [sign] at found
      cases found
      cases readLevel (level + 1) ts with
      | error why => rfl
      | ok p => exact outcome_map (by intro q; rfl) _

/-- A unary sign is read with what follows it, -/
theorem outcome_readUnary_some {op : UnaryOp} (sign : unaryOperator? t = some op) :
    outcome (readUnary (t :: ts)) =
      (outcome (readUnary ts)).bind fun p => .ok (.unary op p.1, p.2) := by
  rw [readUnary]
  split
  · next found =>
      rw [sign] at found
      cases found
      cases readUnary ts <;> rfl
  · next found => rw [sign] at found; cases found

/-- and all else is left to the primary expressions. -/
theorem outcome_readUnary_none (none : unaryOperator? t = none) :
    outcome (readUnary (t :: ts)) = outcome (readPrimary t ts) := by
  rw [readUnary]
  split
  · next found => rw [none] at found; cases found
  · rfl

/-- An expression in parentheses, and whatever else begins with one. -/
theorem outcome_readPrimary_open : outcome (readPrimary .openParen ts) =
    (outcome (readLevel 0 ts)).bind fun p =>
      match p.2 with
      | .closeParen :: rest => .ok (p.1, rest)
      | _ => .error .unclosedParenthesis := by
  rw [readPrimary]
  cases readLevel 0 ts with
  | error why => rfl
  | ok p =>
      obtain ⟨e, after, shorter⟩ := p
      cases after with
      | nil => rfl
      | cons t after => cases t <;> rfl

end Outcome

/-! ### What is read is derived -/

/-- Whether a line derives a tree from the tokens before the rest of some tokens. -/
def Spans (line : Line) (ts : List Token) (e : Tree) (rest : List Token) : Prop :=
  ∃ used, ts = used ++ rest ∧ Derives line used e

section Spans

variable {line operands : Line} {signs : List (Token × BinaryOp)} {t : Token}
  {ts us rest : List Token} {e l r : Tree}

/-- Each line of the grammar, with the tokens that are left: an operand alone, -/
theorem Spans.operand (binary : BinaryLine line signs operands)
    (single : Spans operands ts e rest) : Spans line ts e rest := by
  obtain ⟨used, split, tree⟩ := single
  exact ⟨used, split, .operand binary tree⟩

/-- two operands with a sign between them, -/
theorem Spans.binary {op : BinaryOp} (binary : BinaryLine line signs operands)
    (sign : (t, op) ∈ signs) (left : Spans line ts l (t :: us)) (right : Spans operands us r rest) :
    Spans line ts (.binary op l r) rest := by
  obtain ⟨ls, rfl, left⟩ := left
  obtain ⟨rs, rfl, right⟩ := right
  exact ⟨ls ++ t :: rs, by simp, .binary binary sign left right⟩

/-- a sign with its operand, -/
theorem Spans.unary {op : UnaryOp} (sign : (t, op) ∈ unarySigns)
    (operand : Spans .unary ts e rest) : Spans .unary (t :: ts) (.unary op e) rest := by
  obtain ⟨used, rfl, tree⟩ := operand
  exact ⟨t :: used, rfl, .unary sign tree⟩

/-- a primary expression, -/
theorem Spans.primary (single : Spans .primary ts e rest) : Spans .unary ts e rest := by
  obtain ⟨used, split, tree⟩ := single
  exact ⟨used, split, .primary tree⟩

/-- and an expression in parentheses. -/
theorem Spans.parentheses (inner : Spans .or ts e (.closeParen :: rest)) :
    Spans .primary (.openParen :: ts) e rest := by
  obtain ⟨used, rfl, tree⟩ := inner
  exact ⟨.openParen :: (used ++ [.closeParen]), by simp, .parentheses tree⟩

/-- The tree of a name is derived from it. -/
theorem spans_ofName (s : String) (rest : List Token) :
    Spans .primary (.name s :: rest) (.ofName s) rest := by
  refine ⟨[.name s], rfl, ?_⟩
  unfold Tree.ofName
  split
  · next same => exact same ▸ .trueName
  split
  · next same => exact same ▸ .falseName
  split
  · next same => exact same ▸ .nullName
  · next notTrue notFalse notNull => exact .name notTrue notFalse notNull

end Spans

/-- Whether a reading gives what it should, or else a fault of the syntax. -/
def Yields (post : Tree → List Token → Prop) : Except Fault (Tree × List Token) → Prop
  | .ok (e, rest) => post e rest
  | .error why => why.OfSyntax

/-- What a reading gives may be used by the reading that follows it. -/
theorem Yields.bind {mid post : Tree → List Token → Prop} {r : Except Fault (Tree × List Token)}
    {k : Tree × List Token → Except Fault (Tree × List Token)} (first : Yields mid r)
    (goesOn : ∀ e rest, r = .ok (e, rest) → mid e rest → Yields post (k (e, rest))) :
    Yields post (r.bind k) := by
  rcases r with why | ⟨e, rest⟩
  · exact first
  · exact goesOn e rest rfl first

/-- Less may be said of what a reading gives. -/
theorem Yields.mono {mid post : Tree → List Token → Prop} {r : Except Fault (Tree × List Token)}
    (first : Yields mid r) (wider : ∀ e rest, mid e rest → post e rest) : Yields post r := by
  rcases r with why | ⟨e, rest⟩
  · exact first
  · exact wider e rest first

mutual

/-- **What is read is derived.** -/
theorem yields_readLevel {line : Line} (notPrimary : line ≠ .primary) (ts : List Token) :
    Yields (Spans line ts) (outcome (readLevel line.level ts)) := by
  by_cases below : line.level < levels
  · obtain ⟨signs, operands, binary⟩ := Line.exists_binaryLine below
    have operand := yields_readLevel binary.operands_ne ts
    rw [binary.level_operands] at operand
    rw [outcome_readLevel below]
    refine operand.bind fun e rest read single => ?_
    exact yields_readChain binary (single.operand binary)
  · rw [outcome_readLevel_of_top below, Line.eq_unary notPrimary below]
    exact yields_readUnary ts
  termination_by (ts.length, 4 + (levels - line.level))
  decreasing_by
    · have := binary.level_operands
      exact Prod.Lex.right _ (by omega)
    · exact Prod.Lex.left _ _ (length_lt_of_outcome read)
    · exact Prod.Lex.right _ (by omega)

/-- A chain goes on from a left operand that its line derives from the tokens before. -/
theorem yields_readChain {line operands : Line} {signs : List (Token × BinaryOp)}
    (binary : BinaryLine line signs operands) {all ts : List Token} {left : Tree}
    (before : Spans line all left ts) :
    Yields (Spans line all) (outcome (readChain line.level left ts)) := by
  -- The tokens of the whole chain stay fixed while the left operand takes up more of them.
  match ts with
  | [] =>
    rw [outcome_readChain_nil]
    exact before
  | t :: ts =>
    cases sign : operator? line.level t with
    | none =>
        rw [outcome_readChain_none sign]
        exact before
    | some op =>
        have listed := binary.operator?_eq_some_iff.mp sign
        have operand := yields_readLevel binary.operands_ne ts
        rw [binary.level_operands] at operand
        rw [outcome_readChain_some sign]
        refine operand.bind fun e rest read right => ?_
        exact yields_readChain binary (.binary binary listed before right)
  termination_by (ts.length, 0)
  decreasing_by
    · exact Prod.Lex.left _ _ (Nat.lt_succ_self _)
    · exact Prod.Lex.left _ _ (Nat.lt_succ_of_lt (length_lt_of_outcome read))

/-- Signs are followed by a primary expression, -/
theorem yields_readUnary (ts : List Token) :
    Yields (Spans .unary ts) (outcome (readUnary ts)) := by
  match ts with
  | [] =>
    rw [readUnary]
    exact .unexpectedEnd
  | t :: ts =>
    cases sign : unaryOperator? t with
    | none =>
        rw [outcome_readUnary_none sign]
        exact (yields_readPrimary t ts).mono fun _ _ => .primary
    | some op =>
        rw [outcome_readUnary_some sign]
        refine (yields_readUnary ts).bind fun e rest _ operand => ?_
        exact operand.unary (unaryOperator?_eq_some_iff.mp sign)
  termination_by (ts.length, 3)
  decreasing_by
    · exact Prod.Lex.right _ (by omega)
    · exact Prod.Lex.left _ _ (Nat.lt_succ_self _)

/-- and that is a literal, a name, or an expression in parentheses. -/
theorem yields_readPrimary (t : Token) (ts : List Token) :
    Yields (Spans .primary (t :: ts)) (outcome (readPrimary t ts)) := by
  cases t with
  | number x =>
      rw [readPrimary]
      exact ⟨[.number x], rfl, .number x⟩
  | text s =>
      rw [readPrimary]
      exact ⟨[.text s], rfl, .text s⟩
  | name s =>
      rw [readPrimary]
      exact spans_ofName s ts
  | openParen =>
      rw [outcome_readPrimary_open]
      have inside := yields_readLevel (show Line.or ≠ .primary by decide) ts
      refine inside.bind fun e rest read inner => ?_
      cases rest with
      | nil => exact .unclosedParenthesis
      | cons u rest =>
          cases u with
          | closeParen => exact inner.parentheses
          | _ => exact .unclosedParenthesis
  | _ =>
      rw [readPrimary]
      · exact .unexpectedToken _
      all_goals nofun
  termination_by (ts.length + 1, 2)

end

/-! ### What is derived is read -/

section Complete

variable {level : Nat} {line : Line} {t : Token} {ts rest : List Token} {e : Tree}

theorem outcome_readChain_of_stops (stops : Stops level rest) :
    outcome (readChain level e rest) = .ok (e, rest) := by
  cases rest with
  | nil => exact outcome_readChain_nil
  | cons t rest => exact outcome_readChain_none stops.operator?_eq_none

/-- Above the binary operators nothing is chained. -/
theorem outcome_top_iff : outcome (readLevel levels ts) = outcome (readChain levels e rest) ↔
    outcome (readUnary ts) = .ok (e, rest) := by
  rw [outcome_readLevel_of_top (Nat.lt_irrefl levels),
    outcome_readChain_of_stops (stops_levels rest)]

theorem outcome_readUnary_name (s : String) (rest : List Token) :
    outcome (readUnary (.name s :: rest)) = .ok (.ofName s, rest) := by
  rw [outcome_readUnary_none rfl, readPrimary]
  rfl

/-- **What a line derives is read**, whatever follows but operators of higher levels; with those of
its own level the reader goes on. -/
theorem Derives.outcome_readLevel (tree : Derives line ts e) :
    ∀ rest, Stops (line.level + 1) rest →
      outcome (readLevel line.level (ts ++ rest)) = outcome (readChain line.level e rest) := by
  -- What follows is general: after a left operand it begins with a sign of the same line, with
  -- which the reader goes on, and after a right one with what follows the whole.
  induction tree with
  | @operand line operands signs ts e binary single ih =>
      intro rest stops
      rw [← binary.level_operands] at stops
      have read := ih rest (stops.mono (Nat.le_succ _))
      rw [outcome_readChain_of_stops stops, binary.level_operands] at read
      rw [Expr.outcome_readLevel binary.level_lt, read]
      rfl
  | @binary line operands signs t op ls rs l r binary sign left right ihLeft ihRight =>
      intro rest stops
      have sign := binary.operator?_eq_some_iff.mpr sign
      have first := ihLeft (t :: (rs ++ rest)) (stops_operator sign _)
      rw [← binary.level_operands] at stops
      have second := ihRight rest (stops.mono (Nat.le_succ _))
      rw [outcome_readChain_of_stops stops, binary.level_operands] at second
      rw [List.append_assoc, List.cons_append, first, outcome_readChain_some sign, second]
      rfl
  | unary sign operand ih =>
      intro rest stops
      refine outcome_top_iff.mpr ?_
      rw [List.cons_append, outcome_readUnary_some (unaryOperator?_eq_some_iff.mpr sign),
        outcome_top_iff.mp (ih rest stops)]
      rfl
  | primary single ih => exact ih
  | number x =>
      intro rest _
      refine outcome_top_iff.mpr ?_
      rw [List.singleton_append, outcome_readUnary_none rfl, readPrimary]
      rfl
  | text s =>
      intro rest _
      refine outcome_top_iff.mpr ?_
      rw [List.singleton_append, outcome_readUnary_none rfl, readPrimary]
      rfl
  | trueName => exact fun rest _ => outcome_top_iff.mpr (outcome_readUnary_name "true" rest)
  | falseName => exact fun rest _ => outcome_top_iff.mpr (outcome_readUnary_name "false" rest)
  | nullName => exact fun rest _ => outcome_top_iff.mpr (outcome_readUnary_name "null" rest)
  | @name s notTrue notFalse notNull =>
      intro rest _
      have read := outcome_readUnary_name s rest
      rw [Tree.ofName, if_neg notTrue, if_neg notFalse, if_neg notNull] at read
      exact outcome_top_iff.mpr read
  | @parentheses ts e inner ih =>
      intro rest _
      have stops : Stops (Line.or.level + 1) (.closeParen :: rest) := stops_of_level?_none rfl rest
      have read := ih (.closeParen :: rest) stops
      rw [outcome_readChain_of_stops (stops_of_level?_none rfl rest)] at read
      refine outcome_top_iff.mpr ?_
      rw [List.cons_append, List.append_assoc, List.singleton_append, outcome_readUnary_none rfl,
        outcome_readPrimary_open]
      change Except.bind (outcome (readLevel Line.or.level _)) _ = _
      rw [read]
      rfl

end Complete

/-! ### The whole of the tokens -/

theorem Tree.parse_eq (ts : List Token) : Tree.parse ts = (outcome (readLevel 0 ts)).bind fun p =>
    match p.2 with
    | [] => .ok p.1
    | t :: _ => .error (.unexpectedToken t) := by
  unfold Tree.parse
  cases readLevel 0 ts <;> rfl

theorem Tree.parse_of_derives {ts : List Token} {e : Tree} (tree : Derives .or ts e) :
    Tree.parse ts = .ok e := by
  have read := tree.outcome_readLevel [] (stops_nil _)
  rw [List.append_nil, outcome_readChain_nil] at read
  rw [Tree.parse_eq]
  change Except.bind (outcome (readLevel Line.or.level _)) _ = _
  rw [read]
  rfl

/-- Tokens are parsed to a tree that the grammar derives, or else there is a fault of the syntax. -/
theorem Tree.parse_derives (ts : List Token) :
    (∃ e, Tree.parse ts = .ok e ∧ Derives .or ts e) ∨
      ∃ why, Tree.parse ts = .error why ∧ why.OfSyntax := by
  have faithful : Yields (Spans .or ts) (outcome (readLevel 0 ts)) :=
    yields_readLevel (show Line.or ≠ .primary by decide) ts
  rw [Tree.parse_eq]
  rcases read : outcome (readLevel 0 ts) with why | ⟨e, rest⟩
  · rw [read] at faithful
    exact .inr ⟨why, rfl, faithful⟩
  · rw [read] at faithful
    cases rest with
    | nil =>
        obtain ⟨used, split, tree⟩ := faithful
        rw [List.append_nil] at split
        exact .inl ⟨e, rfl, split ▸ tree⟩
    | cons t rest => exact .inr ⟨_, rfl, .unexpectedToken t⟩

/-- **Exactly the grammar is accepted.**  Tokens are parsed to a tree if and only if the grammar
derives it from all of them; it derives one tree at most; and from tokens of which it derives none
comes a fault of the syntax, by which every expression of these tokens fails. -/
theorem Tree.parse_exact (ts : List Token) :
    (∀ e, Tree.parse ts = .ok e ↔ Derives .or ts e) ∧
      (∀ e e', Derives .or ts e → Derives .or ts e' → e = e') ∧
      ((∀ e, ¬ Derives .or ts e) → ∃ why : Fault, why.OfSyntax ∧ Tree.parse ts = .error why ∧
        ∀ expression, tokenize expression = .ok ts →
          Expr.parse expression = .error (.failed expression why)) := by
  refine ⟨fun e => ⟨fun parsed => ?_, parse_of_derives⟩, fun e e' one other => ?_, fun none => ?_⟩
  · rcases parse_derives ts with ⟨e', parsed', tree⟩ | ⟨why, failed, _⟩
    · rw [parsed] at parsed'
      cases parsed'
      exact tree
    · rw [parsed] at failed
      cases failed
  · have same := (parse_of_derives one).symm.trans (parse_of_derives other)
    exact Except.ok.inj same
  · rcases parse_derives ts with ⟨e, _, tree⟩ | ⟨why, failed, ofSyntax⟩
    · exact absurd tree (none e)
    · refine ⟨why, ofSyntax, failed, fun expression tokens => ?_⟩
      rw [Expr.parse, tokens]
      change (Tree.parse ts).mapError (Error.failed expression) = _
      rw [failed]
      rfl

/-- Differences associate to the left, and a product binds more closely. -/
example : Tree.parse [.name "a", .minus, .name "b", .minus, .name "c", .star, .name "d"] =
    .ok (.binary .sub (.binary .sub (.name "a") (.name "b"))
      (.binary .mul (.name "c") (.name "d"))) := by cbv

end Interchange.Expr
