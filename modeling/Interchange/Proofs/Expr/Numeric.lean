import Interchange.Proofs.Expr.Scope
/-!
# Arithmetic is numeric throughout

In arithmetic the gate lets names pass that are bound to numbers, whatever they are.  The reader
takes three names for literals, whether they are bound or not.  As long as an expression has none of
these, its tree holds numbers and the signs of arithmetic only, and what is calculated is what the
expression says with the numbers in the place of the names.  A field of the source that is called
`true`, `false` or `null` lets the literal into arithmetic under its name.

* `Tree.Arithmetic` — the trees of arithmetic.
* `Tree.Arithmetic.calculated_eval` — they give a number, or divide by zero.
* `Derives.filledIn` — the grammar does not tell a name from its number.
* `numericThroughout_iff` — an expression that the gate accepts is numeric throughout exactly if no
  name in it is a literal.
-/

namespace Interchange.Expr

/-! ### What arithmetic is -/

/-- **The trees of arithmetic**: numbers, names that are bound to numbers, and the operators whose
signs the gate lets pass. -/
inductive Tree.Arithmetic (b : Bindings) : Tree → Prop
  | number (x : Float) : Arithmetic b (.literal (.number x))
  | name {s : String} {x : Float} (bound : b.get? s = some (.number x)) : Arithmetic b (.name s)
  | unary {op : UnaryOp} {e : Tree} (signed : op ∈ [.neg, .plus]) (operand : Arithmetic b e) :
      Arithmetic b (.unary op e)
  | binary {op : BinaryOp} {l r : Tree} (signed : op ∈ [.add, .sub, .mul, .div, .rem])
      (left : Arithmetic b l) (right : Arithmetic b r) : Arithmetic b (.binary op l r)

/-- **What a calculation comes to**: a number, unless something is divided by zero. -/
inductive Calculated : Except Fault Scalar → Prop
  | number (x : Float) : Calculated (.ok (.number x))
  | divisionByZero : Calculated (.error .divisionByZero)

/-- Whether a token is not one of the names that are read as literals. -/
def Token.Plain (t : Token) : Prop := ∀ name, t = .name name → name ∉ ["true", "false", "null"]

/-- A token, with the number of a name in its place. -/
def Token.filledIn (b : Bindings) : Token → Token
  | .name s =>
    match b.get? s with
    | some (.number x) => .number x
    | _ => .name s
  | t => t

/-- A tree, with the numbers of names in their places. -/
def Tree.filledIn (b : Bindings) : Tree → Tree
  | .literal s => .literal s
  | .name s =>
    match b.get? s with
    | some (.number x) => .literal (.number x)
    | _ => .name s
  | .unary op e => .unary op (e.filledIn b)
  | .binary op l r => .binary op (l.filledIn b) (r.filledIn b)

/-! ### Calculating -/

theorem Calculated.bind {r : Except Fault Scalar} {f : Scalar → Except Fault Scalar}
    (first : Calculated r) (next : ∀ x, Calculated (f (.number x))) : Calculated (r >>= f) := by
  cases first with
  | number x => exact next x
  | divisionByZero => exact .divisionByZero

/-- Numbers are divided, unless the divisor is zero. -/
theorem calculated_division (f : Float → Float → Float) (x y : Float) :
    Calculated (division f (.number x) (.number y)) := by
  change Calculated (if y == 0.0 then .error .divisionByZero else .ok (.number (f x y)))
  split
  · exact .divisionByZero
  · exact .number _

theorem BinaryOp.calculated_apply {op : BinaryOp} (signed : op ∈ [.add, .sub, .mul, .div, .rem])
    (x y : Float) : Calculated (op.apply (.number x) (.number y)) := by
  cases op with
  | add | sub | mul => exact .number _
  | div | rem => exact calculated_division _ x y
  | _ => simp at signed

theorem UnaryOp.calculated_apply {op : UnaryOp} (signed : op ∈ [.neg, .plus]) (x : Float) :
    Calculated (op.apply (.number x)) := by
  cases op with
  | neg | plus => exact .number _
  | not => simp at signed

namespace Tree

variable {b : Bindings} {e : Tree}

/-- Operators of arithmetic look at both sides. -/
theorem eval_binary {op : BinaryOp} (signed : op ∈ [.add, .sub, .mul, .div, .rem]) (l r : Tree) :
    (binary op l r).eval b = l.eval b >>= fun x => r.eval b >>= fun y => op.apply x y := by
  have notAnd : op ≠ .and := by
    rintro rfl
    simp at signed
  have notOr : op ≠ .or := by
    rintro rfl
    simp at signed
  rw [eval]
  · exact notAnd
  · exact notOr

/-- **A tree of arithmetic gives a number, or divides by zero.** -/
theorem Arithmetic.calculated_eval (arithmetic : e.Arithmetic b) : Calculated (e.eval b) := by
  induction arithmetic with
  | number x => exact .number x
  | name bound =>
      rw [eval, bound]
      exact .number _
  | unary signed _ ih =>
      rw [eval]
      exact ih.bind fun x => UnaryOp.calculated_apply signed x
  | binary signed _ _ ihLeft ihRight =>
      rw [eval_binary signed]
      exact ihLeft.bind fun x => ihRight.bind fun y => BinaryOp.calculated_apply signed x y

/-- With the numbers in the place of the names, nothing need be bound. -/
theorem Arithmetic.eval_filledIn (arithmetic : e.Arithmetic b) :
    (e.filledIn b).eval [] = e.eval b := by
  induction arithmetic with
  | number x => rfl
  | name bound => simp only [filledIn, eval, bound]
  | unary _ _ ih => rw [filledIn, eval, eval, ih]
  | binary signed _ _ ihLeft ihRight =>
      rw [filledIn, eval_binary signed, eval_binary signed, ihLeft, ihRight]

end Tree

/-! ### Reading -/

section Reading

variable {b : Bindings} {line : Line} {ts : List Token} {e : Tree}

/-- The signs of arithmetic are the signs of its operators. -/
theorem BinaryLine.signed {operands : Line} {signs : List (Token × BinaryOp)} {t : Token}
    {op : BinaryOp} (binary : BinaryLine line signs operands) (sign : (t, op) ∈ signs)
    (ofArithmetic : t.OfArithmetic b) :
    op ∈ [BinaryOp.add, .sub, .mul, .div, .rem] ∧ t.filledIn b = t := by
  cases ofArithmetic <;> cases binary <;> simp at sign <;> simp [sign, Token.filledIn]

theorem signed_of_unarySigns {t : Token} {op : UnaryOp} (sign : (t, op) ∈ unarySigns)
    (ofArithmetic : t.OfArithmetic b) : op ∈ [UnaryOp.neg, .plus] ∧ t.filledIn b = t := by
  cases ofArithmetic <;> simp [unarySigns] at sign <;> simp [sign, Token.filledIn]

/-- **The tree of an expression in arithmetic** is one of arithmetic, if no name is a literal, and
it is read in the same way with the numbers in the place of the names. -/
theorem Derives.arithmetic (tree : Derives line ts e)
    (tokens : ∀ t ∈ ts, t.OfArithmetic b ∧ t.Plain) :
    e.Arithmetic b ∧ Derives line (ts.map (Token.filledIn b)) (e.filledIn b) := by
  induction tree with
  | operand binary _ ih => exact (ih tokens).imp_right (.operand binary)
  | binary binary sign _ _ ihLeft ihRight =>
      rw [List.forall_mem_append, List.forall_mem_cons] at tokens
      obtain ⟨left, here, right⟩ := tokens
      obtain ⟨signed, same⟩ := binary.signed sign here.1
      obtain ⟨arithmeticLeft, derivesLeft⟩ := ihLeft left
      obtain ⟨arithmeticRight, derivesRight⟩ := ihRight right
      rw [List.map_append, List.map_cons, same]
      exact ⟨.binary signed arithmeticLeft arithmeticRight,
        .binary binary sign derivesLeft derivesRight⟩
  | unary sign _ ih =>
      rw [List.forall_mem_cons] at tokens
      obtain ⟨here, operand⟩ := tokens
      obtain ⟨signed, same⟩ := signed_of_unarySigns sign here.1
      obtain ⟨arithmetic, derives⟩ := ih operand
      rw [List.map_cons, same]
      exact ⟨.unary signed arithmetic, .unary sign derives⟩
  | primary _ ih => exact (ih tokens).imp_right .primary
  | number x => exact ⟨.number x, .number x⟩
  | text s => cases (tokens _ List.mem_cons_self).1
  | trueName | falseName | nullName =>
      exact absurd (by simp) ((tokens _ List.mem_cons_self).2 _ rfl)
  | @name s notTrue notFalse notNull =>
      cases (tokens _ List.mem_cons_self).1 with
      | name bound =>
          simp only [Tree.filledIn, List.map_cons, List.map_nil, Token.filledIn, bound]
          exact ⟨.name bound, .number _⟩
  | parentheses _ ih =>
      rw [List.forall_mem_cons, List.forall_mem_append] at tokens
      obtain ⟨arithmetic, derives⟩ := ih tokens.2.1
      rw [List.map_cons, List.map_append]
      exact ⟨arithmetic, .parentheses derives⟩

/-- A name that is bound to a number is read as that number exactly if it is no literal. -/
theorem eval_ofName_iff {name : String} {x : Float} (bound : b.get? name = some (.number x)) :
    (Tree.ofName name).eval b = .ok (.number x) ↔ name ∉ ["true", "false", "null"] := by
  unfold Tree.ofName
  split
  · simp [Tree.eval, *]
  split
  · simp [Tree.eval, *]
  split
  · simp [Tree.eval, *]
  · simp [Tree.eval, *]

end Reading

/-! ### Expressions -/

/-- A text is scanned step by step. -/
theorem Token.scan_of_read {position more : Nat} {c : Char} {cs : List Char}
    {token? : Option Token} {ts : List Token} (read : Token.read position c cs = .ok (token?, more))
    (rest : scan (position + 1 + more) (cs.drop more) = .ok ts) :
    scan position (c :: cs) = .ok (token?.toList ++ ts) := by
  rw [scan_cons, read]
  change (scan (position + 1 + more) (cs.drop more) >>= _) = _
  rw [rest]
  rfl

section Expression

variable {expression : String} {b : Bindings} {ts : List Token} {e : Tree}

/-- **An expression that is numeric throughout**, by its tokens and its tree. -/
structure NumericThroughout (expression : String) (b : Bindings) (ts : List Token) (e : Tree) :
    Prop where
  /-- Every name is bound to a number, and read as that number. -/
  names : ∀ name, .name name ∈ ts →
    ∃ x, b.get? name = some (.number x) ∧ (Tree.ofName name).eval b = .ok (.number x)
  /-- With the numbers in the place of the names, the same is calculated without any. -/
  filledIn : ∃ e', Tree.parse (ts.map (Token.filledIn b)) = .ok e' ∧ e'.eval [] = e.eval b
  /-- The expression gives a number, or divides by zero. -/
  outcome : (∃ x, evaluate expression b .arithmetic = .ok (.number x)) ∨
    evaluate expression b .arithmetic = .error (.failed expression .divisionByZero)

theorem evaluate_eq (accepted : checkSafety expression b .arithmetic = .ok ())
    (tokens : tokenize expression = .ok ts) (parsed : Tree.parse ts = .ok e) :
    evaluate expression b .arithmetic = (e.eval b).mapError (.failed expression) := by
  have read : parse expression = .ok e := by
    rw [parse, tokens]
    change (Tree.parse ts).mapError _ = _
    rw [parsed]
    rfl
  rw [evaluate, accepted, read]
  rfl

theorem Calculated.evaluated {r : Except Fault Scalar} (calculated : Calculated r) :
    (∃ x, r.mapError (Error.failed expression) = .ok (.number x)) ∨
      r.mapError (Error.failed expression) = .error (.failed expression .divisionByZero) := by
  cases calculated with
  | number x => exact .inl ⟨x, rfl⟩
  | divisionByZero => exact .inr rfl

/-- **Arithmetic is numeric throughout exactly if no name in it is a literal.**  Of an expression
that the gate accepts as arithmetic, every name is read as the number that it is bound to, and what
is calculated is a number or divides by zero, if and only if none of its names is `true`, `false` or
`null`; which the gate lets pass if they are bound to numbers. -/
theorem numericThroughout_iff (accepted : checkSafety expression b .arithmetic = .ok ())
    (tokens : tokenize expression = .ok ts) (parsed : Tree.parse ts = .ok e) :
    NumericThroughout expression b ts e ↔
      ∀ name, .name name ∈ ts → name ∉ ["true", "false", "null"] := by
  have vetted := vetted_of_tokenize accepted tokens
  constructor
  · intro numeric name member
    obtain ⟨x, bound, read⟩ := numeric.names name member
    exact (eval_ofName_iff bound).mp read
  · intro plain
    have ofArithmetic : ∀ t ∈ ts, t.OfArithmetic b ∧ t.Plain := fun t member =>
      ⟨(vetted t member).arithmetic rfl, fun name same => plain name (same ▸ member)⟩
    rcases Tree.parse_derives ts with ⟨e', read, tree⟩ | ⟨why, failed, -⟩
    · rw [parsed] at read
      cases read
      obtain ⟨arithmetic, filled⟩ := tree.arithmetic ofArithmetic
      refine ⟨fun name member => ?_, ?_, ?_⟩
      · cases (ofArithmetic _ member).1 with
        | name bound => exact ⟨_, bound, (eval_ofName_iff bound).mpr (plain name member)⟩
      · exact ⟨e.filledIn b, Tree.parse_of_derives filled, arithmetic.eval_filledIn⟩
      · rw [evaluate_eq accepted tokens parsed]
        exact arithmetic.calculated_eval.evaluated
    · rw [parsed] at failed
      cases failed

/-- A name may begin like a literal. -/
theorem fee_numeric :
    let b : Bindings := [("fee", .number 25.0), ("true_up", .number 4.0)]
    let ts : List Token := [.name "fee", .slash, .minus, .name "true_up"]
    let e : Tree := .binary .div (.name "fee") (.unary .neg (.name "true_up"))
    checkSafety "fee/-true_up" b .arithmetic = .ok () ∧ tokenize "fee/-true_up" = .ok ts ∧
      Tree.parse ts = .ok e ∧ NumericThroughout "fee/-true_up" b ts e := by
  intro b ts e
  have chars : "fee/-true_up".toList =
    ['f', 'e', 'e', '/', '-', 't', 'r', 'u', 'e', '_', 'u', 'p'] := by decide
  have accepts : Gate.Accepts b .arithmetic "fee/-true_up".toList := by
    rw [chars]
    refine Gate.accepts_cons.mpr ⟨2, rfl, ?_⟩
    refine Gate.accepts_cons.mpr ⟨0, rfl, ?_⟩
    refine Gate.accepts_cons.mpr ⟨0, rfl, ?_⟩
    exact Gate.accepts_cons.mpr ⟨6, rfl, Gate.checkFrom.eq_1 ..⟩
  have accepted : checkSafety "fee/-true_up" b .arithmetic = .ok () := by
    rw [checkSafety, Gate.check, if_neg (by decide), show Gate.checkFrom _ _ _ = _ from accepts]
    rfl
  have scanned : Token.scan 0 "fee/-true_up".toList = .ok ts := by
    rw [chars]
    refine Token.scan_of_read (rfl : Token.read 0 'f' _ = .ok (some (.name "fee"), 2)) ?_
    refine Token.scan_of_read (rfl : Token.read 3 '/' _ = .ok (some .slash, 0)) ?_
    refine Token.scan_of_read (rfl : Token.read 4 '-' _ = .ok (some .minus, 0)) ?_
    exact Token.scan_of_read (rfl : Token.read 5 't' _ = .ok (some (.name "true_up"), 6))
      (Token.scan_nil _)
  have tokens : tokenize "fee/-true_up" = .ok ts := by
    rw [tokenize, scanned]
    rfl
  have fee : Derives .term [.name "fee"] (.name "fee") :=
    .operand .term (.primary (.name (by decide) (by decide) (by decide)))
  have trueUp : Derives .unary [.minus, .name "true_up"] (.unary .neg (.name "true_up")) :=
    .unary (by decide) (.primary (.name (by decide) (by decide) (by decide)))
  have quotient : Derives .term ts e := .binary .term (by decide) fee trueUp
  have parsed : Tree.parse ts = .ok e := Tree.parse_of_derives
    (.operand .or (.operand .and (.operand .equality (.operand .comparison
      (.operand .additive quotient)))))
  exact ⟨accepted, tokens, parsed,
    (numericThroughout_iff accepted tokens parsed).mpr (by simp [ts])⟩

/-- But a field called `true` is a number at the gate, and a truth value afterwards. -/
theorem true_not_numeric :
    let b : Bindings := [("true", .number 5.0)]
    b.get? "true" = some (.number 5.0) ∧ checkSafety "true" b .arithmetic = .ok () ∧
      tokenize "true" = .ok [.name "true"] ∧
      Tree.parse [.name "true"] = .ok (.literal (.bool true)) ∧
      evaluate "true" b .arithmetic = .ok (.bool true) ∧
      ¬ NumericThroughout "true" b [.name "true"] (.literal (.bool true)) := by
  intro b
  have accepts : Gate.Accepts b .arithmetic "true".toList :=
    Gate.accepts_cons.mpr ⟨3, rfl, Gate.checkFrom.eq_1 ..⟩
  have accepted : checkSafety "true" b .arithmetic = .ok () := by
    rw [checkSafety, Gate.check, if_neg (by decide), show Gate.checkFrom _ _ _ = _ from accepts]
    rfl
  have scanned : Token.scan 0 "true".toList = .ok [.name "true"] :=
    Token.scan_of_read (rfl : Token.read 0 't' _ = .ok (some (.name "true"), 3))
      (Token.scan_nil _)
  have tokens : tokenize "true" = .ok [.name "true"] := by
    rw [tokenize, scanned]
    rfl
  have parsed : Tree.parse [.name "true"] = .ok (.literal (.bool true)) := Tree.parse_of_derives
    (.operand .or (.operand .and (.operand .equality (.operand .comparison (.operand .additive
      (.operand .term (.primary .trueName)))))))
  have evaluated : evaluate "true" b .arithmetic = .ok (.bool true) :=
    evaluate_eq accepted tokens parsed
  refine ⟨rfl, accepted, tokens, parsed, evaluated, fun numeric => ?_⟩
  rcases numeric.outcome with ⟨x, number⟩ | zero
  · rw [evaluated] at number
    cases number
  · rw [evaluated] at zero
    cases zero

end Expression

end Interchange.Expr
