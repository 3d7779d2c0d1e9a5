import Interchange.Expr.Token
/-!
# Expression trees

The grammar of expressions, lowest precedence first.  All binary operators associate to the left.

    or         := and ( "||" and )*
    and        := equality ( "&&" equality )*
    equality   := comparison ( ( "==" | "!=" ) comparison )*
    comparison := additive ( ( "<" | "<=" | ">" | ">=" ) additive )*
    additive   := term ( ( "+" | "-" ) term )*
    term       := unary ( ( "*" | "/" | "%" ) unary )*
    unary      := ( "!" | "-" | "+" ) unary | primary
    primary    := number | text | name | "(" or ")"

The names `true`, `false` and `null` are literals.

* `operator?` — the binary operators of a level, level 0 being `or` and level 5 `term`.
* `Tree.parse` — the tree of a list of tokens, all of which it uses.
-/

namespace Interchange.Expr

inductive BinaryOp
  | add | sub | mul | div | rem
  | less | lessEqual | greater | greaterEqual
  | equal | notEqual
  | and | or
deriving DecidableEq

inductive UnaryOp
  | not | neg | plus
deriving DecidableEq

/-- An expression. -/
inductive Tree
  | literal (s : Scalar)
  | name (s : String)
  | unary (op : UnaryOp) (operand : Tree)
  | binary (op : BinaryOp) (left right : Tree)
deriving DecidableEq

/-- The number of levels of binary operators. -/
def levels : Nat := 6

/-- The binary operator that a token is on a level. -/
def operator? : (level : Nat) → Token → Option BinaryOp
  | 0, .or => some .or
  | 1, .and => some .and
  | 2, .equal => some .equal
  | 2, .notEqual => some .notEqual
  | 3, .less => some .less
  | 3, .lessEqual => some .lessEqual
  | 3, .greater => some .greater
  | 3, .greaterEqual => some .greaterEqual
  | 4, .plus => some .add
  | 4, .minus => some .sub
  | 5, .star => some .mul
  | 5, .slash => some .div
  | 5, .percent => some .rem
  | _, _ => none

/-- The unary operator that a token is. -/
def unaryOperator? : Token → Option UnaryOp
  | .not => some .not
  | .minus => some .neg
  | .plus => some .plus
  | _ => none

/-- The tree of a name. -/
def Tree.ofName (s : String) : Tree :=
  if s = "true" then .literal (.bool true)
  else if s = "false" then .literal (.bool false)
  else if s = "null" then .literal .null
  else .name s

/-- A tree read from the beginning of some tokens, with the tokens after it. -/
structure Parsed (bound : Nat) where
  tree : Tree
  rest : List Token
  shorter : rest.length < bound

namespace Parsed

/-- The same reading seen from more tokens. -/
def widen {m n : Nat} (p : Parsed m) (h : m ≤ n) : Parsed n :=
  ⟨p.tree, p.rest, Nat.lt_of_lt_of_le p.shorter h⟩

end Parsed

mutual

/-- Reads an expression whose operators are of a level or a higher one. -/
def readLevel (level : Nat) (ts : List Token) : Except Fault (Parsed ts.length) :=
  if level < levels then
    match readLevel (level + 1) ts with
    | .error e => .error e
    | .ok p => (readChain level p.tree p.rest).map fun q => ⟨q.tree, q.rest, by
        have := p.shorter
        have := q.shorter
        omega⟩
  else readUnary ts
  termination_by (ts.length, 4 + (levels - level))
  decreasing_by
    · exact Prod.Lex.right _ (by simp only [levels] at *; omega)
    · exact Prod.Lex.left _ _ p.shorter
    · exact Prod.Lex.right _ (by simp only [levels] at *; omega)

/-- Reads on after a left operand, as long as operators of the level follow. -/
def readChain (level : Nat) (left : Tree) (ts : List Token) :
    Except Fault (Parsed (ts.length + 1)) :=
  match ts with
  | [] => .ok ⟨left, [], by simp⟩
  | t :: rest =>
    match operator? level t with
    | none => .ok ⟨left, t :: rest, by simp⟩
    | some op =>
      match readLevel (level + 1) rest with
      | .error e => .error e
      | .ok p => (readChain level (.binary op left p.tree) p.rest).map fun q =>
          ⟨q.tree, q.rest, by
            have := p.shorter
            have := q.shorter
            simp only [List.length_cons]
            omega⟩
  termination_by (ts.length, 0)
  decreasing_by
    · exact Prod.Lex.left _ _ (by simp)
    · exact Prod.Lex.left _ _ (by have := p.shorter; simp only [List.length_cons]; omega)

/-- Reads unary operators and what they apply to. -/
def readUnary (ts : List Token) : Except Fault (Parsed ts.length) :=
  match ts with
  | [] => .error .unexpectedEnd
  | t :: rest =>
    match unaryOperator? t with
    | some op => (readUnary rest).map fun p => ⟨.unary op p.tree, p.rest, by
        have := p.shorter
        simp only [List.length_cons]
        omega⟩
    | none => readPrimary t rest
  termination_by (ts.length, 3)
  decreasing_by
    · exact Prod.Lex.left _ _ (by simp)
    · exact Prod.Lex.right _ (by omega)

/-- Reads a literal, a name or an expression in parentheses. -/
def readPrimary (t : Token) (rest : List Token) : Except Fault (Parsed (rest.length + 1)) :=
  match t with
  | .number x => .ok ⟨.literal (.number x), rest, by simp⟩
  | .text s => .ok ⟨.literal (.text s), rest, by simp⟩
  | .name s => .ok ⟨.ofName s, rest, by simp⟩
  | .openParen =>
    match readLevel 0 rest with
    | .error e => .error e
    | .ok p =>
      match h : p.rest with
      | .closeParen :: after => .ok ⟨p.tree, after, by
          have := p.shorter
          rw [h] at this
          simp only [List.length_cons] at this
          omega⟩
      | _ => .error .unclosedParenthesis
  | t => .error (.unexpectedToken t)
  termination_by (rest.length + 1, 2)
  decreasing_by
    · exact Prod.Lex.left _ _ (by simp)

end

/-- The tree of a list of tokens. -/
def Tree.parse (ts : List Token) : Except Fault Tree :=
  match readLevel 0 ts with
  | .error e => .error e
  | .ok p =>
    match p.rest with
    | [] => .ok p.tree
    | t :: _ => .error (.unexpectedToken t)

end Interchange.Expr
