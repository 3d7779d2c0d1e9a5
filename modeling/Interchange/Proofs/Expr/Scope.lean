import Interchange.Proofs.Error
import Interchange.Proofs.Expr.Grammar
import Interchange.Proofs.Outcome
/-!
# Names that expressions read

The gate and the scanner look at a text independently of each other, and where the scanner takes
several characters for a number or an operator, the gate takes one at a time.  But such characters
begin neither a name nor a quoted text, so that wherever a token begins, the gate looks afresh as
well.  Every name that the scanner reads was thus looked up by the gate, and the names of a tree are
among those that were read.

* `Gate.Accepts.read` — one token of an accepted text, and the text after it.
* `Gate.vetted_of_scan` — what the gate lets pass of tokens.
* `Tree.eval_failsWith` — a tree whose names are bound does not fail over an unbound one.
* `covered_of_checkSafety` — what is known of an accepted expression.
-/

namespace Interchange.Expr

/-! ### What may stand in an expression -/

/-- Whether a name may stand in an expression: it is bound, or a literal of a condition. -/
def Bindings.Knows (b : Bindings) (mode : Mode) (name : String) : Prop :=
  (∃ s, b.get? name = some s) ∨ mode = .condition ∧ name ∈ ["true", "false", "null"]

/-- **The tokens of arithmetic**: numbers, names that are bound to numbers, and some signs. -/
inductive Token.OfArithmetic (b : Bindings) : Token → Prop
  | number (x : Float) : OfArithmetic b (.number x)
  | name {s : String} {x : Float} (bound : b.get? s = some (.number x)) : OfArithmetic b (.name s)
  | plus : OfArithmetic b .plus
  | minus : OfArithmetic b .minus
  | star : OfArithmetic b .star
  | slash : OfArithmetic b .slash
  | percent : OfArithmetic b .percent
  | openParen : OfArithmetic b .openParen
  | closeParen : OfArithmetic b .closeParen

/-- **What the gate lets pass** of tokens. -/
structure Token.Vetted (b : Bindings) (mode : Mode) (t : Token) : Prop where
  known : ∀ name, t = .name name → b.Knows mode name
  arithmetic : mode = .arithmetic → t.OfArithmetic b

/-- Whether a fault is over a name that is not bound. -/
def Fault.isUnbound : Fault → Bool
  | .unbound _ => true
  | _ => false

/-- Whether a fault is over anything else. -/
def Fault.Other (why : Fault) : Prop := why.isUnbound = false

/-- The names that a tree reads. -/
def Tree.names : Tree → List String
  | .literal _ => []
  | .name s => [s]
  | .unary _ e => e.names
  | .binary _ l r => l.names ++ r.names

/-! ### Characters that the gate takes by themselves -/

/-- Whether a character begins neither a name nor a quoted text. -/
def Token.StandsAlone (c : Char) : Prop := beginsName c = false ∧ isQuote c = false

instance (c : Char) : Decidable (Token.StandsAlone c) := inferInstanceAs (Decidable (_ ∧ _))

namespace Token

/-- The code points of letters, of the underscore and of the two quotes. -/
theorem standsAlone_iff {c : Char} : StandsAlone c ↔
    ¬ (65 ≤ c.toNat ∧ c.toNat ≤ 90) ∧ ¬ (97 ≤ c.toNat ∧ c.toNat ≤ 122) ∧ c.toNat ≠ 95 ∧
      c.toNat ≠ 34 ∧ c.toNat ≠ 39 := by
  have upper : c.isUpper = true ↔ 65 ≤ c.toNat ∧ c.toNat ≤ 90 := by
    change decide (65 ≤ c.val ∧ c.val ≤ 90) = true ↔ _
    rw [decide_eq_true_eq, UInt32.le_iff_toNat_le, UInt32.le_iff_toNat_le]
    rfl
  have lower : c.isLower = true ↔ 97 ≤ c.toNat ∧ c.toNat ≤ 122 := by
    change (decide (97 ≤ c.val) && decide (c.val ≤ 122)) = true ↔ _
    rw [Bool.and_eq_true, decide_eq_true_eq, decide_eq_true_eq, UInt32.le_iff_toNat_le,
      UInt32.le_iff_toNat_le]
    rfl
  have letter : c.isAlpha = (c.isUpper || c.isLower) := rfl
  have same : ∀ d : Char, c = d ↔ c.toNat = d.toNat := fun d => Char.toNat_inj.symm
  simp only [StandsAlone, beginsName, isQuote, letter, ← Bool.not_eq_true, Bool.or_eq_true,
    not_or, upper, lower, decide_eq_true_eq, same, and_assoc]
  rfl

/-- A blank begins neither a name nor a text, -/
theorem standsAlone_of_isBlank {c : Char} (blank : Text.isBlank c = true) : StandsAlone c := by
  simp only [Text.isBlank, Bool.or_eq_true, Bool.and_eq_true, decide_eq_true_eq, beq_iff_eq]
    at blank
  rw [standsAlone_iff]
  omega

/-- nor does a character of a number. -/
theorem standsAlone_of_isNumeral {c : Char} (numeral : isNumeral c = true) : StandsAlone c := by
  simp only [isNumeral, Char.isDigit, Bool.or_eq_true, Bool.and_eq_true, decide_eq_true_eq,
    ge_iff_le, UInt32.le_iff_toNat_le] at numeral
  rcases numeral with digit | rfl
  · have range : 48 ≤ c.toNat ∧ c.toNat ≤ 57 := digit
    rw [standsAlone_iff]
    omega
  · decide

/-- So the gate takes the first character of a number by itself, too. -/
theorem standsAlone_of_beginsNumber {c : Char} {cs : List Char}
    (begins : beginsNumber c cs = true) : StandsAlone c := by
  apply standsAlone_of_isNumeral
  simp only [beginsNumber, Bool.or_eq_true, Bool.and_eq_true] at begins
  rcases begins with digit | ⟨point, -⟩
  · rw [isNumeral, digit, Bool.true_or]
  · rw [isNumeral, point, Bool.or_true]

/-- The characters of a number after the first all stand alone. -/
theorem standsAlone_of_run (cs : List Char) :
    ∀ d ∈ cs.take (cs.takeWhile isNumeral).length, StandsAlone d := by
  rw [← List.prefix_iff_eq_take.mp (List.takeWhile_prefix isNumeral)]
  intro d member
  have numerals : (cs.takeWhile isNumeral).all isNumeral = true := List.all_takeWhile
  exact standsAlone_of_isNumeral (List.all_eq_true.mp numerals d member)

section Signs

variable {c : Char} {cs : List Char} {t : Token} {more : Nat}

/-- No sign is a name. -/
theorem ne_name_of_sign? (sign : sign? c cs = some (t, more)) (name : String) : t ≠ .name name := by
  unfold sign? at sign
  split at sign <;> cases sign <;> nofun

/-- The further characters of a sign are equals signs, ampersands and bars. -/
theorem standsAlone_of_sign? (sign : sign? c cs = some (t, more)) :
    ∀ d ∈ cs.take more, StandsAlone d := by
  unfold sign? at sign
  split at sign <;> cases sign <;> simp <;> decide

/-- A sign that begins like one of arithmetic is one. -/
theorem ofArithmetic_of_sign? (b : Bindings) (sign : sign? c cs = some (t, more))
    (arithmetic : Gate.isArithmetic c = true) : t.OfArithmetic b := by
  unfold sign? at sign
  split at sign
  · cases sign; exact .plus
  · cases sign; exact .minus
  · cases sign; exact .star
  · cases sign; exact .slash
  · cases sign; exact .percent
  · cases sign; exact .openParen
  · cases sign; exact .closeParen
  all_goals cases sign <;> exact absurd arithmetic (by decide)

end Signs

@[simp]
theorem scan_nil (position : Nat) : scan position [] = .ok [] := by
  rw [scan.eq_def]

/-- The scanner reads one token or blank, and goes on behind it. -/
theorem scan_cons (position : Nat) (c : Char) (cs : List Char) :
    scan position (c :: cs) = (read position c cs >>= fun step =>
      scan (position + 1 + step.2) (cs.drop step.2) >>= fun rest =>
        pure (step.1.toList ++ rest)) := by
  rw [scan.eq_def]

/-- The tokens of a text are those of its first step and those of what the step leaves. -/
theorem scan_cons_ok {position : Nat} {c : Char} {cs : List Char} {ts : List Token}
    (scanned : scan position (c :: cs) = .ok ts) :
    ∃ token? more rest, read position c cs = .ok (token?, more) ∧
      scan (position + 1 + more) (cs.drop more) = .ok rest ∧ ts = token?.toList ++ rest := by
  rw [scan_cons] at scanned
  obtain ⟨⟨token?, more⟩, first, scanned⟩ := bind_eq_ok.mp scanned
  obtain ⟨rest, others, joined⟩ := bind_eq_ok.mp scanned
  exact ⟨token?, more, rest, first, others, (Except.ok.inj joined).symm⟩

end Token

/-! ### The gate and the scanner -/

namespace Gate

variable {b : Bindings} {mode : Mode} {c : Char} {cs : List Char}

/-- Whether the gate accepts characters. -/
def Accepts (b : Bindings) (mode : Mode) (cs : List Char) : Prop := checkFrom b mode cs = .ok ()

/-- The gate takes one step, and accepts the rest. -/
theorem accepts_cons : Accepts b mode (c :: cs) ↔
    ∃ more, step b mode c cs = .ok more ∧ Accepts b mode (cs.drop more) := by
  unfold Accepts
  rw [checkFrom]
  exact bind_eq_ok

/-- A character that stands alone is passed over by itself, and permitted by the mode. -/
theorem Accepts.alone (accepts : Accepts b mode (c :: cs)) (alone : Token.StandsAlone c) :
    (mode = .arithmetic → isArithmetic c = true) ∧ Accepts b mode cs := by
  obtain ⟨noName, noQuote⟩ := alone
  obtain ⟨more, stepped, rest⟩ := accepts_cons.mp accepts
  rw [step, if_neg (by simp [noName]), if_neg (by simp [noQuote])] at stepped
  split at stepped
  · next permitted =>
      cases stepped
      refine ⟨fun arithmetic => ?_, rest⟩
      simpa [arithmetic] using permitted
  · cases stepped

/-- Characters that stand alone can be passed over: the gate accepts what is behind them. -/
theorem Accepts.drop (n : Nat) : ∀ {cs : List Char}, Accepts b mode cs →
    (∀ d ∈ cs.take n, Token.StandsAlone d) → Accepts b mode (cs.drop n) := by
  induction n with
  | zero => intro cs accepts _; exact accepts
  | succ n ih =>
      intro cs accepts alone
      cases cs with
      | nil => exact accepts
      | cons c cs =>
          rw [List.take_succ_cons, List.forall_mem_cons] at alone
          exact ih (accepts.alone alone.1).2 alone.2

/-- A name that is let through is known, and in arithmetic it stands for a number. -/
theorem checkName_ok {name : String} (checked : checkName b mode name = .ok ()) :
    b.Knows mode name ∧ (mode = .arithmetic → Token.OfArithmetic b (.name name)) := by
  unfold checkName at checked
  split at checked
  · next x mode found => exact ⟨.inl ⟨_, found⟩, fun _ => .name found⟩
  · next s found => exact ⟨.inl ⟨_, found⟩, nofun⟩
  · cases checked
  · split at checked
    · next literal => exact ⟨.inr ⟨rfl, by simpa [literals] using literal⟩, nofun⟩
    · cases checked
  · cases checked

/-- Where a name begins, the gate has looked at all of it, and goes on behind it. -/
theorem Accepts.name (accepts : Accepts b mode (c :: cs)) (begins : Token.beginsName c = true) :
    checkName b mode (String.ofList (c :: cs.takeWhile Token.isNameChar)) = .ok () ∧
      Accepts b mode (cs.drop (cs.takeWhile Token.isNameChar).length) := by
  obtain ⟨more, stepped, rest⟩ := accepts_cons.mp accepts
  rw [step, if_pos begins] at stepped
  obtain ⟨_, checked, rfl⟩ := map_eq_ok.mp stepped
  exact ⟨checked, rest⟩

/-- A quoted text is for conditions only, where the gate looks for its end as the scanner does. -/
theorem Accepts.quoted (accepts : Accepts b mode (c :: cs)) (quote : Token.isQuote c = true) :
    mode = .condition ∧ Accepts b mode (cs.drop ((cs.takeWhile (· ≠ c)).length + 1)) := by
  have noSign : Token.beginsName c = false ∧ isArithmetic c = false := by
    simp only [Token.isQuote, Bool.or_eq_true, decide_eq_true_eq] at quote
    rcases quote with rfl | rfl <;> decide
  obtain ⟨more, stepped, rest⟩ := accepts_cons.mp accepts
  rw [step, if_neg (by simp [noSign.1])] at stepped
  cases mode with
  | arithmetic =>
      rw [if_neg (by simp), if_neg (by simp [noSign.2])] at stepped
      cases stepped
  | condition =>
      rw [if_pos (by simp [quote])] at stepped
      dsimp only at stepped
      split at stepped
      · cases stepped
        exact ⟨rfl, rest⟩
      · cases stepped

/-- **Where a token begins, the gate looks afresh**: of an accepted text every token is let pass,
and the text after it is accepted. -/
theorem Accepts.read (accepts : Accepts b mode (c :: cs)) {position more : Nat}
    {token? : Option Token} (read : Token.read position c cs = .ok (token?, more)) :
    (∀ t ∈ token?, t.Vetted b mode) ∧ Accepts b mode (cs.drop more) := by
  unfold Token.read at read
  split at read
  · next blank =>
      cases read
      exact ⟨nofun, (accepts.alone (Token.standsAlone_of_isBlank blank)).2⟩
  split at read
  · next begins =>
      -- The gate passes over a number character by character.
      have after := (accepts.alone (Token.standsAlone_of_beginsNumber begins)).2
      have run := after.drop (cs.takeWhile Token.isNumeral).length (Token.standsAlone_of_run cs)
      dsimp only at read
      split at read
      · cases read
        refine ⟨?_, run⟩
        rintro _ ⟨⟩
        exact ⟨nofun, fun _ => .number _⟩
      · cases read
  split at read
  · next begins =>
      cases read
      obtain ⟨checked, rest⟩ := accepts.name begins
      obtain ⟨known, arithmetic⟩ := checkName_ok checked
      refine ⟨?_, rest⟩
      rintro _ ⟨⟩
      refine ⟨?_, arithmetic⟩
      rintro _ ⟨⟩
      exact known
  split at read
  · next quote =>
      obtain ⟨condition, rest⟩ := accepts.quoted quote
      dsimp only at read
      split at read
      · cases read
        refine ⟨?_, rest⟩
        rintro _ ⟨⟩
        refine ⟨nofun, fun arithmetic => ?_⟩
        rw [condition] at arithmetic
        cases arithmetic
      · cases read
  · next noName noQuote =>
      -- The mode permits the first character, and in arithmetic a sign that begins so has no
      -- second.
      obtain ⟨permitted, after⟩ := accepts.alone ⟨by simpa using noName, by simpa using noQuote⟩
      split at read
      · next t more sign =>
          cases read
          refine ⟨?_, after.drop more (Token.standsAlone_of_sign? sign)⟩
          rintro _ ⟨⟩
          exact ⟨fun name same => absurd same (Token.ne_name_of_sign? sign name),
            fun arithmetic => Token.ofArithmetic_of_sign? b sign (permitted arithmetic)⟩
      · cases read

/-- **What the gate lets pass** of the tokens that are scanned. -/
theorem vetted_of_scan {position : Nat} {cs : List Char} : ∀ {ts : List Token},
    Accepts b mode cs → Token.scan position cs = .ok ts → ∀ t ∈ ts, t.Vetted b mode := by
  induction position, cs using Token.scan.induct with
  | case1 position =>
      intro ts _ scanned
      rw [Token.scan_nil] at scanned
      cases scanned
      nofun
  | case2 position c cs ih =>
      intro ts accepts scanned
      -- Both go on from the same character, whatever the gate has done in between.
      obtain ⟨token?, more, rest, read, others, rfl⟩ := Token.scan_cons_ok scanned
      obtain ⟨vetted, after⟩ := accepts.read read
      intro t member
      rcases List.mem_append.mp member with first | later
      · exact vetted t (Option.mem_toList.mp first)
      · exact ih more after others t later

end Gate

/-! ### Faults -/

theorem Fault.OfSyntax.other {why : Fault} (ofSyntax : why.OfSyntax) : why.Other := by
  cases ofSyntax <;> rfl

/-- Reading one token fails over its spelling alone, -/
theorem Token.read_failsWith (position : Nat) (c : Char) (cs : List Char) :
    FailsWith Fault.Other (read position c cs) := by
  unfold read
  split
  · exact .ok _
  split
  · dsimp only
    split
    · exact .ok _
    · exact .error rfl
  split
  · exact .ok _
  split
  · dsimp only
    split
    · exact .ok _
    · exact .error rfl
  · split
    · exact .ok _
    · exact .error rfl

/-- and so does reading all of them. -/
theorem Token.scan_failsWith (position : Nat) (cs : List Char) :
    FailsWith Fault.Other (scan position cs) := by
  induction position, cs using Token.scan.induct with
  | case1 position =>
      rw [scan_nil]
      exact .ok _
  | case2 position c cs ih =>
      rw [scan_cons]
      exact (read_failsWith position c cs).bind fun step => (ih step.2).bind fun _ => .ok _

/-- A scalar that is no number is a fault, but not that of an unknown name, -/
theorem numeric_failsWith (s : Scalar) :
    FailsWith Fault.Other (numeric s) := by
  unfold numeric
  cases s.number? with
  | some x => exact .ok x
  | none => exact .error rfl

/-- so arithmetic does not fail over one, -/
theorem arithmetic_failsWith (f : Float → Float → Float) (l r : Scalar) :
    FailsWith Fault.Other (arithmetic f l r) :=
  (numeric_failsWith l).bind fun _ => (numeric_failsWith r).bind fun _ => .ok _

/-- also where it refuses to divide by zero, -/
theorem division_failsWith (f : Float → Float → Float) (l r : Scalar) :
    FailsWith Fault.Other (division f l r) := by
  refine (numeric_failsWith r).bind fun y => ?_
  split
  · exact .error rfl
  · exact (numeric_failsWith l).bind fun _ => .ok _

/-- or joins texts. -/
theorem sum_failsWith (l r : Scalar) :
    FailsWith Fault.Other (sum l r) := by
  unfold sum
  split
  · exact .ok _
  · exact .ok _
  · exact arithmetic_failsWith _ _ _

/-- An operator on two operands fails over what they are, never over a name, -/
theorem BinaryOp.apply_failsWith (op : BinaryOp) (l r : Scalar) :
    FailsWith Fault.Other (op.apply l r) := by
  cases op with
  | add => exact sum_failsWith l r
  | sub | mul => exact arithmetic_failsWith _ l r
  | div | rem => exact division_failsWith _ l r
  | _ => exact .ok _

/-- and so does one on a single operand. -/
theorem UnaryOp.apply_failsWith (op : UnaryOp) (s : Scalar) :
    FailsWith Fault.Other (op.apply s) := by
  cases op with
  | not => exact .ok _
  | neg | plus => exact (numeric_failsWith s).map _

/-- **A tree whose names are bound does not fail over an unbound one.** -/
theorem Tree.eval_failsWith {b : Bindings} {e : Tree}
    (bound : ∀ name ∈ e.names, ∃ s, b.get? name = some s) :
    FailsWith Fault.Other (e.eval b) := by
  induction e with
  | literal s => exact .ok s
  | name name =>
      obtain ⟨s, found⟩ := bound name (List.mem_singleton_self name)
      rw [Tree.eval, found]
      exact .ok s
  | unary op e ih =>
      rw [Tree.eval]
      exact (ih bound).bind fun s => op.apply_failsWith s
  | binary op l r ihLeft ihRight =>
      have left := ihLeft fun name member => bound name (List.mem_append_left _ member)
      have right := ihRight fun name member => bound name (List.mem_append_right _ member)
      cases op with
      | and =>
          rw [Tree.eval]
          refine left.bind fun x => ?_
          split
          · exact right.bind fun y => .ok _
          · exact .ok _
      | or =>
          rw [Tree.eval]
          refine left.bind fun x => ?_
          split
          · exact .ok _
          · exact right.bind fun y => .ok _
      | _ =>
          rw [Tree.eval]
          · exact left.bind fun x => right.bind fun y => BinaryOp.apply_failsWith _ x y
          all_goals nofun

/-! ### Names of trees -/

/-- The names of a tree stand among its tokens, and are no literals. -/
theorem Derives.name_mem {line : Line} {ts : List Token} {e : Tree} (tree : Derives line ts e) :
    ∀ name ∈ e.names, .name name ∈ ts ∧ name ∉ ["true", "false", "null"] := by
  induction tree with
  | operand _ _ ih => exact ih
  | binary _ _ _ _ ihLeft ihRight =>
      intro name member
      rcases List.mem_append.mp member with left | right
      · obtain ⟨inside, plain⟩ := ihLeft name left
        exact ⟨List.mem_append_left _ inside, plain⟩
      · obtain ⟨inside, plain⟩ := ihRight name right
        exact ⟨List.mem_append_right _ (List.mem_cons_of_mem _ inside), plain⟩
  | unary _ _ ih =>
      intro name member
      obtain ⟨inside, plain⟩ := ih name member
      exact ⟨List.mem_cons_of_mem _ inside, plain⟩
  | primary _ ih => exact ih
  | number | text | trueName | falseName | nullName => nofun
  | name notTrue notFalse notNull =>
      intro name member
      rw [List.mem_singleton.mp member]
      exact ⟨List.mem_singleton_self _, by simp [notTrue, notFalse, notNull]⟩
  | parentheses _ ih =>
      intro name member
      obtain ⟨inside, plain⟩ := ih name member
      exact ⟨List.mem_cons_of_mem _ (List.mem_append_left _ inside), plain⟩

/-! ### Messages -/

/-- How the text of a fault begins. -/
def Fault.opening : Fault → String
  | .invalidNumber _ => "invalid number '"
  | .unterminatedText => "unterminated string literal"
  | .unexpectedCharacter .. => "unexpected character '"
  | .unexpectedToken _ => "unexpected token "
  | .unclosedParenthesis => "missing closing parenthesis"
  | .unexpectedEnd => "unexpected end of expression"
  | .unbound _ => "unbound variable '"
  | .notANumber _ => "'"
  | .divisionByZero => "division by zero"
  | .notFinite _ => "result is not finite ("
  | .notNumeric _ => "expected a numeric result, got "

/-- The wording of a fault begins in a way of its own, by which it can be told from the others. -/
theorem Fault.opens_message (why : Fault) : Text.Opens why.opening why.message := by
  cases why with
  | invalidNumber | unbound | notFinite => exact (Text.Opens.start _ _).append _
  | unexpectedCharacter => exact ((Text.Opens.start _ _).append _).append _
  | notANumber => exact (Text.Opens.start _ _).append _
  | unexpectedToken | notNumeric => exact .start _ _
  | unterminatedText | unclosedParenthesis | unexpectedEnd | divisionByZero => exact .all _

/-- The text of another fault is none over an unbound name. -/
theorem Fault.Other.message_ne {why : Fault} (other : why.Other) (name : String) :
    why.message ≠ (Fault.unbound name).message := by
  have apart : Text.Apart why.opening "unbound variable '" := by
    cases why with
    | unbound => cases other
    | _ =>
        dsimp only [opening]
        decide
  exact apart.ne why.opens_message (Fault.unbound name).opens_message

/-! ### Expressions -/

/-- The failures of an expression over anything but an unbound name. -/
inductive Error.Other (expression : String) : Error → Prop
  | failed {why : Fault} (other : why.Other) : Other expression (.failed expression why)

section Expression

variable {expression : String} {b : Bindings} {mode : Mode}

/-- What is found safe has been accepted by the gate, from its first character on. -/
theorem accepts_of_checkSafety (accepted : checkSafety expression b mode = .ok ()) :
    Gate.Accepts b mode expression.toList := by
  have checked : Gate.check b mode expression = .ok () := eq_ok_of_mapError accepted
  unfold Gate.check at checked
  split at checked
  · cases checked
  · exact checked

/-- The tokens of an accepted expression are let pass. -/
theorem vetted_of_tokenize (accepted : checkSafety expression b mode = .ok ()) {ts : List Token}
    (tokens : tokenize expression = .ok ts) : ∀ t ∈ ts, t.Vetted b mode :=
  Gate.vetted_of_scan (accepts_of_checkSafety accepted) (eq_ok_of_mapError tokens)

/-- The names of an accepted expression are bound. -/
theorem bound_of_parse (accepted : checkSafety expression b mode = .ok ()) {e : Tree}
    (parsed : parse expression = .ok e) : ∀ name ∈ e.names, ∃ s, b.get? name = some s := by
  obtain ⟨ts, tokens, parsed⟩ := bind_eq_ok.mp parsed
  have read : Tree.parse ts = .ok e := eq_ok_of_mapError parsed
  rcases Tree.parse_derives ts with ⟨e', read', tree⟩ | ⟨why, failed, -⟩
  · rw [read] at read'
    cases read'
    intro name member
    obtain ⟨inside, plain⟩ := tree.name_mem name member
    have known := (vetted_of_tokenize accepted tokens _ inside).known name rfl
    exact known.resolve_right fun literal => plain literal.2
  · rw [read] at failed
    cases failed

/-- Reading the tree fails over the syntax, never over a name. -/
theorem parse_failsWith (expression : String) :
    FailsWith (Error.Other expression) (parse expression) := by
  have scanned : FailsWith (Error.Other expression) (tokenize expression) :=
    (Token.scan_failsWith 0 expression.toList).mapError fun _ => .failed
  refine scanned.bind fun ts =>
    FailsWith.mapError (fun why failed => ?_) fun _ => Error.Other.failed
  rcases Tree.parse_derives ts with ⟨e, read, -⟩ | ⟨why', failed', ofSyntax⟩
  · rw [failed] at read
    cases read
  · rw [failed] at failed'
    cases failed'
    exact ofSyntax.other

/-- An accepted expression fails over anything but an unbound name. -/
theorem evaluate_failsWith (accepted : checkSafety expression b mode = .ok ()) :
    FailsWith (Error.Other expression) (evaluate expression b mode) := by
  unfold evaluate
  rw [accepted]
  refine FailsWith.bind (.ok ()) fun _ => (parse_failsWith expression).bind_of_ok fun e parsed => ?_
  exact (Tree.eval_failsWith (bound_of_parse accepted parsed)).mapError fun _ => .failed

/-- **What the gate covers** of an expression that it accepts. -/
structure Covered (expression : String) (b : Bindings) (mode : Mode) : Prop where
  /-- Every name is bound or, in a condition, a literal. -/
  known : ∀ ts, tokenize expression = .ok ts → ∀ name, .name name ∈ ts → b.Knows mode name
  /-- In arithmetic there are only numbers, names bound to numbers, and the signs of arithmetic. -/
  arithmetic : mode = .arithmetic → ∀ ts, tokenize expression = .ok ts → ∀ t ∈ ts, t.OfArithmetic b
  /-- No failure is over an unbound name, not even by its text. -/
  bound : ∀ e, evaluate expression b mode = .error e →
    ∀ name, e.message ≠ (Error.failed expression (.unbound name)).message

/-- **The gate covers what the scanner reads**, and with it what is evaluated. -/
theorem covered_of_checkSafety (accepted : checkSafety expression b mode = .ok ()) :
    Covered expression b mode where
  known ts tokens name member := (vetted_of_tokenize accepted tokens _ member).known name rfl
  arithmetic mode ts tokens t member :=
    (vetted_of_tokenize accepted tokens t member).arithmetic mode
  bound e failed name same := by
    obtain @⟨why, other⟩ := evaluate_failsWith accepted e failed
    have messages : "Expression evaluation failed for '" ++ expression ++ "': " ++ why.message =
      "Expression evaluation failed for '" ++ expression ++ "': " ++ (Fault.unbound name).message :=
        same
    exact other.message_ne name ((String.append_right_inj _).mp messages)

/-- A condition with a number next to a name, signs of two characters, and a text with a quote. -/
theorem covered_condition :
    checkSafety "2fee>=1.5&&s!=='a\"b'||!null"
        [("fee", .number 25.0), ("s", .text "CA")] .condition = .ok () ∧
      Covered "2fee>=1.5&&s!=='a\"b'||!null"
        [("fee", .number 25.0), ("s", .text "CA")] .condition := by
  have passed : (checkSafety "2fee>=1.5&&s!=='a\"b'||!null"
      [("fee", .number 25.0), ("s", .text "CA")] .condition).isOk = true := by decide +kernel
  have accepted := eq_ok_of_isOk passed
  exact ⟨accepted, covered_of_checkSafety accepted⟩

end Expression

end Interchange.Expr
