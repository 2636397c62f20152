import Runbook.Machine.Numeral
import Runbook.Text.Blank

/-! # Arithmetic of a shell

An expression is read and evaluated at once. Numbers have 64 bits and wrap around. What follows an
operator that decides the result by itself is read but not evaluated.

* **`Arithmetic.Fault`** — why an expression has no value.
* **`Arithmetic.evaluate`** — the value of an expression, and the variables that it sets. -/

namespace Runbook.Shell.Arithmetic

/-- A token of an expression. -/
inductive Token where
  /-- A number. -/
  | number (value : Int)
  /-- The name of a variable. -/
  | name (name : String)
  /-- An operator. -/
  | operator (text : String)
  /-- A character that has no place in an expression; nothing is read behind it. -/
  | foreign
  /-- The end. -/
  | ending
  deriving DecidableEq, Repr

/-- Why an expression has no value. -/
inductive Fault where
  /-- A number or a name is missing. -/
  | primary
  /-- A parenthesis is not closed. -/
  | parenthesis
  /-- A choice lacks its second part. -/
  | colon
  /-- Something follows the expression. -/
  | tail
  /-- A division by zero. -/
  | zero
  /-- A division whose result is out of reach. -/
  | overflow
  /-- A variable holds a text that is no number. -/
  | number (text : String)
  deriving DecidableEq, Repr

/-- The wording of a fault in an expression. -/
def Fault.message (fault : Fault) (expression : String) : String :=
  let about (text : String) : String :=
    "arithmetic expression: " ++ text ++ ": \"" ++ expression ++ "\""
  match fault with
  | .primary => about "expecting primary"
  | .parenthesis => about "expecting ')'"
  | .colon => about "expecting ':'"
  | .tail => about "expecting EOF"
  | .zero => about "division by zero"
  | .overflow => about "overflow"
  | .number text => "Illegal number: " ++ text

/-! ### Tokens -/

/-- The operators, the longer ones before those that they begin with. -/
def operators : List String :=
  ["<<=", ">>=", "||", "&&", "|=", "&=", "^=", "*=", "/=", "%=", "+=", "-=", "==", "!=", "<=", ">=",
    "<<", ">>", "=", "<", ">", "|", "&", "^", "!", "~", "(", ")", "*", "/", "%", "+", "-", "?", ":"]

/-- The tokens of an expression. -/
def tokens : (fuel : Nat) → List Char → List Token
  | 0, _ => [.foreign]
  | _ + 1, [] => [.ending]
  | fuel + 1, c :: rest =>
    if c == ' ' || c == '\t' || c == '\n' then tokens fuel rest
    else if c.isDigit then
      let (value, after) := Numeral.read .marked (c :: rest)
      .number (Numeral.inReach true value).1 :: tokens fuel after
    else if c.isAlpha || c == '_' then
      let name := (c :: rest).takeWhile Text.isNameChar
      .name (String.ofList name) :: tokens fuel ((c :: rest).drop name.length)
    else
      match operators.find? fun text => text.toList.isPrefixOf (c :: rest) with
      | some text => .operator text :: tokens fuel ((c :: rest).drop text.length)
      | none => [.foreign]

/-! ### Evaluation -/

/-- An expression that is being evaluated. -/
structure Evaluation where
  /-- The tokens that are left, of which the last one is never passed. -/
  rest : List Token
  /-- The token behind the operand that was read last. -/
  last : Token
  /-- The variables that have been set, the latest first. -/
  assigned : List (String × Int)

/-- A step of an evaluation. -/
abbrev Evaluate := ExceptT Fault (StateM Evaluation)

/-- How variables are looked up. -/
abbrev Lookup := (name : String) → Option String

/-- The next token. -/
def next : Evaluate Token := do
  let state ← get
  match state.rest with
  | [] => pure .ending
  | [token] => pure token
  | token :: rest => do
    set { state with rest }
    pure token

/-- Notes the token behind an operand. -/
def setLast (token : Token) : Evaluate Unit := modify fun state => { state with last := token }

/-- A number of 64 bits. -/
def wrap (n : Int) : Int := Int.bmod n 18446744073709551616

/-- The number that a truth value is. -/
def truth (holds : Bool) : Int := if holds then 1 else 0

/-- The value of a variable. -/
def valueOf (lookup : Lookup) (name : String) : Evaluate Int := do
  match (← get).assigned.lookup name with
  | some value => pure value
  | none =>
    let text := (lookup name).getD ""
    match Numeral.whole? .marked text with
    | some value => pure value
    | none => throw (.number text)

/-- How tightly an operator binds its operands; zero is the tightest. -/
def strength? (operator : String) : Option Nat :=
  [["*", "/", "%"], ["+", "-"], ["<<", ">>"], ["<", "<=", ">", ">="], ["==", "!="], ["&"], ["^"],
    ["|"]].findIdx? fun group => group.contains operator

/-- A strength below that of all operators. -/
def weakest : Nat := 8

/-- The bits of a number without a sign. -/
def bits (n : Int) : BitVec 64 := BitVec.ofInt 64 n

/-- The least number of 64 bits. -/
def least : Int := -9223372036854775808

/-- Fails if a number cannot be divided by another one. -/
def guardDivision (a b : Int) : Evaluate Unit :=
  if b = 0 then throw .zero else if a = least ∧ b = -1 then throw .overflow else pure ()

/-- The result of an operator. -/
def apply (operator : String) (a b : Int) : Evaluate Int :=
  let shift := (bits b).toNat % 64
  match operator with
  | "/" => do
    guardDivision a b
    pure (a.tdiv b)
  | "%" => do
    guardDivision a b
    pure (a.tmod b)
  | "*" => pure (wrap (a * b))
  | "+" => pure (wrap (a + b))
  | "-" => pure (wrap (a - b))
  | "<<" => pure ((bits a).shiftLeft shift).toInt
  | ">>" => pure ((bits a).sshiftRight shift).toInt
  | "<" => pure (truth (a < b))
  | "<=" => pure (truth (a ≤ b))
  | ">" => pure (truth (b < a))
  | ">=" => pure (truth (b ≤ a))
  | "==" => pure (truth (a == b))
  | "!=" => pure (truth (a != b))
  | "&" => pure (bits a &&& bits b).toInt
  | "^" => pure (bits a ^^^ bits b).toInt
  | _ => pure (bits a ||| bits b).toInt

/-- The operator of an assignment that also computes, without its equals sign. -/
def computing? (operator : String) : Option String :=
  if ["*=", "/=", "%=", "+=", "-=", "<<=", ">>=", "&=", "^=", "|="].contains operator then
    some (String.ofList operator.toList.dropLast)
  else none

mutual

/-- The operand that begins with a token, behind which another has been read. With `skip` nothing is
evaluated. -/
def primary (lookup : Lookup) : (fuel : Nat) → (token behind : Token) → (skip : Bool) → Evaluate Int
  | 0, _, _, _ => throw .primary
  | fuel + 1, token, behind, skip =>
    match token with
    | .number value => do
      setLast behind
      pure value
    | .name name => do
      setLast behind
      if skip then pure 0 else valueOf lookup name
    | .operator "(" => do
      let value ← assignment lookup fuel behind skip
      if (← get).last = .operator ")" then
        setLast (← next)
        pure value
      else throw .parenthesis
    | .operator "+" => do primary lookup fuel behind (← next) skip
    | .operator "-" => do pure (wrap (-(← primary lookup fuel behind (← next) skip)))
    | .operator "!" => do pure (truth ((← primary lookup fuel behind (← next) skip) == 0))
    | .operator "~" => do pure (-(← primary lookup fuel behind (← next) skip) - 1)
    | _ => throw .primary

/-- What an operator and those behind it make of the operand before it, as far as they bind more
tightly than `limit`. -/
def operations (lookup : Lookup) : (fuel : Nat) → (value : Int) → (operator : String) →
    (limit : Nat) → (skip : Bool) → Evaluate Int
  | 0, _, _, _, _ => throw .primary
  | fuel + 1, value, operator, limit, skip => do
    let token ← next
    let operand ← primary lookup fuel token (← next) skip
    let strength := (strength? operator).getD weakest
    let operand ← match (← get).last with
      | .operator text =>
        if (strength? text).any (· < strength) then
          operations lookup fuel operand text strength skip
        else pure operand
      | _ => pure operand
    let value ← if skip then pure operand else apply operator value operand
    match (← get).last with
    | .operator text =>
      if (strength? text).any (· < limit) then operations lookup fuel value text limit skip
      else pure value
    | _ => pure value

/-- Operands with operators of different strengths between them. -/
def operation (lookup : Lookup) : (fuel : Nat) → (token behind : Token) → (skip : Bool) →
    Evaluate Int
  | 0, _, _, _ => throw .primary
  | fuel + 1, token, behind, skip => do
    let value ← primary lookup fuel token behind skip
    match (← get).last with
    | .operator text =>
      if (strength? text).isSome then operations lookup fuel value text weakest skip else pure value
    | _ => pure value

/-- Whether several operands all hold. -/
def conjunction (lookup : Lookup) : (fuel : Nat) → (token behind : Token) → (skip : Bool) →
    Evaluate Int
  | 0, _, _, _ => throw .primary
  | fuel + 1, token, behind, skip => do
    let first ← operation lookup fuel token behind skip
    if (← get).last = .operator "&&" then
      let token ← next
      let second ← conjunction lookup fuel token (← next) (skip || first == 0)
      pure (truth (first != 0 && second != 0))
    else pure first

/-- Whether one of several operands holds. -/
def disjunction (lookup : Lookup) : (fuel : Nat) → (token behind : Token) → (skip : Bool) →
    Evaluate Int
  | 0, _, _, _ => throw .primary
  | fuel + 1, token, behind, skip => do
    let first ← conjunction lookup fuel token behind skip
    if (← get).last = .operator "||" then
      let token ← next
      let second ← disjunction lookup fuel token (← next) (skip || first != 0)
      pure (truth (first != 0 || second != 0))
    else pure first

/-- A choice between two values. -/
def choice (lookup : Lookup) : (fuel : Nat) → (token behind : Token) → (skip : Bool) → Evaluate Int
  | 0, _, _, _ => throw .primary
  | fuel + 1, token, behind, skip => do
    let condition ← disjunction lookup fuel token behind skip
    if (← get).last = .operator "?" then
      let first ← assignment lookup fuel (← next) (skip || condition == 0)
      if (← get).last = .operator ":" then
        let token ← next
        let second ← choice lookup fuel token (← next) (skip || condition != 0)
        pure (if condition != 0 then first else second)
      else throw .colon
    else pure condition

/-- An assignment or a choice that begins with a token. -/
def assignment (lookup : Lookup) : (fuel : Nat) → (token : Token) → (skip : Bool) → Evaluate Int
  | 0, _, _ => throw .primary
  | fuel + 1, token, skip => do
    let behind ← next
    match token, behind with
    | .name name, .operator operator =>
      if operator = "=" ∨ (computing? operator).isSome then
        let value ← assignment lookup fuel (← next) skip
        if skip then pure value
        else
          let value ← match computing? operator with
            | some operator => do apply operator (← valueOf lookup name) value
            | none => pure value
          modify fun state => { state with assigned := (name, value) :: state.assigned }
          pure value
      else choice lookup fuel token behind skip
    | _, _ => choice lookup fuel token behind skip

end

/-- The value of an expression, and the variables that it sets, in order. -/
def evaluate (lookup : Lookup) (expression : String) : Except Fault Int × List (String × Int) :=
  let chars := expression.toList
  let all := tokens (chars.length + 1) chars
  let body : Evaluate Int := do
    let value ← assignment lookup (8 * all.length + 8) (← next) false
    if (← get).last = .ending then pure value else throw .tail
  let (result, state) := body.run ⟨all, .ending, []⟩
  (result, state.assigned.reverse)

end Runbook.Shell.Arithmetic
