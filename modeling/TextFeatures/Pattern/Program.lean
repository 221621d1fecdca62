import TextFeatures.Pattern.Expr

namespace TextFeatures.Pattern

-- Steps name the steps that follow them by their places in the program.
inductive Instruction where
  | accept
  | one (accepted : CharClass) (next : Nat)
  | look (look : Look) (next : Nat)
  | choose (preferred other : Nat)
deriving DecidableEq, Repr

structure Program where
  steps : Array Instruction
  start : Nat
deriving DecidableEq, Repr

structure Code where
  steps : Array Instruction
  entry : Nat

namespace Code

def add (code : Code) (step : Instruction) : Code :=
  let place := code.steps.size
  ⟨code.steps.push step, place⟩

def enterAt (code : Code) (entry : Nat) : Code := { code with entry }

def choose (code : Code) (greedy : Bool) (inside outside : Nat) : Code :=
  code.add (if greedy then .choose inside outside else .choose outside inside)

-- A choice whose inside is written behind it, and leads back to it. The entry is inside.
def loop (code : Code) (greedy : Bool) (body : Code → Code) : Code :=
  let outside := code.entry
  let head := code.steps.size
  let inner := body (code.choose greedy head outside)
  let inside := inner.entry
  let step := if greedy then .choose inside outside else .choose outside inside
  ⟨inner.steps.setIfInBounds head step, inside⟩

def copies (body : Code → Code) : Nat → Code → Code
  | 0, code => code
  | n + 1, code => copies body n (body code)

-- At most `n` copies, each of which may be left out together with those after it.
def upTo (greedy : Bool) (body : Code → Code) (outside : Nat) : Nat → Code → Code
  | 0, code => code
  | n + 1, code =>
    let inner := body code
    let inside := inner.entry
    upTo greedy body outside n (inner.choose greedy inside outside)

-- A body that can match nothing needs its own way around the loop: entering it and leaving it at the
-- same place is not the same choice as not entering it.
def zeroOrMore (greedy consumes : Bool) (body : Code → Code) (code : Code) : Code :=
  let outside := code.entry
  let head := code.steps.size
  let inner := code.loop greedy body
  let inside := inner.entry
  if consumes then inner.enterAt head else inner.choose greedy inside outside

end Code

def Expr.emit : Expr → Code → Code
  | .empty, code => code
  | .one accepted, code => code.add (.one accepted code.entry)
  | .look l, code => code.add (.look l code.entry)
  | .seq first second, code => first.emit (second.emit code)
  | .alt preferred other, code =>
    let outside := code.entry
    let left := preferred.emit code
    let first := left.entry
    let right := other.emit (left.enterAt outside)
    let second := right.entry
    right.add (.choose first second)
  | .repeated least (some most) greedy body, code =>
    Code.copies body.emit least (Code.upTo greedy body.emit code.entry (most - least) code)
  | .repeated 0 none greedy body, code => code.zeroOrMore greedy body.consumes body.emit
  | .repeated (n + 1) none greedy body, code => Code.copies body.emit n (code.loop greedy body.emit)
  | .group _ body, code => body.emit code

def Expr.toProgram (expr : Expr) : Program :=
  let code := expr.emit ⟨#[.accept], 0⟩
  ⟨code.steps, code.entry⟩

end TextFeatures.Pattern
