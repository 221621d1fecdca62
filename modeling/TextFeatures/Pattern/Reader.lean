import TextFeatures.Pattern.Expr

namespace TextFeatures.Pattern
open Unicode

structure Options where
  ignoreCase : Bool := false
  multiLine : Bool := false
  dotAll : Bool := false
  swapGreed : Bool := false
  unicode : Bool := true
  crlf : Bool := false
  verbose : Bool := false
deriving DecidableEq, Repr

-- Outside the Unicode mode a class may hold ASCII characters only, and since a complement always
-- holds others, negation is refused there.
def negate? (options : Options) (negated : Bool) (body : CharClass) : Option CharClass :=
  if !negated then some body
  else if options.unicode then some (.complement body)
  else none

def caseClosed (options : Options) (body : CharClass) : CharClass :=
  if !options.ignoreCase then body
  else if options.unicode then .anyCase body
  else .anyAsciiCase body

-- A byte is a character written as two hexadecimal digits.
inductive Atom where
  | literal (c : Char) (byte : Bool)
  | set (accepted : CharClass)
  | look (look : Look)

def skipComment : List Char → List Char
  | [] => []
  | '\n' :: rest => rest
  | _ :: rest => skipComment rest

def skipVerbose : Nat → List Char → List Char
  | 0, cs => cs
  | fuel + 1, cs =>
    match cs with
    | '#' :: rest => skipVerbose fuel (skipComment rest)
    | c :: rest => if isBlank c then skipVerbose fuel rest else cs
    | [] => []

def skip (options : Options) (cs : List Char) : List Char :=
  if options.verbose then skipVerbose cs.length cs else cs

def skipBlanks (cs : List Char) : List Char := cs.dropWhile isBlank

def isHexDigit (c : Char) : Bool :=
  isAsciiDigit c || ('a' ≤ c && c ≤ 'f') || ('A' ≤ c && c ≤ 'F')

def hexValue (digits : List Char) : Nat := readHex (digits.map Char.toLower)

def char? (code : Nat) : Option Char := if code.isValidChar then some (Char.ofNat code) else none

def readHexDigits (options : Options) : Nat → List Char → Option (List Char × List Char)
  | 0, cs => some ([], cs)
  | count + 1, cs =>
    match cs with
    | c :: rest =>
      if isHexDigit c then
        (readHexDigits options count (skip options rest)).map fun read => (c :: read.1, read.2)
      else none
    | [] => none

def readBraced (options : Options) : Nat → List Char → Option (List Char × List Char)
  | 0, _ => none
  | fuel + 1, cs =>
    match skip options cs with
    | [] => none
    | '\x7d' :: rest => some ([], rest)
    | c :: rest => (readBraced options fuel rest).map fun read => (c :: read.1, read.2)

def readCode (options : Options) (width : Nat) (byte : Bool) (cs : List Char) :
    Option (Atom × List Char) :=
  match skip options cs with
  | '\x7b' :: rest => do
    let (digits, rest) ← readBraced options (rest.length + 1) rest
    if digits.isEmpty || !digits.all isHexDigit then none
    else
      let c ← char? (hexValue digits)
      return (.literal c false, skip options rest)
  | cs => do
    let (digits, rest) ← readHexDigits options width cs
    let c ← char? (hexValue digits)
    return (.literal c byte, rest)

def splitAtChar (c : Char) (name : List Char) : Option (List Char × List Char) :=
  match name.dropWhile (· ≠ c) with
  | [] => none
  | _ :: value => some (name.takeWhile (· ≠ c), value)

def splitAtUnequal : List Char → Option (List Char × List Char)
  | [] => none
  | '!' :: '=' :: value => some ([], value)
  | c :: rest => (splitAtUnequal rest).map fun split => (c :: split.1, split.2)

def namedProperty? (name : List Char) : Option (Bool × Property) :=
  match splitAtUnequal name with
  | some (name, value) => (Property.ofNameAndValue? name value).map fun p => (true, p)
  | none =>
    match (splitAtChar ':' name).or (splitAtChar '=' name) with
    | some (name, value) => (Property.ofNameAndValue? name value).map fun p => (false, p)
    | none => (Property.ofName? name).map fun p => (false, p)

-- A property by one letter or between braces, and whether it was set unequal to its value.
def readPropertyName (options : Options) (cs : List Char) :
    Option ((Bool × Property) × List Char) :=
  match skip options cs with
  | [] => none
  | '\x7b' :: rest =>
    match readBraced options (rest.length + 1) rest with
    | none => none
    | some (name, rest) => (namedProperty? name).map (·, rest)
  | '\\' :: _ => none
  | c :: rest => (Property.ofName? [c]).map fun p => ((false, p), skip options rest)

def readProperty (options : Options) (negated : Bool) (cs : List Char) :
    Option (Atom × List Char) :=
  if options.unicode then
    match readPropertyName options cs with
    | none => none
    | some ((unequal, property), rest) =>
      let body := caseClosed options (.property property)
      some (.set (if negated != unequal then .complement body else body), rest)
  else none

def wordClass (options : Options) : CharClass :=
  if options.unicode then .property .word else .asciiWord

def digitClass (options : Options) : CharClass :=
  if options.unicode then .property .decimal else .asciiDigit

def blankClass (options : Options) : CharClass :=
  if options.unicode then .property .blank else .asciiBlank

def isSpecialChar (c : Char) : Bool := isAsciiLetter c || c = '-'

def readSpecial (options : Options) : Nat → List Char → List Char × List Char
  | 0, cs => ([], cs)
  | fuel + 1, cs =>
    match cs with
    | c :: rest =>
      if isSpecialChar c then
        let (name, rest) := readSpecial options fuel (skip options rest)
        (c :: name, rest)
      else ([], cs)
    | [] => ([], [])

def specialLook? (word : CharClass) : String → Option Look
  | "start" => some (.wordStart word)
  | "end" => some (.wordEnd word)
  | "start-half" => some (.wordStartHalf word)
  | "end-half" => some (.wordEndHalf word)
  | _ => none

-- A brace behind a boundary starts a name if a letter or a hyphen follows it; otherwise it belongs
-- to a counted repetition.
def readBoundary (options : Options) (cs : List Char) : Option (Atom × List Char) :=
  let word := wordClass options
  match cs with
  | '\x7b' :: rest =>
    match skip options rest with
    | [] => none
    | c :: inner =>
      if isSpecialChar c then
        match readSpecial options (inner.length + 1) (c :: inner) with
        | (name, '\x7d' :: rest) =>
          (specialLook? word (String.ofList name)).map fun look => (.look look, rest)
        | _ => none
      else some (.look (.wordBoundary word), cs)
  | _ => some (.look (.wordBoundary word), cs)

def isEscapable (c : Char) : Bool :=
  isAscii c && !isAsciiLetter c && !isAsciiDigit c && c ≠ '<' && c ≠ '>'

def readEscape (options : Options) : List Char → Option (Atom × List Char)
  | [] => none
  | c :: rest =>
    match c with
    | 'x' => readCode options 2 true rest
    | 'u' => readCode options 4 false rest
    | 'U' => readCode options 8 false rest
    | 'p' => readProperty options false rest
    | 'P' => readProperty options true rest
    | 'd' => some (.set (digitClass options), rest)
    | 's' => some (.set (blankClass options), rest)
    | 'w' => some (.set (wordClass options), rest)
    | 'D' => (negate? options true (digitClass options)).map fun set => (.set set, rest)
    | 'S' => (negate? options true (blankClass options)).map fun set => (.set set, rest)
    | 'W' => (negate? options true (wordClass options)).map fun set => (.set set, rest)
    | 'a' => some (.literal '\x07' false, rest)
    | 'f' => some (.literal '\x0c' false, rest)
    | 't' => some (.literal '\t' false, rest)
    | 'n' => some (.literal '\n' false, rest)
    | 'r' => some (.literal '\r' false, rest)
    | 'v' => some (.literal '\x0b' false, rest)
    | 'A' => some (.look .textStart, rest)
    | 'z' => some (.look .textEnd, rest)
    | 'b' => readBoundary options rest
    | 'B' => some (.look (.notWordBoundary (wordClass options)), rest)
    | '<' => some (.look (.wordStart (wordClass options)), rest)
    | '>' => some (.look (.wordEnd (wordClass options)), rest)
    | _ => if isEscapable c then some (.literal c false, rest) else none

inductive SetOperation where
  | intersection
  | difference
  | exclusion
deriving DecidableEq, Repr

def SetOperation.apply : SetOperation → CharClass → CharClass → CharClass
  | intersection => .intersection
  | difference => .difference
  | exclusion => .exclusion

structure ClassPart where
  accepted : CharClass
  depth : Nat

def ClassPart.ofList : List ClassPart → ClassPart
  | [part] => part
  | [] => ⟨.empty, 0⟩
  | parts =>
    ⟨.ofList (parts.map ClassPart.accepted), parts.foldl (fun d part => max d part.depth) 0 + 1⟩

-- The class so far: an operation that waits for its right side, and the items of that side.
structure ClassDraft where
  pending : Option (ClassPart × SetOperation)
  items : List ClassPart

def ClassDraft.close (draft : ClassDraft) : ClassPart :=
  let right := ClassPart.ofList draft.items
  match draft.pending with
  | none => right
  | some (left, operation) =>
    ⟨operation.apply left.accepted right.accepted, max left.depth right.depth + 1⟩

def ClassDraft.ofItems (items : List CharClass) : ClassDraft := ⟨none, items.map (⟨·, 0⟩)⟩

def ClassDraft.add (draft : ClassDraft) (part : ClassPart) : ClassDraft :=
  { draft with items := draft.items ++ [part] }

def ClassDraft.addItem (draft : ClassDraft) (item : CharClass) : ClassDraft := draft.add ⟨item, 0⟩

def ClassDraft.operate (draft : ClassDraft) (operation : SetOperation) : ClassDraft :=
  ⟨some (draft.close, operation), []⟩

def classLiteral? (options : Options) : Atom → Option Char
  | .literal c _ => if options.unicode || isAscii c then some c else none
  | _ => none

-- Cases are added item by item. Sets that hold all cases of their members form unions, complements and
-- so on that do so too.
def classItem? (options : Options) : Atom → Option CharClass
  | .literal c byte =>
    (classLiteral? options (.literal c byte)).map fun c => caseClosed options (.single c)
  | .set accepted => some accepted
  | .look _ => none

def readClassAtom (options : Options) : List Char → Option (Atom × List Char)
  | [] => none
  | '\\' :: rest => readEscape options rest
  | c :: rest => some (.literal c false, rest)

def peekPast (options : Options) : List Char → Option Char
  | [] => none
  | _ :: rest =>
    if options.verbose then
      match skipBlanks rest with
      | '#' :: rest => (skipBlanks rest).head?
      | cs => cs.head?
    else rest.head?

-- A hyphen before the closing bracket or before another hyphen makes no range.
def readClassRange (options : Options) (cs : List Char) : Option (CharClass × List Char) := do
  let (atom, rest) ← readClassAtom options cs
  match skip options rest with
  | [] => none
  | '-' :: more =>
    if peekPast options ('-' :: more) = some ']' || peekPast options ('-' :: more) = some '-' then
      let item ← classItem? options atom
      return (item, '-' :: more)
    else
      let (last, rest) ← readClassAtom options (skip options more)
      let low ← classLiteral? options atom
      let high ← classLiteral? options last
      if low ≤ high then return (caseClosed options (.range low high), rest) else none
  | rest =>
    let item ← classItem? options atom
    return (item, rest)

def readNamedClass (options : Options) : List Char → Option (Option CharClass × List Char)
  | ':' :: rest =>
    let (negated, rest) := match rest with
      | '^' :: rest => (true, rest)
      | _ => (false, rest)
    match rest.dropWhile (· ≠ ':') with
    | ':' :: ']' :: after =>
      match CharClass.named? (String.ofList (rest.takeWhile (· ≠ ':'))) with
      | none => none
      | some body => some (negate? options negated (caseClosed options body), after)
    | _ => none
  | _ => none

def hyphens (options : Options) : Nat → List Char → List CharClass × List Char
  | 0, cs => ([], cs)
  | fuel + 1, cs =>
    match cs with
    | '-' :: rest =>
      let (items, rest) := hyphens options fuel (skip options rest)
      (.single '-' :: items, rest)
    | _ => ([], cs)

-- Reads what follows an opening bracket: a caret, hyphens that stand for themselves, and a closing
-- bracket that does so because it comes first.
def openClass (options : Options) (cs : List Char) : Bool × List CharClass × List Char :=
  let (negated, cs) := match skip options cs with
    | '^' :: rest => (true, skip options rest)
    | cs => (false, cs)
  let (items, cs) := hyphens options cs.length cs
  match items, cs with
  | [], ']' :: rest => (negated, [.single ']'], skip options rest)
  | items, cs => (negated, items, cs)

def readClass (options : Options) (negated : Bool) :
    Nat → ClassDraft → List Char → Option (ClassPart × List Char)
  | 0, _, _ => none
  | fuel + 1, draft, cs =>
    match skip options cs with
    | [] => none
    | ']' :: rest =>
      let part := draft.close
      (negate? options negated part.accepted).map fun accepted =>
        (⟨accepted, part.depth + 1⟩, rest)
    | '[' :: rest =>
      match readNamedClass options rest with
      | some (none, _) => none
      | some (some item, rest) => readClass options negated fuel (draft.addItem item) rest
      | none =>
        let (innerNegated, items, inner) := openClass options rest
        match readClass options innerNegated fuel (.ofItems items) inner with
        | none => none
        | some (part, rest) => readClass options negated fuel (draft.add part) rest
    | '&' :: '&' :: rest =>
      readClass options negated fuel (draft.operate .intersection) rest
    | '-' :: '-' :: rest =>
      readClass options negated fuel (draft.operate .difference) rest
    | '~' :: '~' :: rest =>
      readClass options negated fuel (draft.operate .exclusion) rest
    | cs =>
      match readClassRange options cs with
      | none => none
      | some (item, rest) => readClass options negated fuel (draft.addItem item) rest

-- Names in use, and the options that hold from here to the end of the group.
structure Scope where
  options : Options
  names : List (List Char)

def setOption (options : Options) (value : Bool) : Char → Option Options
  | 'i' => some { options with ignoreCase := value }
  | 'm' => some { options with multiLine := value }
  | 's' => some { options with dotAll := value }
  | 'U' => some { options with swapGreed := value }
  | 'u' => some { options with unicode := value }
  | 'R' => some { options with crlf := value }
  | 'x' => some { options with verbose := value }
  | _ => none

-- No letter and no hyphen may come twice, and a hyphen needs a letter behind it.
def readOptions (options : Options) (seen : List Char) (last : Option Char) :
    List Char → Option (Options × List Char × List Char)
  | [] => none
  | c :: rest =>
    if c = ':' || c = ')' then if last = some '-' then none else some (options, seen, c :: rest)
    else if seen.contains c then none
    else if c = '-' then readOptions options (c :: seen) (some c) rest
    else match setOption options (!seen.contains '-') c with
      | none => none
      | some options => readOptions options (c :: seen) (some c) rest

def isNameStart (c : Char) : Bool := c = '_' || isAlphabetic .v17 c

def isNameChar (c : Char) : Bool :=
  c = '_' || c = '.' || c = '[' || c = ']' || isAlphanumeric .v17 c

def readName (cs : List Char) : Option (List Char × List Char) :=
  match cs.takeWhile (· ≠ '>'), cs.dropWhile (· ≠ '>') with
  | first :: more, '>' :: rest =>
    if isNameStart first && more.all isNameChar then some (first :: more, rest) else none
  | _, _ => none

inductive Opening where
  | group (captures : Bool) (inner : Scope)
  | change (scope : Scope)

def openGroup (scope : Scope) (cs : List Char) : Option (Opening × List Char) :=
  let named := fun rest : List Char => do
    let (name, rest) ← readName rest
    if scope.names.contains name then none
    else return (Opening.group true { scope with names := name :: scope.names }, rest)
  match skip scope.options cs with
  | '?' :: '=' :: _ => none
  | '?' :: '!' :: _ => none
  | '?' :: '<' :: '=' :: _ => none
  | '?' :: '<' :: '!' :: _ => none
  | '?' :: 'P' :: '<' :: rest => named rest
  | '?' :: '<' :: rest => named rest
  | '?' :: rest =>
    match readOptions scope.options [] none rest with
    | some (options, _, ':' :: rest) => some (.group false { scope with options := options }, rest)
    | some (options, _ :: _, ')' :: rest) => some (.change { scope with options := options }, rest)
    | _ => none
  | rest => some (.group true scope, rest)

-- A part of a sequence and how deep it is nested; a change of options takes a place too, which
-- cannot be repeated.
structure Part where
  expr : Expr
  depth : Nat
  repeatable : Bool

-- The parts of the alternative being read, and the finished alternatives before it, both with the
-- latest first.
structure Draft where
  parts : List Part
  alternatives : List Part

def depthOf (parts : List Part) : Nat := parts.foldl (fun d part => max d part.depth) 0

def sequence (parts : List Part) : Part :=
  match parts with
  | [] => ⟨.empty, 0, false⟩
  | [part] => part
  | _ => ⟨parts.foldr (fun part rest => .seq part.expr rest) .empty, depthOf parts + 1, true⟩

def alternation : List Part → Part
  | [] => ⟨.empty, 0, false⟩
  | [part] => part
  | part :: rest =>
    let other := alternation rest
    ⟨.alt part.expr other.expr, max (part.depth + 1) (max other.depth (depthOf rest + 1)), true⟩

def Draft.empty : Draft := ⟨[], []⟩

def Draft.add (draft : Draft) (part : Part) : Draft := { draft with parts := part :: draft.parts }

def Draft.branch (draft : Draft) : Draft :=
  ⟨[], sequence draft.parts.reverse :: draft.alternatives⟩

def Draft.close (draft : Draft) : Part := alternation draft.branch.alternatives.reverse

def Draft.repeatLast (draft : Draft) (least : Nat) (most : Option Nat) (greedy : Bool) :
    Option Draft :=
  match draft.parts with
  | [] => none
  | part :: before =>
    if part.repeatable then
      some { draft with
        parts := ⟨.times least most greedy part.expr, part.depth + 1, true⟩ :: before }
    else none

-- A question mark behind a repetition makes it lazy, unless the options turn this round.
def readGreed (options : Options) : List Char → Bool × List Char
  | '?' :: rest => (options.swapGreed, rest)
  | cs => (!options.swapGreed, cs)

def countLimit : Nat := 0x100000000

def readCountDigits (options : Options) : Nat → List Char → List Char × List Char
  | 0, cs => ([], cs)
  | fuel + 1, cs =>
    match cs with
    | c :: rest =>
      if isAsciiDigit c then
        let (digits, rest) := readCountDigits options fuel (skip options rest)
        (c :: digits, rest)
      else ([], cs)
    | [] => ([], [])

-- A number with blanks around it, or `none` if there are no digits.
def readCount (options : Options) (cs : List Char) : Option (Option Nat × List Char) :=
  let (digits, rest) := readCountDigits options cs.length (skipBlanks cs)
  let rest := skip options (skipBlanks rest)
  if digits.isEmpty then some (none, rest)
  else if readDecimal digits < countLimit then some (some (readDecimal digits), rest)
  else none

def readMost (options : Options) (least : Nat) : List Char → Option (Option Nat × List Char)
  | ',' :: rest =>
    match skip options rest with
    | '\x7d' :: rest => some (none, '\x7d' :: rest)
    | rest =>
      match readCount options rest with
      | some (some most, rest) => some (some most, rest)
      | _ => none
  | rest => some (some least, rest)

def readCounts (options : Options) (cs : List Char) :
    Option (Nat × Option Nat × Bool × List Char) :=
  match readCount options (skip options cs) with
  | some (some least, rest) =>
    match readMost options least rest with
    | some (most, '\x7d' :: rest) =>
      let (greedy, rest) := readGreed options (skip options rest)
      if most.all (least ≤ ·) then some (least, most, greedy, rest) else none
    | _ => none
  | _ => none

def dotClass? (options : Options) : Option CharClass :=
  if !options.unicode then none
  else if options.dotAll then some (.property .any)
  else if options.crlf then some (.complement (.union (.single '\r') (.single '\n')))
  else some (.complement (.single '\n'))

def startLook (options : Options) : Look :=
  if !options.multiLine then .textStart else if options.crlf then .crlfStart else .lineStart

def endLook (options : Options) : Look :=
  if !options.multiLine then .textEnd else if options.crlf then .crlfEnd else .lineEnd

def atomExpr? (options : Options) : Atom → Option Expr
  | .literal c byte =>
    -- a byte above ASCII is no character of its own
    if byte && !options.unicode && !isAscii c then none
    else some (.one (caseClosed options (.single c)))
  | .set accepted => some (.one accepted)
  | .look look => some (.look look)

def plain (expr : Expr) : Part := ⟨expr, 0, true⟩

-- Reads alternatives up to the end of the text or to a closing parenthesis, which stays in front
-- of the rest. Gives the names in use at the end as well.
def readExpr : Nat → Scope → Draft → List Char → Option (Part × List (List Char) × List Char)
  | 0, _, _, _ => none
  | fuel + 1, scope, draft, cs =>
    let options := scope.options
    match skip options cs with
    | [] => some (draft.close, scope.names, [])
    | ')' :: rest => some (draft.close, scope.names, ')' :: rest)
    | '|' :: rest => readExpr fuel scope draft.branch rest
    | '(' :: rest =>
      match openGroup scope rest with
      | none => none
      | some (.change scope, rest) =>
        readExpr fuel scope (draft.add ⟨.empty, 0, false⟩) rest
      | some (.group captures inner, rest) =>
        match readExpr fuel inner .empty rest with
        | some (part, names, ')' :: rest) =>
          readExpr fuel { scope with names := names }
            (draft.add ⟨.group captures part.expr, part.depth + 1, true⟩) rest
        | _ => none
    | '[' :: rest =>
      let (negated, items, inner) := openClass options rest
      match readClass options negated (inner.length + 1) (.ofItems items) inner with
      | none => none
      | some (part, rest) =>
        readExpr fuel scope (draft.add ⟨.one part.accepted, part.depth, true⟩) rest
    | '?' :: rest =>
      let (greedy, rest) := readGreed options rest
      match draft.repeatLast 0 (some 1) greedy with
      | none => none
      | some draft => readExpr fuel scope draft rest
    | '*' :: rest =>
      let (greedy, rest) := readGreed options rest
      match draft.repeatLast 0 none greedy with
      | none => none
      | some draft => readExpr fuel scope draft rest
    | '+' :: rest =>
      let (greedy, rest) := readGreed options rest
      match draft.repeatLast 1 none greedy with
      | none => none
      | some draft => readExpr fuel scope draft rest
    | '\x7b' :: rest =>
      match readCounts options rest with
      | none => none
      | some (least, most, greedy, rest) =>
        match draft.repeatLast least most greedy with
        | none => none
        | some draft => readExpr fuel scope draft rest
    | '.' :: rest =>
      match dotClass? options with
      | none => none
      | some accepted => readExpr fuel scope (draft.add (plain (.one accepted))) rest
    | '^' :: rest => readExpr fuel scope (draft.add (plain (.look (startLook options)))) rest
    | '$' :: rest => readExpr fuel scope (draft.add (plain (.look (endLook options)))) rest
    | '\\' :: rest =>
      match readEscape options rest with
      | none => none
      | some (atom, rest) =>
        match atomExpr? options atom with
        | none => none
        | some expr => readExpr fuel scope (draft.add (plain expr)) rest
    | c :: rest =>
      match atomExpr? options (.literal c false) with
      | none => none
      | some expr => readExpr fuel scope (draft.add (plain expr)) rest

def depthLimit : Nat := 250

def Expr.ofText? (text : String) : Option Expr :=
  let cs := text.toList
  match readExpr (cs.length + 1) ⟨{}, []⟩ .empty cs with
  | some (part, _, []) =>
    if part.depth ≤ depthLimit then some part.expr else none
  | _ => none

end TextFeatures.Pattern
