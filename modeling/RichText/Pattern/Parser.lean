import RichText.Decimal.Numeral
import RichText.Characters
import RichText.Pattern.Syntax

namespace RichText.Pattern

structure Flags where
  ignoreCase : Bool := false
  multiLine : Bool := false
  dotAll : Bool := false
  swapGreed : Bool := false
  unicode : Bool := true
  verbose : Bool := false
  crlf : Bool := false

/-- What is left of the pattern, and the groups opened so far. -/
structure Cursor where
  rest : List Char
  groups : Nat := 0
  names : List (String × Nat) := []

def skipBlanks (inComment : Bool) : List Char → List Char
  | [] => []
  | c :: cs =>
    if inComment then skipBlanks (c ≠ '\n') cs
    else if isBlank c then skipBlanks false cs
    else if c = '#' then skipBlanks true cs
    else c :: cs

def Flags.skip (f : Flags) (cs : List Char) : List Char :=
  if f.verbose then skipBlanks false cs else cs

def Flags.takeWhile (f : Flags) (p : Char → Bool) : Nat → List Char → List Char × List Char
  | n + 1, c :: cs =>
    if p c then
      let (taken, rest) := f.takeWhile p n (f.skip cs)
      (c :: taken, rest)
    else ([], c :: cs)
  | _, cs => ([], cs)

def Flags.takeAll (f : Flags) (p : Char → Bool) (cs : List Char) : List Char × List Char :=
  f.takeWhile p cs.length cs

inductive Symbol where
  /-- A character, which may be written as a byte of two hexadecimal digits. -/
  | literal (c : Char) (byte : Bool)
  | set (s : CharSet)
  | look (l : Look)

def charOfHex? (cs : List Char) : Option Char := do
  let n ← Hexadecimal.ofDigits? cs
  if h : n.isValidChar then some (Char.ofNatAux n h) else none

/-- A character by its number: of `digits` digits, or of any length between braces. -/
def hexEscape (f : Flags) (digits : Nat) (cs : List Char) : Option (Symbol × List Char) :=
  match f.skip cs with
  | '\x7b' :: cs => do
    let (ds, rest) := f.takeAll (· ≠ '\x7d') (f.skip cs)
    if ds = [] ∨ rest = [] then none
    else some (.literal (← charOfHex? ds) false, f.skip rest.tail)
  | cs => do
    let (ds, rest) := f.takeWhile (fun c => (Hexadecimal.digitValue? c).isSome) digits cs
    if ds.length < digits then none else some (.literal (← charOfHex? ds) (digits == 2), rest)

def splitAt (separator : List Char) : List Char → Option (List Char × List Char)
  | [] => none
  | c :: cs =>
    if separator.isPrefixOf (c :: cs) then some ([], (c :: cs).drop separator.length)
    else (splitAt separator cs).map fun (l, r) => (c :: l, r)

def setOfPair (pair : List Char × List Char) : Option (Char → Bool) :=
  Unicode.setOfValue? (String.ofList pair.1) (String.ofList pair.2)

/-- The set that the text between the braces of a property class describes. An inequality stands
for the other characters. -/
def propertySet (name : List Char) : Option (Char → Bool) :=
  match splitAt ['!', '='] name with
  | some pair => (setOfPair pair).map fun p c => !p c
  | none =>
    match (splitAt [':'] name).or (splitAt ['='] name) with
    | some pair => setOfPair pair
    | none => Unicode.setNamed? (String.ofList name)

def propertyClass (f : Flags) (negated : Bool) (cs : List Char) : Option (Symbol × List Char) := do
  let (name, rest) ← match f.skip cs with
    | [] => none
    | '\\' :: _ => none
    | '\x7b' :: cs =>
      let (name, rest) := f.takeAll (· ≠ '\x7d') (f.skip cs)
      if rest = [] then none else some (name, rest.tail)
    | c :: cs => some ([c], f.skip cs)
  let p ← propertySet name
  if !f.unicode then none
  else some (.set (((CharSet.ofPredicate p).foldIf f.ignoreCase).negateIf negated), rest)

def letterClass (f : Flags) (c : Char) : Option CharSet :=
  let (p, q) : (Char → Bool) × (Char → Bool) := match c.toLower with
    | 'd' => (Unicode.isDigit, Char.isDigit)
    | 's' => (isBlank, fun c => c = ' ' || (9 ≤ c.toNat && c.toNat ≤ 13))
    | _ => (Unicode.isWord, Look.isAsciiWord)
  if f.unicode then some ((CharSet.ofPredicate p).negateIf c.isUpper)
  else if c.isUpper then none else some (.ofAscii q)

def namedWordLook (unicode : Bool) (name : List Char) : Option Look :=
  match String.ofList name with
  | "start" => some (if unicode then .wordStart else .asciiWordStart)
  | "end" => some (if unicode then .wordEnd else .asciiWordEnd)
  | "start-half" => some (if unicode then .wordStartHalf else .asciiWordStartHalf)
  | "end-half" => some (if unicode then .wordEndHalf else .asciiWordEndHalf)
  | _ => none

/-- A word boundary, whose braces may also be those of a repetition. -/
def wordBoundary (f : Flags) (cs : List Char) : Option (Symbol × List Char) :=
  let plain := Symbol.look (if f.unicode then .wordBoundary else .asciiWordBoundary)
  let nameChar (c : Char) : Bool := c.isAlpha || c = '-'
  match cs with
  | '\x7b' :: inner =>
    match f.skip inner with
    | [] => none
    | c :: inner =>
      if nameChar c then
        match f.takeAll nameChar (c :: inner) with
        | (name, '\x7d' :: rest) => (namedWordLook f.unicode name).map fun l => (.look l, rest)
        | _ => none
      else some (plain, cs)
  | cs => some (plain, cs)

def isEscapable (c : Char) : Bool := c.toNat < 128 && !c.isAlphanum && c ≠ '<' && c ≠ '>'

def escape (f : Flags) : List Char → Option (Symbol × List Char)
  | [] => none
  | c :: cs =>
    let literal (c : Char) : Option (Symbol × List Char) := some (.literal c false, cs)
    let look (l : Look) : Option (Symbol × List Char) := some (.look l, cs)
    match c with
    | 'x' => hexEscape f 2 cs
    | 'u' => hexEscape f 4 cs
    | 'U' => hexEscape f 8 cs
    | 'p' => propertyClass f false cs
    | 'P' => propertyClass f true cs
    | 'd' | 's' | 'w' | 'D' | 'S' | 'W' => (letterClass f c).map fun s => (.set s, cs)
    | 'a' => literal '\x07'
    | 'f' => literal '\x0c'
    | 't' => literal '\t'
    | 'n' => literal '\n'
    | 'r' => literal '\r'
    | 'v' => literal '\x0b'
    | 'A' => look .textStart
    | 'z' => look .textEnd
    | 'b' => wordBoundary f cs
    | 'B' => look (if f.unicode then .notWordBoundary else .asciiNotWordBoundary)
    | '<' => look (if f.unicode then .wordStart else .asciiWordStart)
    | '>' => look (if f.unicode then .wordEnd else .asciiWordEnd)
    | c => if isEscapable c then literal c else none

def literalSet (f : Flags) (c : Char) (byte : Bool) : Option CharSet :=
  if !f.unicode && byte && c.toNat ≥ 128 then none
  else if !f.ignoreCase then some (.single c)
  else if f.unicode then some (CharSet.single c).fold
  else some (CharSet.single c).foldAscii

def classSymbol (f : Flags) : List Char → Option (Symbol × List Char)
  | '\\' :: cs => escape f cs
  | c :: cs => some (.literal c false, cs)
  | [] => none

def classLiteral (f : Flags) : Symbol → Option Char
  | .literal c _ => if f.unicode || c.toNat < 128 then some c else none
  | _ => none

/-- Reads one item or a range of two. A hyphen in front of another or of the end of the class makes
no range. -/
def classRange (f : Flags) (cs : List Char) : Option (CharSet × List Char) := do
  let (first, cs) ← classSymbol f cs
  let cs := f.skip cs
  let next := match cs with
    | '-' :: cs => some (f.skip cs)
    | _ => none
  match next with
  | some [] => none
  | some (c :: rest) =>
    if c = ']' ∨ c = '-' then item first cs
    else do
      let (last, rest) ← classSymbol f (c :: rest)
      let lo ← classLiteral f first
      let hi ← classLiteral f last
      if lo ≤ hi then some (.ofRange lo hi, rest) else none
  | none => item first cs
where
  item (s : Symbol) (rest : List Char) : Option (CharSet × List Char) :=
    match s with
    | .literal .. => (classLiteral f s).map fun c => (.single c, rest)
    | .set s => some (s, rest)
    | .look _ => none

def namedClass? (name : List Char) : Option (Char → Bool) :=
  let within (first last : Nat) (c : Char) : Bool := first ≤ c.toNat && c.toNat ≤ last
  match String.ofList name with
  | "alnum" => some Char.isAlphanum
  | "alpha" => some Char.isAlpha
  | "ascii" => some fun _ => true
  | "blank" => some fun c => c = ' ' || c = '\t'
  | "cntrl" => some fun c => within 0 31 c || c = '\x7f'
  | "digit" => some Char.isDigit
  | "graph" => some (within 33 126)
  | "lower" => some Char.isLower
  | "print" => some (within 32 126)
  | "punct" => some fun c => within 33 126 c && !c.isAlphanum
  | "space" => some fun c => c = ' ' || within 9 13 c
  | "upper" => some Char.isUpper
  | "word" => some Look.isAsciiWord
  | "xdigit" => some fun c => (Hexadecimal.digitValue? c).isSome
  | _ => none

def namedClass (f : Flags) (cs : List Char) : Option (CharSet × List Char) :=
  match cs with
  | ':' :: cs =>
    let (negated, cs) := match cs with
      | '^' :: cs => (true, cs)
      | cs => (false, cs)
    match (cs.dropWhile (· ≠ ':')) with
    | ':' :: ']' :: rest =>
      (namedClass? (cs.takeWhile (· ≠ ':'))).map fun p =>
        (((CharSet.ofAscii p).foldIf f.ignoreCase).negateIf negated, rest)
    | _ => none
  | _ => none

structure ClassReading where
  set : CharSet := .empty
  items : Nat := 0
  nesting : Nat := 0
  /-- An operator and what it has on its left. -/
  left : Option ((CharSet → CharSet → CharSet) × CharSet) := none

namespace ClassReading

def add (r : ClassReading) (s : CharSet) (nesting : Nat) : ClassReading :=
  { r with set := r.set.union s, items := r.items + 1, nesting := max r.nesting nesting }

def close (r : ClassReading) (f : Flags) : CharSet :=
  match r.left with
  | none => r.set
  | some (op, l) => op (l.foldIf f.ignoreCase) (r.set.foldIf f.ignoreCase)

def depth (r : ClassReading) : Nat :=
  r.nesting + (if 1 < r.items then 1 else 0) + (if r.left.isSome then 1 else 0)

def operator (r : ClassReading) (f : Flags) (op : CharSet → CharSet → CharSet) :
    ClassReading where
  left := some (op, r.close f)
  nesting := r.depth

end ClassReading

mutual

def classItems (f : Flags) :
    Nat → ClassReading → List Char → Option (ClassReading × List Char)
  | 0, _, _ => none
  | fuel + 1, r, cs =>
    match f.skip cs with
    | [] => none
    | ']' :: cs => some (r, cs)
    | '&' :: '&' :: cs => classItems f fuel (r.operator f .inter) cs
    | '-' :: '-' :: cs => classItems f fuel (r.operator f .diff) cs
    | '~' :: '~' :: cs => classItems f fuel (r.operator f .symmDiff) cs
    | '[' :: cs =>
      match namedClass f cs with
      | some (s, rest) => classItems f fuel (r.add s 0) rest
      | none => do
        let (s, nesting, rest) ← bracketed f fuel cs
        classItems f fuel (r.add s nesting) rest
    | cs => do
      let (s, rest) ← classRange f cs
      classItems f fuel (r.add s 0) rest

/-- Reads a class behind its opening bracket. Hyphens at its start, or a closing bracket, stand for
themselves. -/
def bracketed (f : Flags) : Nat → List Char → Option (CharSet × Nat × List Char)
  | 0, _ => none
  | fuel + 1, cs => do
    let (negated, cs) := match f.skip cs with
      | '^' :: cs => (true, f.skip cs)
      | cs => (false, cs)
    let (hyphens, cs) := f.takeAll (· = '-') cs
    let start : ClassReading :=
      hyphens.foldl (fun (r : ClassReading) c => r.add (.single c) 0) {}
    let (start, cs) := match hyphens, cs with
      | [], ']' :: cs => (start.add (.single ']') 0, f.skip cs)
      | _, cs => (start, cs)
    let (r, rest) ← classItems f fuel start cs
    if negated && !f.unicode then none
    else
      let s := r.close f
      let folded := if f.unicode then s.foldIf f.ignoreCase
        else if f.ignoreCase then s.foldAscii else s
      some (folded.negateIf negated, r.depth + 1, rest)

end

def decimal (f : Flags) (cs : List Char) : Option (Nat × List Char) :=
  let (ds, rest) := f.takeAll Char.isDigit (cs.dropWhile isBlank)
  let n := Decimal.ofDigits ds
  if ds = [] ∨ 1 <<< 32 ≤ n then none else some (n, f.skip (rest.dropWhile isBlank))

def bounds (f : Flags) (cs : List Char) : Option (Nat × Option Nat × List Char) := do
  let (least, cs) ← decimal f (f.skip cs)
  match cs with
  | '\x7d' :: rest => some (least, some least, rest)
  | ',' :: cs =>
    match f.skip cs with
    | '\x7d' :: rest => some (least, none, rest)
    | cs =>
      match ← decimal f cs with
      | (most, '\x7d' :: rest) => if least ≤ most then some (least, some most, rest) else none
      | _ => none
  | _ => none

def laziness : List Char → Bool × List Char
  | '?' :: cs => (true, cs)
  | cs => (false, cs)

def Flags.set (f : Flags) (on : Bool) : Char → Option Flags
  | 'i' => some { f with ignoreCase := on }
  | 'm' => some { f with multiLine := on }
  | 's' => some { f with dotAll := on }
  | 'U' => some { f with swapGreed := on }
  | 'u' => some { f with unicode := on }
  | 'x' => some { f with verbose := on }
  | 'R' => some { f with crlf := on }
  | _ => none

/-- Reads flags up to a colon or a closing parenthesis. Each may occur once, and one hyphen in front
of those that are switched off. -/
def readFlags (seen : List Char) (f : Flags) :
    List Char → Option (Flags × List Char × List Char)
  | [] => none
  | c :: cs =>
    if c = ':' ∨ c = ')' then if seen.head? = some '-' then none else some (f, seen, c :: cs)
    else if seen.contains c then none
    else if c = '-' then readFlags (c :: seen) f cs
    else (f.set (!seen.contains '-') c).bind fun f => readFlags (c :: seen) f cs

def isNameStart (c : Char) : Bool := c = '_' || Unicode.isAlphabetic c

def isNameChar (c : Char) : Bool :=
  ['_', '.', '[', ']'].contains c || Unicode.isAlphabetic c || Unicode.isNumeric c

def groupName (c : Cursor) (cs : List Char) : Option (String × List Char) :=
  let name := cs.takeWhile (· ≠ '>')
  match name, cs.dropWhile (· ≠ '>') with
  | first :: others, '>' :: rest =>
    let s := String.ofList name
    if isNameStart first && others.all isNameChar && (c.names.lookup s).isNone then some (s, rest)
    else none
  | _, _ => none

inductive GroupHead where
  /-- No group: the flags hold from here on. -/
  | flags (f : Flags) (c : Cursor)
  | opened (index : Option Nat) (f : Flags) (c : Cursor)

def capture (f : Flags) (c : Cursor) (name : Option String) (rest : List Char) : GroupHead :=
  let index := c.groups + 1
  let names := match name with
    | some s => (s, index) :: c.names
    | none => c.names
  .opened (some index) f { rest, groups := index, names }

/-- Reads the beginning of a group behind its parenthesis. There is no looking around. -/
def groupHead (f : Flags) (c : Cursor) (cs : List Char) : Option GroupHead :=
  match f.skip cs with
  | '?' :: '=' :: _ | '?' :: '!' :: _ | '?' :: '<' :: '=' :: _ | '?' :: '<' :: '!' :: _ => none
  | '?' :: 'P' :: '<' :: cs | '?' :: '<' :: cs =>
    (groupName c cs).map fun (name, rest) => capture f c (some name) rest
  | '?' :: cs =>
    match readFlags [] f cs with
    | some (f', seen, ')' :: rest) => if seen = [] then none else some (.flags f' { c with rest })
    | some (f', _, _ :: rest) => some (.opened none f' { c with rest })
    | _ => none
  | cs => some (capture f c none cs)

def ofSymbol (f : Flags) : Symbol → Option Regex
  | .literal c byte => (literalSet f c byte).map (.chars · 0)
  | .set s => some (.chars s 0)
  | .look l => some (.look l)

def symbol (f : Flags) : List Char → Option (Regex × List Char)
  | [] => none
  | '\\' :: cs => do
    let (s, rest) ← escape f cs
    return (← ofSymbol f s, rest)
  | '.' :: cs =>
    if !f.unicode then none
    else some (.chars (if f.dotAll then .any else (CharSet.lineEnd f.crlf).negate) 0, cs)
  | '^' :: cs => some (.look (if f.multiLine then .lineStart f.crlf else .textStart), cs)
  | '$' :: cs => some (.look (if f.multiLine then .lineEnd f.crlf else .textEnd), cs)
  | c :: cs => do return (← ofSymbol f (.literal c false), cs)

/-- A branch as far as it has been read, the last item first. A change of flags is an item too, but
one that cannot be repeated. -/
abbrev Branch := List (Option Regex)

def Branch.close (b : Branch) : Regex :=
  match b.reverse.filterMap id with
  | [] => .empty
  | [r] => r
  | rs => .cat rs

def closeBranches (branches : List Regex) (b : Branch) : Regex :=
  match branches with
  | [] => b.close
  | _ => .alt (b.close :: branches).reverse

def Branch.repeatLast (b : Branch) (f : Flags) (least : Nat) (most : Option Nat) (isLazy : Bool) :
    Option Branch :=
  match b with
  | some r :: rest => some (some (.rep r least most (isLazy == f.swapGreed)) :: rest)
  | _ => none

/-- Reads branches up to the end of the pattern or to a closing parenthesis, of at most `fuel`
items. -/
def branches : Nat → Flags → List Regex → Branch → Cursor → Option (Regex × Cursor)
  | 0, _, _, _, _ => none
  | fuel + 1, f, done, b, c =>
    let quick (least : Nat) (most : Option Nat) (cs : List Char) : Option (Regex × Cursor) := do
      let (isLazy, rest) := laziness cs
      branches fuel f done (← b.repeatLast f least most isLazy) { c with rest }
    match f.skip c.rest with
    | [] => some (closeBranches done b, { c with rest := [] })
    | ')' :: cs => some (closeBranches done b, { c with rest := ')' :: cs })
    | '|' :: rest => branches fuel f (b.close :: done) [] { c with rest }
    | '(' :: cs => do
      match ← groupHead f c cs with
      | .flags f' c' => branches fuel f' done (none :: b) c'
      | .opened index f' c' =>
        let (r, c') ← branches fuel f' [] [] c'
        match c'.rest with
        | ')' :: rest => branches fuel f done (some (.group index r) :: b) { c' with rest }
        | _ => none
    | '[' :: cs => do
      let (s, nesting, rest) ← bracketed f fuel cs
      branches fuel f done (some (.chars s nesting) :: b) { c with rest }
    | '?' :: cs => quick 0 (some 1) cs
    | '*' :: cs => quick 0 none cs
    | '+' :: cs => quick 1 none cs
    | '\x7b' :: cs => do
      let (least, most, cs) ← bounds f cs
      let (isLazy, rest) := laziness (f.skip cs)
      branches fuel f done (← b.repeatLast f least most isLazy) { c with rest }
    | cs => do
      let (r, rest) ← symbol f cs
      branches fuel f done (some r :: b) { c with rest }

def maxDepth : Nat := 250

def maxWeight : Nat := 10 <<< 20

def parse (pattern : String) : Option (Regex × List (String × Nat)) := do
  let cs := pattern.toList
  let (r, c) ← branches (cs.length + 1) {} [] [] { rest := cs }
  if c.rest = [] ∧ r.depth ≤ maxDepth ∧ r.weight ≤ maxWeight then some (r, c.names)
  else none

end RichText.Pattern
