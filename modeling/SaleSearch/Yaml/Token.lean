import SaleSearch.Yaml.Scalar

/-!
# YAML tokens

A document as a sequence of tokens in which indentation has become explicit: a block collection
opens where a line is indented deeper and closes where a line is indented less. That a scalar is a
key is only known at the colon after it, so the tokens in front of it are put in afterwards.

Plain and quoted scalars, block and flow collections, comments and document marks are read. Anchors,
tags, directives and block scalars are refused.

* `Scanner` is the state, and `Scanner.token?` reads one token.
* `tokens?` reads a whole text.
-/

namespace SaleSearch.Yaml

/-- The tokens of a document. -/
inductive Token where
  | documentStart
  | documentEnd
  /-- The collections that indentation bounds. -/
  | openSequence
  | openMapping
  | close
  | entry
  | key
  | value
  /-- The collections that brackets bound. -/
  | openBrackets
  | closeBrackets
  | openBraces
  | closeBraces
  | comma
  | scalar (text : String) (plain : Bool)
  deriving DecidableEq, Repr

/-- Where a key may have begun. If it has to be one, its colon must not be missing. -/
structure Candidate where
  required : Bool
  /-- The number of tokens in front of it. -/
  order : Nat
  position : Position
  deriving DecidableEq, Repr

/-- The state of reading: what is left of the text, the tokens so far, and what is open. -/
structure Scanner where
  text : List Char
  position : Position := {}
  tokens : List Token := []
  /-- The columns of the open block collections, the innermost first. -/
  indents : List Int := []
  /-- For each open bracket, the innermost first, and then for the text outside of brackets. -/
  candidates : List (Option Candidate) := [none]
  keyAllowed : Bool := true
  deriving DecidableEq, Repr

namespace Scanner

/-- Is the scanner between brackets or braces? -/
def inFlow (s : Scanner) : Bool :=
  1 < s.candidates.length

/-- The column of the innermost open block collection. -/
def indent (s : Scanner) : Int :=
  s.indents.headD (-1)

/-- The column of the next character. -/
def column (s : Scanner) : Int :=
  s.position.column

/-- Put a token at the end. -/
def emit (s : Scanner) (token : Token) : Scanner :=
  { s with tokens := s.tokens ++ [token] }

/-- Take some characters, none of them a line break, for a token. -/
def take (s : Scanner) (count : Nat) : Scanner :=
  { s with text := s.text.drop count, position := s.position.advance count }

/-- Put a token in front of those from `order` on. -/
def emitAt (s : Scanner) (order : Nat) (token : Token) : Scanner :=
  { s with tokens := s.tokens.take order ++ token :: s.tokens.drop order }

/-! ## Blanks and comments -/

/-- A byte order mark may begin any line. It is skipped like a blank, so that it still takes a
column. -/
def isLineMark (p : Position) (c : Char) : Bool :=
  c = '\uFEFF' && p.column = 0

/-- Skip to the next token. A line break makes a key possible outside of brackets; a tab may not
stand where a key could. -/
def skipFrom (inFlow : Bool) : Bool → Bool → Position → List Char → Bool × Position × List Char
  | _, allowed, p, [] => (allowed, p, [])
  | inComment, allowed, p, c :: rest =>
      if isBreak c then skipFrom inFlow false (allowed || !inFlow) (p.after c) rest
      else if inComment || c = '#' then skipFrom inFlow true allowed (p.after c) rest
      else if c = ' ' || (c = '\t' && (inFlow || !allowed)) || isLineMark p c then
        skipFrom inFlow false allowed (p.after c) rest
      else (allowed, p, c :: rest)

/-- Skip blanks and comments to the next token. -/
def skip (s : Scanner) : Scanner :=
  let (keyAllowed, position, text) := skipFrom s.inFlow false s.keyAllowed s.position s.text
  { s with keyAllowed, position, text }

/-! ## Keys and indentation -/

/-- Can the candidate no longer be a key? A key stands on one line and is not longer than 1024
characters. -/
def isStale (p : Position) (c : Candidate) : Bool :=
  c.position.line < p.line || c.position.index + 1024 < p.index

/-- Forget the candidates that can no longer be keys. -/
def dropStale? (s : Scanner) : Option Scanner :=
  let stale := fun c => isStale s.position c
  if s.candidates.any fun c => c.any fun c => stale c && c.required then none
  else some { s with candidates := s.candidates.map fun c => c.filter fun c => !stale c }

/-- Give up the innermost candidate. -/
def forget? (s : Scanner) : Option Scanner :=
  match s.candidates with
  | some c :: outer => if c.required then none else some { s with candidates := none :: outer }
  | _ => some s

/-- The next token may be a key. -/
def remember? (s : Scanner) : Option Scanner :=
  if s.keyAllowed then do
    let s ← s.forget?
    let candidate : Candidate :=
      { required := !s.inFlow && s.indent = s.column
        order := s.tokens.length
        position := s.position }
    return { s with candidates := some candidate :: s.candidates.drop 1 }
  else some s

/-- Close the block collections that are indented deeper than a column. -/
def closeTo (column : Int) : List Int → List Int × List Token
  | [] => ([], [])
  | indent :: outer =>
      if column < indent then
        let (left, closed) := closeTo column outer
        (left, .close :: closed)
      else (indent :: outer, [])

/-- Close the block collections that are indented deeper than a column, unless the scanner is
between brackets. -/
def unindent (s : Scanner) (column : Int) : Scanner :=
  if s.inFlow then s
  else
    let (indents, closed) := closeTo column s.indents
    { s with indents, tokens := s.tokens ++ closed }

/-- Open a block collection where a line is indented deeper. -/
def indentTo (s : Scanner) (column : Int) (order : Nat) (token : Token) : Scanner :=
  if s.inFlow || decide (column ≤ s.indent) then s
  else { s.emitAt order token with indents := column :: s.indents }

/-! ## Tokens -/

/-- The mark of the start or the end of a document, which closes all block collections. -/
def boundary? (s : Scanner) (token : Token) : Option Scanner := do
  let s ← (s.unindent (-1)).forget?
  return { s.emit token with keyAllowed := false }.take 3

/-- An opening bracket or brace. What it opens may be a key. -/
def openFlow? (s : Scanner) (token : Token) : Option Scanner := do
  let s ← s.remember?
  return { s.emit token with candidates := none :: s.candidates, keyAllowed := true }.take 1

/-- A closing bracket or brace. -/
def closeFlow? (s : Scanner) (token : Token) : Option Scanner := do
  let s ← s.forget?
  let outer := if s.inFlow then s.candidates.drop 1 else s.candidates
  return { s.emit token with candidates := outer, keyAllowed := false }.take 1

/-- A comma between brackets. -/
def comma? (s : Scanner) : Option Scanner := do
  let s ← s.forget?
  return { s.emit .comma with keyAllowed := true }.take 1

/-- A hyphen in front of an item. -/
def entry? (s : Scanner) : Option Scanner := do
  if !s.inFlow && !s.keyAllowed then none
  else
    let s ← (s.indentTo s.column s.tokens.length .openSequence).forget?
    return { s.emit .entry with keyAllowed := true }.take 1

/-- A question mark in front of a key. -/
def explicitKey? (s : Scanner) : Option Scanner := do
  if !s.inFlow && !s.keyAllowed then none
  else
    let s ← (s.indentTo s.column s.tokens.length .openMapping).forget?
    return { s.emit .key with keyAllowed := !s.inFlow }.take 1

/-- A colon makes a key of the candidate; without one it stands for a missing key. -/
def value? (s : Scanner) : Option Scanner :=
  match s.candidates with
  | some c :: outer =>
      let s := s.emitAt c.order .key
      let s := s.indentTo c.position.column c.order .openMapping
      some ({ s.emit .value with candidates := none :: outer, keyAllowed := false }.take 1)
  | _ =>
      if !s.inFlow && !s.keyAllowed then none
      else
        let s := s.indentTo s.column s.tokens.length .openMapping
        some ({ s.emit .value with keyAllowed := !s.inFlow }.take 1)

/-- A quoted scalar, which may be a key. -/
def quotedScalar? (s : Scanner) (double : Bool) : Option Scanner := do
  let s ← s.remember?
  let (text, position, rest) ← quoted? double (s.position.advance 1) (s.text.drop 1)
  let s := s.emit (.scalar (String.ofList text) false)
  return { s with text := rest, position, keyAllowed := false }

/-- A plain scalar, which may be a key. -/
def plainScalar? (s : Scanner) : Option Scanner := do
  let s ← s.remember?
  let scanned ← plain? s.inFlow (s.indent + 1) s.position s.text
  let s := s.emit (.scalar (String.ofList scanned.text) true)
  return { s with
    text := scanned.rest, position := scanned.position, keyAllowed := scanned.brokeLine }

/-- Can the text begin a plain scalar? Three characters can only if no gap follows. -/
def beginsPlain (inFlow : Bool) : List Char → Bool
  | [] => false
  | '-' :: rest => !(rest.head?.any isSpace)
  | c :: rest =>
      if c = '?' || c = ':' then !inFlow && !atGap rest
      else !isSpace c && !isBracket c && !",#&*!|>'\"%@\x60".toList.contains c

/-- One token, from a place where one begins. -/
def token? (s : Scanner) : Option Scanner :=
  if isMarker '-' s.position s.text then s.boundary? .documentStart
  else if isMarker '.' s.position s.text then s.boundary? .documentEnd
  else match s.text with
    | [] => none
    | '[' :: _ => s.openFlow? .openBrackets
    | ']' :: _ => s.closeFlow? .closeBrackets
    | '\x7b' :: _ => s.openFlow? .openBraces
    | '\x7d' :: _ => s.closeFlow? .closeBraces
    | ',' :: _ => s.comma?
    | '\"' :: _ => s.quotedScalar? true
    | '\'' :: _ => s.quotedScalar? false
    | c :: rest =>
        if c = '-' ∧ atGap rest then s.entry?
        else if c = '?' ∧ (s.inFlow ∨ atGap rest) then s.explicitKey?
        else if c = ':' ∧ (s.inFlow ∨ atGap rest) then s.value?
        else if c = '%' ∧ s.position.column = 0 then none
        else if beginsPlain s.inFlow s.text then s.plainScalar?
        else none

/-- The end of the text closes what indentation has opened. -/
def finish? (s : Scanner) : Option (List Token) := do
  let s ← (s.unindent (-1)).forget?
  return s.tokens

/-- All tokens of a text. Each step takes a token off it. -/
def run? : Nat → Scanner → Option (List Token)
  | 0, _ => none
  | fuel + 1, s => do
      let s ← s.skip.dropStale?
      if s.text.isEmpty then s.finish?
      else
        let s ← (s.unindent s.column).token?
        run? fuel s

end Scanner

/-! ## Whole texts -/

/-- Carriage returns and the next-line character as ordinary line breaks. -/
def normalizeBreaks : List Char → List Char
  | [] => []
  | '\r' :: '\n' :: rest => '\n' :: normalizeBreaks rest
  | c :: rest => (if c = '\r' || c = '\u0085' then '\n' else c) :: normalizeBreaks rest

/-- Is the character allowed in a document? Most control characters are not. -/
def isPrintable (c : Char) : Bool :=
  let n := c.toNat
  n = 0x09 || n = 0x0A || n = 0x0D || (0x20 ≤ n && n ≤ 0x7E) || n = 0x85
    || (0xA0 ≤ n && n ≤ 0xFFFD) || 0x10000 ≤ n

/-- The tokens of a text. -/
def tokens? (text : String) : Option (List Token) :=
  let characters := text.toList
  if characters.all isPrintable then
    Scanner.run? (characters.length + 2) { text := normalizeBreaks characters }
  else none

end SaleSearch.Yaml
