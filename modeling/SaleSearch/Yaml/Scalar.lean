/-!
# YAML scalars

The text of plain and of quoted scalars, which may run over several lines. A line break between two
words counts as a space, and an empty line as a line break.

* `plain?` reads a plain scalar up to whatever ends it, which depends on whether it stands inside
  brackets.
* `quoted?` reads a scalar in single or double quotes.
* `Position` keeps track of lines and columns.
-/

namespace SaleSearch.Yaml

/-- A place in a text, by its line and column and by the characters before it. -/
structure Position where
  line : Nat := 0
  column : Nat := 0
  index : Nat := 0
  deriving DecidableEq, Repr

/-- The characters that end a line, once line breaks are normalised. -/
def isBreak (c : Char) : Bool :=
  c = '\n' || c = '\u2028' || c = '\u2029'

/-- The blanks of a line. -/
def isSpace (c : Char) : Bool :=
  c = ' ' || c = '\t'

/-- Is the text at its end, or at a blank or a line break? -/
def atGap : List Char → Bool
  | [] => true
  | c :: _ => isSpace c || isBreak c

/-- The place after one more character. -/
def Position.after (p : Position) (c : Char) : Position :=
  if isBreak c then { line := p.line + 1, column := 0, index := p.index + 1 }
  else { p with column := p.column + 1, index := p.index + 1 }

/-- The place after some characters of the same line. -/
def Position.advance (p : Position) (count : Nat) : Position :=
  { p with column := p.column + count, index := p.index + count }

/-- Do three of a mark stand on their own at the start of a line? -/
def isMarker (mark : Char) (p : Position) (text : List Char) : Bool :=
  p.column = 0 && text.take 3 = [mark, mark, mark] && atGap (text.drop 3)

/-- Does a document begin or end here? -/
def isBoundary (p : Position) (text : List Char) : Bool :=
  isMarker '-' p text || isMarker '.' p text

/-! ## Gaps -/

/-- What stands between two words: blanks, or line breaks with whatever blanks around them. -/
structure Gap where
  blanks : List Char := []
  breaks : Option (List Char) := none
  deriving DecidableEq, Repr

/-- What a gap contributes to a scalar. The first of several ordinary line breaks is dropped. -/
def Gap.text (g : Gap) : List Char :=
  match g.breaks with
  | none => g.blanks
  | some ['\n'] => [' ']
  | some ('\n' :: others) => others
  | some breaks => breaks

/-- Does the gap go over the end of a line? -/
def Gap.hasBreak (g : Gap) : Bool :=
  g.breaks.isSome

/-- One more character of a gap. -/
def Gap.add (g : Gap) (c : Char) : Gap :=
  if isBreak c then { g with breaks := some (g.breaks.getD [] ++ [c]) }
  else if g.hasBreak then g
  else { g with blanks := g.blanks ++ [c] }

/-- Take blanks and line breaks into a gap, up to the next word. -/
def takeGap : Gap → Position → List Char → Gap × Position × List Char
  | g, p, [] => (g, p, [])
  | g, p, c :: rest =>
      if isSpace c || isBreak c then takeGap (g.add c) (p.after c) rest else (g, p, c :: rest)

/-- Does a tab stand at the start of a line that should be indented deeper? -/
def hasTabIndent (indent : Int) : Gap → Position → List Char → Bool
  | _, _, [] => false
  | g, p, c :: rest =>
      if isSpace c || isBreak c then
        (g.hasBreak && c = '\t' && decide ((p.column : Int) < indent))
          || hasTabIndent indent (g.add c) (p.after c) rest
      else false

/-! ## Plain scalars -/

/-- The brackets and braces of flow collections. -/
def isBracket (c : Char) : Bool :=
  c = '[' || c = ']' || c = '\x7b' || c = '\x7d'

/-- Must a colon between brackets not run into this character? -/
def clashesWithColon (c : Char) : Bool :=
  isBracket c || c = ',' || c = '?'

/-- The characters of a plain scalar up to the next gap or to what ends the scalar. -/
def word? (inFlow : Bool) : List Char → Option (List Char × List Char)
  | [] => some ([], [])
  | c :: rest =>
      if isSpace c || isBreak c then some ([], c :: rest)
      else if inFlow && c = ':' && rest.head?.any clashesWithColon then none
      else if c = ':' && atGap rest then some ([], c :: rest)
      else if inFlow && (c = ',' || isBracket c) then some ([], c :: rest)
      else (word? inFlow rest).map fun read => (c :: read.1, read.2)

/-- A scalar with the place where it ends. -/
structure Scanned where
  text : List Char
  position : Position
  rest : List Char
  /-- Was a line break passed after the last word? -/
  brokeLine : Bool
  deriving DecidableEq, Repr

/-- Words and gaps in turn. A gap only counts if a word follows it. -/
def plainFrom? (inFlow : Bool) (indent : Int) :
    Nat → List Char → Gap → Position → List Char → Option Scanned
  | 0, _, _, _, _ => none
  | fuel + 1, soFar, gap, p, text =>
      let stop : Scanned :=
        { text := soFar, position := p, rest := text, brokeLine := gap.hasBreak }
      if isBoundary p text || text.head? = some '#' then some stop
      else do
        let (word, rest) ← word? inFlow text
        let soFar := if word.isEmpty then soFar else soFar ++ gap.text ++ word
        let gap := if word.isEmpty then gap else {}
        let p := p.advance word.length
        if rest.isEmpty || !atGap rest then
          some { text := soFar, position := p, rest, brokeLine := gap.hasBreak }
        else if hasTabIndent indent gap p rest then none
        else
          let (gap, p, rest) := takeGap gap p rest
          if !inFlow && decide ((p.column : Int) < indent) then
            some { text := soFar, position := p, rest, brokeLine := gap.hasBreak }
          else plainFrom? inFlow indent fuel soFar gap p rest

/-- A plain scalar; outside brackets its further lines are indented at least so far. -/
def plain? (inFlow : Bool) (indent : Int) (p : Position) (text : List Char) : Option Scanned :=
  plainFrom? inFlow indent (text.length + 1) [] {} p text

/-! ## Quoted scalars -/

/-- The escapes of a single character. -/
def escaped? : Char → Option Char
  | '0' => some '\x00'
  | 'a' => some '\x07'
  | 'b' => some '\x08'
  | 't' => some '\t'
  | '\t' => some '\t'
  | 'n' => some '\n'
  | 'v' => some '\x0b'
  | 'f' => some '\x0c'
  | 'r' => some '\r'
  | 'e' => some '\x1b'
  | ' ' => some ' '
  | '\"' => some '\"'
  | '/' => some '/'
  | '\\' => some '\\'
  | 'N' => some '\u0085'
  | '_' => some '\u00a0'
  | 'L' => some '\u2028'
  | 'P' => some '\u2029'
  | _ => none

/-- How many hexadecimal digits an escape has. -/
def escapeWidth? : Char → Option Nat
  | 'x' => some 2
  | 'u' => some 4
  | 'U' => some 8
  | _ => none

/-- The value of a hexadecimal digit. -/
def hexValue? (c : Char) : Option Nat :=
  if '0' ≤ c ∧ c ≤ '9' then some (c.toNat - 48)
  else if 'a' ≤ c ∧ c ≤ 'f' then some (c.toNat - 87)
  else if 'A' ≤ c ∧ c ≤ 'F' then some (c.toNat - 55)
  else none

/-- The character with a code point in so many hexadecimal digits. -/
def codePoint? (width : Nat) (text : List Char) : Option Char := do
  let digits ← (text.take width).mapM hexValue?
  let n := digits.foldl (fun n d => n * 16 + d) 0
  if digits.length = width ∧ n.isValidChar then some (Char.ofNat n) else none

/-- What follows a backslash: a character, and how many characters were read for it. -/
def escape? : List Char → Option (Char × Nat)
  | [] => none
  | c :: rest =>
      match escapeWidth? c with
      | some width => (codePoint? width rest).map fun d => (d, width + 1)
      | none => (escaped? c).map fun d => (d, 1)

/-- The scalar after its opening quote. -/
def quotedFrom? (double : Bool) :
    Nat → List Char → Position → List Char → Option (List Char × Position × List Char)
  | 0, _, _, _ => none
  | fuel + 1, soFar, p, text =>
      if isBoundary p text then none
      else match double, text with
        | _, [] => none
        | false, '\'' :: '\'' :: rest =>
            quotedFrom? double fuel (soFar ++ ['\'']) (p.advance 2) rest
        | false, '\'' :: rest => some (soFar, p.advance 1, rest)
        | true, '\"' :: rest => some (soFar, p.advance 1, rest)
        | true, '\\' :: rest =>
            match rest with
            | c :: others =>
                if isBreak c then
                  let (gap, p, rest) := takeGap { breaks := some [] } ((p.advance 1).after c) others
                  quotedFrom? double fuel (soFar ++ gap.breaks.getD []) p rest
                else do
                  let (d, count) ← escape? rest
                  quotedFrom? double fuel (soFar ++ [d]) (p.advance (count + 1)) (rest.drop count)
            | [] => none
        | _, c :: rest =>
            if isSpace c || isBreak c then
              let (gap, p, rest) := takeGap {} p (c :: rest)
              quotedFrom? double fuel (soFar ++ gap.text) p rest
            else quotedFrom? double fuel (soFar ++ [c]) (p.advance 1) rest

/-- A scalar in single or double quotes, after the opening one. -/
def quoted? (double : Bool) (p : Position) (text : List Char) :
    Option (List Char × Position × List Char) :=
  quotedFrom? double (text.length + 1) [] p text

end SaleSearch.Yaml
