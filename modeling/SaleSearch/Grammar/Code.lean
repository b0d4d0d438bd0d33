/-!
# Names, codes and hashes

The grammars of the textual parameters. Three of them are an alphabet and a greatest length; a
transaction hash is hexadecimal and may be written with `0x` in front, which is not part of it.

* `CodeGrammar.accepts` decides membership.
* `collectionName?`, `chain?`, `symbolCode?` and `transactionHash?` give the normal form of a text
  that fits.
-/

namespace SaleSearch.Grammar

/-- The grammar of the texts over an alphabet, up to a greatest length if there is one. -/
structure CodeGrammar where
  alphabet : Char → Bool
  longest : Option Nat

namespace CodeGrammar

/-- Is the text in the grammar? The empty one never is. -/
def accepts (g : CodeGrammar) (text : List Char) : Bool :=
  !text.isEmpty && text.all g.alphabet && g.longest.all fun n => text.length ≤ n

/-- The text itself, if it is in the grammar. -/
def read? (g : CodeGrammar) (text : String) : Option String :=
  if g.accepts text.toList then some text else none

end CodeGrammar

/-- Is the character in a range of code points, ends included? -/
def within (first last c : Char) : Bool :=
  first ≤ c && c ≤ last

/-- Account names: lower case letters, the digits 1 to 5 and points. -/
def collectionName : CodeGrammar where
  alphabet c := within 'a' 'z' c || within '1' '5' c || c = '.'
  longest := some 13

/-- Names of chains: ASCII letters and digits. -/
def chain : CodeGrammar where
  alphabet c := within 'a' 'z' c || within 'A' 'Z' c || within '0' '9' c
  longest := none

/-- Codes of currencies: up to seven ASCII capitals. -/
def symbolCode : CodeGrammar where
  alphabet c := within 'A' 'Z' c
  longest := some 7

/-- Hexadecimal digits in either case. -/
def hexadecimal : CodeGrammar where
  alphabet c := within 'a' 'f' c || within 'A' 'F' c || within '0' '9' c
  longest := none

def collectionName? (text : String) : Option String :=
  collectionName.read? text

def chain? (text : String) : Option String :=
  chain.read? text

def symbolCode? (text : String) : Option String :=
  symbolCode.read? text

/-- The digits of a hash without the mark in front. -/
def hashDigits : List Char → List Char
  | '0' :: 'x' :: rest => rest
  | text => text

/-- A transaction hash, which is the part behind an optional `0x`. -/
def transactionHash? (text : String) : Option String :=
  hexadecimal.read? (String.ofList (hashDigits text.toList))

end SaleSearch.Grammar
