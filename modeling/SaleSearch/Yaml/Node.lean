import SaleSearch.Yaml.Token

/-!
# YAML documents

The tree that tokens describe. A value or a key that is missing is the empty plain scalar.

* `Node` is the tree, and `node?` reads one from the front of some tokens.
* `Yaml.read?` reads a whole text, which may hold at most one document.
-/

namespace SaleSearch.Yaml

/-- A node of a document. Of a scalar it is kept whether it was plain. -/
inductive Node where
  | scalar (text : String) (plain : Bool)
  | sequence (items : List Node)
  | mapping (entries : List (Node × Node))

/-- What stands for a missing node. -/
def Node.missing : Node := .scalar "" true

/-- After these tokens a node of a block is missing. -/
def endsBlockNode : List Token → Bool
  | .key :: _ | .value :: _ | .close :: _ => true
  | _ => false

/-- After these tokens an item of a block is missing. -/
def endsItem : List Token → Bool
  | .entry :: _ | .close :: _ => true
  | _ => false

/-- After these tokens a node between brackets is missing. -/
def endsFlowNode (closing : Token) : List Token → Bool
  | token :: _ => token = .value || token = .comma || token = closing
  | [] => false

/-- Where a key between brackets is missing, the token that shows it counts as the key. Between
braces it stays where it is. -/
def afterMissingKey (closing : Token) (tokens : List Token) : List Token :=
  if closing = .closeBrackets then tokens.drop 1 else tokens

mutual

/-- A node. Inside a mapping a sequence need not be indented deeper than the key; between brackets
there are no blocks. -/
def node? : Nat → Bool → Bool → List Token → Option (Node × List Token)
  | 0, _, _, _ => none
  | fuel + 1, inBlock, flush, tokens =>
      match tokens with
      | .scalar text plain :: rest => some (.scalar text plain, rest)
      | .openBrackets :: rest =>
          (flowItems? fuel true rest).map fun read => (.sequence read.1, read.2)
      | .openBraces :: rest =>
          (flowEntries? fuel true rest).map fun read => (.mapping read.1, read.2)
      | .openSequence :: rest =>
          if inBlock then (items? fuel rest).map fun read => (.sequence read.1, read.2) else none
      | .openMapping :: rest =>
          if inBlock then (entries? fuel rest).map fun read => (.mapping read.1, read.2) else none
      | .entry :: _ =>
          if flush then (flushItems? fuel tokens).map fun read => (.sequence read.1, read.2)
          else none
      | _ => none

/-- The items of a sequence up to where its indentation ends. -/
def items? : Nat → List Token → Option (List Node × List Token)
  | 0, _ => none
  | fuel + 1, tokens =>
      match tokens with
      | .close :: rest => some ([], rest)
      | .entry :: rest => do
          let (item, rest) ←
            if endsItem rest then some (Node.missing, rest) else node? fuel true false rest
          let (others, rest) ← items? fuel rest
          return (item :: others, rest)
      | _ => none

/-- The items of a sequence that is not indented, up to anything else. -/
def flushItems? : Nat → List Token → Option (List Node × List Token)
  | 0, _ => none
  | fuel + 1, tokens =>
      match tokens with
      | .entry :: rest => do
          let (item, rest) ←
            if endsItem rest || endsBlockNode rest then some (Node.missing, rest)
            else node? fuel true false rest
          let (others, rest) ← flushItems? fuel rest
          return (item :: others, rest)
      | rest => some ([], rest)

/-- The entries of a mapping up to where its indentation ends. -/
def entries? : Nat → List Token → Option (List (Node × Node) × List Token)
  | 0, _ => none
  | fuel + 1, tokens =>
      match tokens with
      | .close :: rest => some ([], rest)
      | .key :: rest => do
          let (key, rest) ←
            if endsBlockNode rest then some (Node.missing, rest) else node? fuel true true rest
          let (value, rest) ← match rest with
            | .value :: rest =>
                if endsBlockNode rest then some (Node.missing, rest) else node? fuel true true rest
            | rest => some (Node.missing, rest)
          let (others, rest) ← entries? fuel rest
          return ((key, value) :: others, rest)
      | _ => none

/-- The items between brackets; a comma may follow the last. -/
def flowItems? : Nat → Bool → List Token → Option (List Node × List Token)
  | 0, _, _ => none
  | fuel + 1, first, tokens =>
      match first, tokens with
      | _, .closeBrackets :: rest => some ([], rest)
      | false, .comma :: .closeBrackets :: rest => some ([], rest)
      | false, .comma :: rest => flowItem? fuel rest
      | false, _ => none
      | true, rest => flowItem? fuel rest

/-- An item between brackets, which may be a single entry of a mapping, and those after it. -/
def flowItem? : Nat → List Token → Option (List Node × List Token)
  | 0, _ => none
  | fuel + 1, tokens => do
      let (item, rest) ← match tokens with
        | .key :: rest =>
            (flowPair? fuel .closeBrackets rest).map fun read => (Node.mapping [read.1], read.2)
        | rest => node? fuel false false rest
      let (others, rest) ← flowItems? fuel false rest
      return (item :: others, rest)

/-- A key and a value between brackets. -/
def flowPair? : Nat → Token → List Token → Option ((Node × Node) × List Token)
  | 0, _, _ => none
  | fuel + 1, closing, tokens => do
      let (key, rest) ←
        if endsFlowNode closing tokens then some (Node.missing, afterMissingKey closing tokens)
        else node? fuel false false tokens
      match rest with
      | .value :: rest => do
          let (value, rest) ←
            if endsFlowNode closing rest then some (Node.missing, rest)
            else node? fuel false false rest
          return ((key, value), rest)
      | rest => return ((key, Node.missing), rest)

/-- The entries between braces; a comma may follow the last. -/
def flowEntries? : Nat → Bool → List Token → Option (List (Node × Node) × List Token)
  | 0, _, _ => none
  | fuel + 1, first, tokens =>
      match first, tokens with
      | _, .closeBraces :: rest => some ([], rest)
      | false, .comma :: .closeBraces :: rest => some ([], rest)
      | false, .comma :: rest => flowEntry? fuel rest
      | false, _ => none
      | true, rest => flowEntry? fuel rest

/-- An entry between braces, whose value may be missing, and those after it. -/
def flowEntry? : Nat → List Token → Option (List (Node × Node) × List Token)
  | 0, _ => none
  | fuel + 1, tokens => do
      let (pair, rest) ← match tokens with
        | .key :: rest => flowPair? fuel .closeBraces rest
        | rest => (node? fuel false false rest).map fun read => ((read.1, Node.missing), read.2)
      let (others, rest) ← flowEntries? fuel false rest
      return (pair :: others, rest)

end

/-- More steps than reading a document takes: each one reads a token or goes into a node. -/
def documentFuel (tokens : List Token) : Nat :=
  4 * tokens.length + 4

/-- The node of a document that has no mark of its start, and so is not missing. -/
def bareNode? (tokens : List Token) : Option (Node × List Token) :=
  node? (documentFuel tokens) true false tokens

/-- The node after the mark of a start, which is missing if another mark or the end follows. -/
def markedNode? (tokens : List Token) : Option (Node × List Token) :=
  match tokens with
  | [] | .documentStart :: _ | .documentEnd :: _ => some (Node.missing, tokens)
  | _ => bareNode? tokens

/-- Nothing may follow the only document but marks of its end. -/
def alone? (read : Node × List Token) : Option Node :=
  if read.2.all (· = .documentEnd) then some read.1 else none

/-- The document of a text. A text without tokens has none, which the inner option says. -/
def read? (text : String) : Option (Option Node) := do
  match ← tokens? text with
  | [] => some none
  | .documentStart :: rest => ((markedNode? rest).bind alone?).map some
  | tokens => ((bareNode? tokens).bind alone?).map some

end SaleSearch.Yaml
