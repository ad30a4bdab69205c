import MessageAbi.Bindings.Code.Item
import MessageAbi.Text.Hex
import MessageAbi.Text.IdentifierChar
import MessageAbi.Text.Quoted

/-!
This module contains the text of code: its tokens, with nothing between two of them but one space where
both are words.
-/

namespace MessageAbi.Bindings.Code

def isWordChar (c : Char) : Bool :=
  Text.isIdentifierContinue c || c = '"'

def beside (token : String) (text : List Char) : List Char :=
  let token := token.toList
  match token.getLast?, text.head? with
  | some a, some b => if isWordChar a && isWordChar b then token ++ ' ' :: text else token ++ text
  | _, _ => token ++ text

def textOf (tokens : List String) : String :=
  String.ofList (tokens.foldr beside [])

/--
The characters of a string literal between its quotes. A NUL takes another form in front of an octal
digit.
-/
def literalChars : List Char → List Char
  | [] => []
  | c :: rest =>
    (if c.toNat = 0 ∧ rest.head?.any (fun d => '0' ≤ d ∧ d ≤ '7') then ['\\', 'x', '0', '0']
      else Text.escape '"' c) ++ literalChars rest

def literal (text : String) : String :=
  String.ofList (['"'] ++ literalChars text.toList ++ ['"'])

def commas (items : List (List String)) : List String :=
  [","].intercalate items

def parens (items : List (List String)) : List String :=
  "(" :: commas items ++ [")"]

def brackets (items : List (List String)) : List String :=
  "[" :: commas items ++ ["]"]

def braces (items : List (List String)) : List String :=
  "\x7b" :: commas items ++ ["\x7d"]

def angles (items : List (List String)) : List String :=
  "<" :: commas items ++ [">"]

def Path.tokens (path : Path) : List String :=
  path.intersperse "::"

mutual

def Ty.tokens : Ty → List String
  | .path names [] => names.tokens
  | .path names arguments => names.tokens ++ angles (Ty.listTokens arguments)
  | .inferred => ["_"]
  | .unit => ["()"]
  | .slice element => brackets [element.tokens]
  | .reference modifier target => "&" :: modifier.toList ++ target.tokens
  | .count n => [toString n]

def Ty.listTokens : List Ty → List (List String)
  | [] => []
  | type :: types => type.tokens :: Ty.listTokens types

end

def associatedTokens (type trait : Ty) (name : String) : List String :=
  "<" :: type.tokens ++ "as" :: trait.tokens ++ [">", "::", name]

def Pattern.tokens : Pattern → List String
  | wildcard => ["_"]
  | named name => [name]
  | mutable name => ["mut", name]
  | borrowed name => ["ref", name]
  | array names => brackets (names.map ([·]))
  | constant type trait name => associatedTokens type trait name
  | variant names content => names.tokens ++ parens [content.tokens]

mutual

def Expr.tokens : Expr → List String
  | .path names => names.tokens
  | .generic names arguments rest =>
    names.tokens ++ "::" :: angles (arguments.map Ty.tokens) ++ rest.flatMap (["::", ·])
  | .associated type trait name => associatedTokens type trait name
  | .text content => [literal content]
  | .number n => [toString n]
  | .byte content => ["0x" ++ Hex.encode [content]]
  | .borrow place => "&" :: place.tokens
  | .deref reference => "*" :: reference.tokens
  | .field receiver name => receiver.tokens ++ [".", name]
  | .propagate result => result.tokens ++ ["?"]
  | .call function arguments => function.tokens ++ parens (Expr.listTokens arguments)
  | .method receiver name types arguments =>
    receiver.tokens ++ [".", name]
      ++ (if types.isEmpty then [] else "::" :: angles (types.map Ty.tokens))
      ++ parens (Expr.listTokens arguments)
  | .closure parameter body => ["|", parameter, "|"] ++ body.tokens
  | .vec items => "::std::vec!" :: brackets (Expr.listTokens items)
  | .array items => brackets (Expr.listTokens items)
  | .construct names members => names.tokens ++ braces (Expr.memberTokens members)
  | .select subject arms => "match" :: subject.tokens ++ braces (Expr.armTokens arms)

def Expr.listTokens : List Expr → List (List String)
  | [] => []
  | expr :: exprs => expr.tokens :: Expr.listTokens exprs

def Expr.memberTokens : List Member → List (List String)
  | [] => []
  | .given name value :: members => (name :: ":" :: value.tokens) :: Expr.memberTokens members
  | .shorthand name :: members => [name] :: Expr.memberTokens members

def Expr.armTokens : List Arm → List (List String)
  | [] => []
  | .mk pattern body :: arms => (pattern.tokens ++ "=>" :: body.tokens) :: Expr.armTokens arms

end

def Statement.tokens : Statement → List String
  | bind pattern value => "let" :: pattern.tokens ++ "=" :: value.tokens ++ [";"]
  | run expr => expr.tokens ++ [";"]

def Block.tokens (block : Block) : List String :=
  "\x7b" :: block.statements.flatMap (·.tokens) ++ block.result.tokens ++ ["\x7d"]

def Receiver.tokens : Receiver → List String
  | shared => ["&", "self"]
  | exclusive => ["&", "mut", "self"]

def Bound.tokens (bound : Bound) : List String :=
  (if bound.isRelaxed then ["?"] else []) ++ bound.type.tokens

def typed (name : String) (type : Ty) : List String :=
  name :: ":" :: type.tokens

def docTokens (doc : String) : List String :=
  "#" :: brackets [["doc", "=", literal doc]]

def publicTokens (isPublic : Bool) : List String :=
  if isPublic then ["pub"] else []

def Function.tokens (function : Function) : List String :=
  let generics := function.generics.map fun (name, bounds) =>
    name :: ":" :: ["+"].intercalate (bounds.map (·.tokens))
  let parameters := function.receiver.toList.map (·.tokens)
    ++ function.parameters.map fun (name, type) => typed name type
  function.doc.toList.flatMap docTokens ++ publicTokens function.isPublic ++ ["fn", function.name]
    ++ (if generics.isEmpty then [] else angles generics) ++ parens parameters
    ++ "->" :: function.result.tokens ++ function.body.elim [";"] (·.tokens)

def Constant.tokens (constant : Constant) : List String :=
  constant.doc.toList.flatMap docTokens ++ publicTokens constant.isPublic
    ++ "const" :: typed constant.name constant.type ++ "=" :: constant.value.tokens ++ [";"]

def Part.tokens : Part → List String
  | constant definition => definition.tokens
  | function definition => definition.tokens

def derives : String :=
  "#[derive(Debug,Clone,PartialEq,Eq)]"

def Item.tokens : Item → List String
  | useAs names name => "use" :: names.tokens ++ ["as", name, ";"]
  | struct doc name fields =>
    docTokens doc ++ [derives, "pub", "struct", name]
      ++ braces (fields.map fun (name, type) => "pub" :: typed name type)
  | enum doc name variants =>
    docTokens doc ++ [derives, "pub", "enum", name]
      ++ braces (variants.map fun (name, type) => name :: parens [type.tokens])
  | implementation bound type parts =>
    "impl" :: bound.elim [] (fun names => names.tokens ++ ["for"]) ++ type :: "\x7b"
      :: parts.flatMap (·.tokens) ++ ["\x7d"]
  | trait doc name types functions =>
    docTokens doc ++ ["pub", "trait", name, "\x7b"]
      ++ types.flatMap (fun (name, bound) => "type" :: typed name bound ++ [";"])
      ++ functions.flatMap (·.tokens) ++ ["\x7d"]
  | constant definition => definition.tokens
  | function definition => definition.tokens

def Item.text (item : Item) : String :=
  textOf item.tokens

end MessageAbi.Bindings.Code
