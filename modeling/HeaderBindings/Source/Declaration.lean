import HeaderBindings.Signature
import HeaderBindings.Source.Keywords
import HeaderBindings.Source.Token

/-!
Reading a statement of the form `type name(parameters)` as a declaration. The types are reduced to
the shapes of `CType`; a parameter of any other shape is kept as unsupported, so that the
declaration is still found and the shape can be reported later.
-/

namespace HeaderBindings.Source

/-- Why a statement is no declaration. -/
inductive Rejection where
  | noParameterList
  | notPlainDeclarator
  | unbalancedParameterList
  | tokensAfterParameterList
  | missingReturnType
  deriving DecidableEq

def Rejection.message : Rejection → String
  | noParameterList => "no parameter list"
  | notPlainDeclarator => "not a plain function declarator"
  | unbalancedParameterList => "unbalanced parameter list"
  | tokensAfterParameterList => "unexpected tokens after parameter list"
  | missingReturnType => "missing return type"

/-! ### Types -/

/-- What was read of a type: its qualifiers, the words of its base name, both in order, and the
number of stars. -/
structure Specifiers where
  qualifiers : List String := []
  words : List String := []
  stars : Nat := 0

namespace Specifiers

/-- What was read after one more token, or the shape that the token makes of the type. A qualifier
of a pointer is dropped, since it has no rendering, and so is a repeated one. -/
def add (read : Specifiers) : Token → Except String Specifiers
  | .word name =>
      if qualifierKeywords.contains name then
        if read.stars = 0 && !read.qualifiers.contains name then
          .ok { read with qualifiers := read.qualifiers ++ [name] }
        else .ok read
      else if tagKeywords.contains name then .ok read
      else if read.stars = 0 then .ok { read with words := read.words ++ [name] }
      else .error ("unexpected token " ++ (Token.word name).describe)
  | .star => .ok { read with stars := read.stars + 1 }
  | .openParen | .closeParen => .error "function pointer"
  | .openBracket | .closeBracket => .error "array"
  | token => .error ("unexpected token " ++ token.describe)

/-- The type that was read; there is none without a base name. -/
def type? (read : Specifiers) : Option CType :=
  if read.words.isEmpty then none
  else some (.behindPointers read.stars (.named read.qualifiers (String.intercalate " " read.words)))

end Specifiers

/-- The type that tokens stand for after what was already read. The first token that fits into no
type decides the shape. -/
def typeFrom? (read : Specifiers) : List Token → Option CType
  | [] => read.type?
  | token :: rest =>
      match read.add token with
      | .ok next => typeFrom? next rest
      | .error shape => some (.unsupported shape)

/-- The type that tokens stand for; none when they hold no base name. -/
def type? (tokens : List Token) : Option CType := typeFrom? {} tokens

/-! ### Parameters -/

/-- Puts a token in front of the first group. -/
def consGroup (token : Token) : List (List Token) → List (List Token)
  | [] => [[token]]
  | group :: groups => (token :: group) :: groups

/-- The groups between the commas at depth 0 when `depth` parentheses and brackets are open. A
closing one without an opening one changes nothing. -/
def parameterGroupsFrom (depth : Nat) : List Token → List (List Token)
  | [] => [[]]
  | .comma :: rest =>
      if depth = 0 then [] :: parameterGroupsFrom 0 rest
      else consGroup .comma (parameterGroupsFrom depth rest)
  | token :: rest =>
      match token with
      | .openParen | .openBracket => consGroup token (parameterGroupsFrom (depth + 1) rest)
      | .closeParen | .closeBracket => consGroup token (parameterGroupsFrom (depth - 1) rest)
      | _ => consGroup token (parameterGroupsFrom depth rest)

/-- The groups between the commas outside parentheses and brackets. -/
def parameterGroups (tokens : List Token) : List (List Token) := parameterGroupsFrom 0 tokens

/-- Whether a token can carry a type, so that a word after it is a name. -/
def Token.carriesType : Token → Bool
  | .word name => !qualifierKeywords.contains name && !tagKeywords.contains name
  | .star => true
  | _ => false

/-- The name of a parameter declared as `type (*name)(parameters)`, from the tokens behind the first
parenthesis. -/
def pointerName : List Token → String
  | .star :: .word name :: .closeParen :: _ => name
  | _ => ""

/-- The name of a parameter declared as `type name[size]`, from the tokens in front of the first
bracket. It needs a token in front of it. -/
def arrayName (before : List Token) : String :=
  match before.getLast? with
  | some (.word name) => if !isTypeWord name && before.length > 1 then name else ""
  | _ => ""

/-- The name at the end of the tokens of a parameter and the tokens of its type. The last word is
the name unless it belongs to the notation of types or nothing before it carries a type. -/
def splitName (tokens : List Token) : String × List Token :=
  match tokens.getLast? with
  | some (.word name) =>
      if !isTypeWord name && tokens.dropLast.any Token.carriesType then (name, tokens.dropLast)
      else ("", tokens)
  | _ => ("", tokens)

/-- The parameter that a group of tokens declares. -/
def parameter (tokens : List Token) : Parameter :=
  if tokens = [.ellipsis] then ⟨"...", .unsupported "variadic arguments"⟩
  else if tokens.contains .openParen then
    ⟨pointerName ((tokens.dropWhile (· != .openParen)).drop 1), .unsupported "function pointer"⟩
  else if tokens.contains .openBracket then
    ⟨arrayName (tokens.takeWhile (· != .openBracket)), .unsupported "array"⟩
  else
    let (name, typeTokens) := splitName tokens
    ⟨name, (type? typeTokens).getD (.unsupported "missing parameter type")⟩

/-- The parameters that the tokens of a list declare; none for an empty list and for `void`. -/
def parameters (tokens : List Token) : List Parameter :=
  if tokens = [] ∨ tokens = [.word "void"] then [] else (parameterGroups tokens).map parameter

/-! ### Declarations -/

/-- Cuts tokens behind the parenthesis that closes the `depth` ones open; the first part is without
that parenthesis. -/
def closeParenFrom (depth : Nat) : List Token → Option (List Token × List Token)
  | [] => none
  | token :: rest =>
      let further (depth : Nat) :=
        (closeParenFrom depth rest).map fun (inner, after) => (token :: inner, after)
      match token with
      | .openParen => further (depth + 1)
      | .closeParen => if depth ≤ 1 then some ([], rest) else further (depth - 1)
      | _ => further depth

/-- The name that the tokens in front of a parameter list end with. -/
def declaredName? (before : List Token) : Option String :=
  match before.getLast? with
  | some (.word name) => if isTypeWord name then none else some name
  | _ => none

/-- The declaration that the tokens of a statement stand for. -/
def declarationOfTokens (tokens : List Token) : Except Rejection Signature :=
  let before := tokens.takeWhile (· != .openParen)
  match tokens.dropWhile (· != .openParen) with
  | [] => .error .noParameterList
  | _ :: list =>
      match declaredName? before with
      | none => .error .notPlainDeclarator
      | some name =>
          match closeParenFrom 1 list with
          | none => .error .unbalancedParameterList
          | some (_, _ :: _) => .error .tokensAfterParameterList
          | some (inner, []) =>
              match type? before.dropLast with
              | none => .error .missingReturnType
              | some returnType => .ok ⟨name, returnType, parameters inner⟩

/-- The declaration that a statement stands for. -/
def declaration (statement : List Char) : Except Rejection Signature :=
  declarationOfTokens (Token.read statement)

end HeaderBindings.Source
