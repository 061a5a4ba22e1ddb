import HeaderBindings.Offsets.Access
import HeaderBindings.Source.Declaration

/-!
Reading a declaration from its tokens by their positions. The parameter list is found between the
first parenthesis and the one that closes it, and the parameters between the commas in it.
-/

namespace HeaderBindings.Offsets
open Source

def position? (token : Token) (tokens : List Token) : Option Nat := tokens.findIdx? (· == token)

/-- The token in front of a position, if it is not the first. -/
def tokenBefore? (tokens : List Token) : Nat → Checked (Option Token)
  | 0 => pure none
  | position + 1 => do
      let token ← element tokens position
      pure (some token)

/-- The position of the parenthesis that closes the `depth` ones that are open, among tokens of which
the first is at `position`. -/
def closingFrom (position depth : Nat) : List Token → Checked (Option Nat)
  | [] => pure none
  | .openParen :: rest => closingFrom (position + 1) (depth + 1) rest
  | .closeParen :: rest => do
      let left ← minus depth 1
      if left = 0 then pure (some position) else closingFrom (position + 1) left rest
  | _ :: rest => closingFrom (position + 1) depth rest

/-- The groups between the commas, of which those in front of `start` have been found, among tokens
of which the `rest` starts at `position`. -/
def groupsFrom (tokens : List Token) (start position depth : Nat) (found : List (List Token)) :
    List Token → Checked (List (List Token))
  | [] => do
      let last ← part tokens start tokens.length
      pure (found ++ [last])
  | token :: rest =>
      match token with
      | .openParen | .openBracket => groupsFrom tokens start (position + 1) (depth + 1) found rest
      | .closeParen | .closeBracket => groupsFrom tokens start (position + 1) (depth - 1) found rest
      | .comma =>
          if depth = 0 then do
            let group ← part tokens start position
            groupsFrom tokens (position + 1) (position + 1) depth (found ++ [group]) rest
          else groupsFrom tokens start (position + 1) depth found rest
      | _ => groupsFrom tokens start (position + 1) depth found rest

/-- The three tokens behind a position, if there are as many. -/
def threeBehind (tokens : List Token) (position : Nat) : List Token :=
  match part tokens (position + 1) (position + 4) with
  | .ok three => three
  | .error _ => []

def parameter (tokens : List Token) : Checked Parameter :=
  if tokens = [.ellipsis] then pure ⟨"...", .unsupported "variadic arguments"⟩
  else
    match position? .openParen tokens, position? .openBracket tokens with
    | some opening, _ =>
        pure ⟨pointerName (threeBehind tokens opening), .unsupported "function pointer"⟩
    | none, some opening => do
        let name := match ← tokenBefore? tokens opening with
          | some (.word name) => if !isTypeWord name && opening > 1 then name else ""
          | _ => ""
        pure ⟨name, .unsupported "array"⟩
    | none, none =>
        let (name, typeTokens) := splitName tokens
        pure ⟨name, (type? typeTokens).getD (.unsupported "missing parameter type")⟩

def parameters (tokens : List Token) : Checked (List Parameter) :=
  if tokens = [] ∨ tokens = [.word "void"] then pure []
  else do
    let groups ← groupsFrom tokens 0 0 0 [] tokens
    groups.mapM parameter

/-- The declaration that tokens stand for, or why they stand for none. -/
def declarationOfTokens (tokens : List Token) : Checked (Except Rejection Signature) :=
  match position? .openParen tokens with
  | none => pure (.error .noParameterList)
  | some opening => do
      match ← tokenBefore? tokens opening with
      | some (.word name) =>
          if isTypeWord name then pure (.error .notPlainDeclarator)
          else
            match ← closingFrom opening 0 (tokens.drop opening) with
            | none => pure (.error .unbalancedParameterList)
            | some closing =>
                if closing + 1 ≠ tokens.length then pure (.error .tokensAfterParameterList)
                else
                  let last ← minus opening 1
                  match type? (← part tokens 0 last) with
                  | none => pure (.error .missingReturnType)
                  | some returnType =>
                      let list ← part tokens (opening + 1) closing
                      let parameters ← parameters list
                      pure (.ok ⟨name, returnType, parameters⟩)
      | _ => pure (.error .notPlainDeclarator)

end HeaderBindings.Offsets
