import HeaderBindings.Text.Letter

/-!
Patterns that a name has to match somewhere. A pattern is matched by the positions it can end at
when it starts at a position, so the order in which alternatives are tried plays no part. Positions
are numbers of characters from the start of the text.
-/

namespace HeaderBindings
open Text

/-- A condition on a position of the text. -/
inductive Anchor where
  | textStart
  | textEnd
  /-- The start of a line; with `returns` a carriage return ends a line too. -/
  | lineStart (returns : Bool)
  | lineEnd (returns : Bool)
  /-- One of the characters around the position belongs to a word and the other does not. -/
  | wordBoundary (ascii : Bool)
  | insideOrOutsideWord (ascii : Bool)
  | wordStart (ascii : Bool)
  | wordEnd (ascii : Bool)
  /-- No word character before the position. -/
  | notAfterWord (ascii : Bool)
  /-- No word character after the position. -/
  | notBeforeWord (ascii : Bool)

inductive Pattern where
  | nothing
  | char (accepts : Char → Bool)
  | anchor (condition : Anchor)
  | sequence (first second : Pattern)
  | choice (first second : Pattern)
  /-- At least `least` and, if given, at most `most` times the same pattern. -/
  | repeated (pattern : Pattern) (least : Nat) (most : Option Nat)

/-- Whether the position after `before` and in front of `next` meets the condition. -/
def Anchor.holds (before next : Option Char) : Anchor → Bool
  | textStart => before.isNone
  | textEnd => next.isNone
  | lineStart returns =>
      match before with
      | none => true
      | some c => c == '\n' || (returns && c == '\r' && next != some '\n')
  | lineEnd returns =>
      match next with
      | none => true
      | some c =>
          if returns then c == '\r' || (c == '\n' && before != some '\r') else c == '\n'
  | wordBoundary ascii => inWord ascii before != inWord ascii next
  | insideOrOutsideWord ascii => inWord ascii before == inWord ascii next
  | wordStart ascii => !inWord ascii before && inWord ascii next
  | wordEnd ascii => inWord ascii before && !inWord ascii next
  | notAfterWord ascii => !inWord ascii before
  | notBeforeWord ascii => !inWord ascii next
where
  /-- Whether there is a character there that belongs to a word. -/
  inWord (ascii : Bool) : Option Char → Bool
    | none => false
    | some c => if ascii then isPlainChar c else isWordChar c

namespace Pattern

/-- The positions reached from `positions` by any number of steps, at most `count` times one
step. -/
def reachable (step : Nat → List Nat) : Nat → List Nat → List Nat
  | 0, positions => positions
  | count + 1, positions =>
      let next := (positions ++ positions.flatMap step).eraseDups
      if next.length = positions.length then positions else reachable step count next

/-- The positions reached from `positions` by exactly `count` steps. -/
def stepped (step : Nat → List Nat) : Nat → List Nat → List Nat
  | 0, positions => positions
  | count + 1, positions =>
      let next := (positions.flatMap step).eraseDups
      if next = positions then positions else stepped step count next

/-- The positions at which a match that starts at `start` can end. -/
def ends (text : Array Char) : Pattern → Nat → List Nat
  | nothing, start => [start]
  | char accepts, start =>
      match text[start]? with
      | some c => if accepts c then [start + 1] else []
      | none => []
  | anchor condition, start =>
      let before := if start = 0 then none else text[start - 1]?
      if condition.holds before text[start]? then [start] else []
  | sequence first second, start => ((first.ends text start).flatMap (second.ends text)).eraseDups
  | choice first second, start => (first.ends text start ++ second.ends text start).eraseDups
  | repeated pattern least most, start =>
      let required := stepped (pattern.ends text) least [start].eraseDups
      reachable (pattern.ends text)
        (match most with
          | some most => most - least
          | none => text.size + 1)
        required

/-- Whether the pattern matches somewhere in the text. -/
def isFoundIn (pattern : Pattern) (text : String) : Bool :=
  let chars := text.toList.toArray
  (List.range (chars.size + 1)).any fun start => !(pattern.ends chars start).isEmpty

end Pattern

end HeaderBindings
