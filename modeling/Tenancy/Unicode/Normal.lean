import Tenancy.Unicode.Combining
import Tenancy.Unicode.Composition

/-!
# The composed form of a text

Texts that mean the same have one composed form: every character is taken apart, the marks are put
in the order of their classes, and what can be put together again is put together.
-/

namespace Tenancy.Unicode

/-- Puts a character behind a reversed text; a mark moves before marks of higher classes. -/
def place (c : Char) : List Char → List Char
  | [] => [c]
  | d :: rest =>
    if combiningClass c ≠ 0 && combiningClass c < combiningClass d then d :: place c rest
    else c :: d :: rest

/-- A text with its marks in order. -/
def inOrder (cs : List Char) : List Char := (cs.foldl (fun done c => place c done) []).reverse

/-- How far a text has been put together: what is finished, backwards; the character that marks
still may join; and the marks behind it that did not, backwards. -/
structure Composing where
  done : List Char
  base : Option Char
  apart : List Char

/-- Takes up a character: it joins the base unless a mark of its class or a higher one is between.
-/
def Composing.take (s : Composing) (c : Char) : Composing :=
  let mayJoin := match s.apart with
    | [] => true
    | d :: _ => combiningClass d < combiningClass c
  match s.base with
  | none =>
    if combiningClass c = 0 then { s with base := some c } else { s with done := c :: s.done }
  | some b =>
    match (if mayJoin then compose? b c else none) with
    | some joined => { s with base := some joined }
    | none =>
      if combiningClass c = 0 then ⟨s.apart ++ b :: s.done, some c, []⟩
      else { s with apart := c :: s.apart }

/-- All of a text that has been put together. -/
def Composing.finish (s : Composing) : List Char :=
  (s.apart ++ s.base.toList ++ s.done).reverse

/-- The composed form of a text. -/
def composed (cs : List Char) : List Char :=
  ((inOrder (cs.flatMap (decompose 4))).foldl Composing.take ⟨[], none, []⟩).finish

end Tenancy.Unicode
