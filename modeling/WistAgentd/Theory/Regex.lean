/- # Theory.Regex -- regular expressions as a search over places in a text

The fragment of the usual syntax without captures: classes, anchors, word boundaries, sequence,
alternation and counted repetition. A match is a way from one place of the text to another, so
`ends` lists all places where a match that begins here can stop, and a text matches when there is
one from some place.

* `Regex.ends`, `Pattern.isMatch`: matching.
* `Pattern.isMatch_mono`: taking more places for word boundaries only adds matches. -/
import WistAgentd.Theory.Utf8

namespace WistAgentd.Theory.Matching
open List
open Utf8 (isWhitespace)
set_option autoImplicit false

/-! ## Characters -/

/-- Simple case folding as far as it reaches ASCII: the Kelvin sign folds to `k`, the long s
to `s`. -/
def foldCase (c : Char) : Char :=
  if c.toNat = 0x212A then 'k'
  else if c.toNat = 0x17F then 's'
  else c.toLower

inductive ClassItem
  | range (low high : Char)
  | space

structure CharClass where
  negated : Bool
  items : List ClassItem

def between (low high c : Char) : Bool :=
  decide (low.toNat ≤ c.toNat) && decide (c.toNat ≤ high.toNat)

def ClassItem.has (ignoreCase : Bool) : ClassItem → Char → Bool
  | .range low high, c =>
    between low high c ||
      ignoreCase && (between low high (foldCase c) || between low high (foldCase c).toUpper)
  | .space, c => isWhitespace c

/-- Case is folded before the class is negated. -/
def CharClass.has (ignoreCase : Bool) (cls : CharClass) (c : Char) : Bool :=
  (cls.items.any fun item => item.has ignoreCase c) != cls.negated

/-! ## Expressions -/

inductive Regex
  | empty
  | char (cls : CharClass)
  | start
  | finish
  | boundary
  | seq (first second : Regex)
  | alt (left right : Regex)
  | repeated (body : Regex) (least : Nat) (most : Option Nat)

namespace Regex

def lit (c : Char) : Regex := .char ⟨false, [.range c c]⟩

def text (s : String) : Regex := s.toList.foldr (fun c rest => .seq (lit c) rest) .empty

def oneOf (s : String) : Regex := .char ⟨false, s.toList.map fun c => .range c c⟩

def noneOf (s : String) : Regex := .char ⟨true, s.toList.map fun c => .range c c⟩

def space : Regex := .char ⟨false, [.space]⟩

def notSpace : Regex := .char ⟨true, [.space]⟩

def all (parts : List Regex) : Regex := parts.foldr .seq .empty

def either (first : Regex) (others : List Regex) : Regex := others.foldl .alt first

def optional (body : Regex) : Regex := .repeated body 0 (some 1)

def star (body : Regex) : Regex := .repeated body 0 none

def plus (body : Regex) : Regex := .repeated body 1 none

def exactly (n : Nat) (body : Regex) : Regex := .repeated body n (some n)

def atLeast (n : Nat) (body : Regex) : Regex := .repeated body n none

end Regex

/-! ## Matching -/

/-- A place in a text: the character before it and what follows. -/
structure Spot where
  before : Option Char
  rest : List Char

/-- Exactly `n` steps. -/
def times (step : Spot → List Spot) : Nat → List Spot → List Spot
  | 0, spots => spots
  | n + 1, spots => times step n (spots.flatMap step)

/-- Up to `n` steps. -/
def upTo (step : Spot → List Spot) : Nat → List Spot → List Spot
  | 0, spots => spots
  | n + 1, spots => spots ++ upTo step n (spots.flatMap step)

/-- Whether a word boundary lies between two characters, or between one and an end of the text. -/
abbrev Boundary := Option Char → Option Char → Bool

/-- Exactly one of the two sides is a word character. -/
def wordBoundary (isWord : Char → Bool) : Boundary :=
  fun left right => left.any isWord != right.any isWord

/-- Where a match that begins at a place can stop. An unbounded repetition needs no more rounds
than there are characters: a round that takes none leads nowhere new. -/
def Regex.ends (isBoundary : Boundary) (ignoreCase : Bool) : Regex → Spot → List Spot
  | .empty, spot => [spot]
  | .char cls, spot => match spot.rest with
    | [] => []
    | c :: rest => if cls.has ignoreCase c then [⟨some c, rest⟩] else []
  | .start, spot => if spot.before = none then [spot] else []
  | .finish, spot => if spot.rest = [] then [spot] else []
  | .boundary, spot => if isBoundary spot.before spot.rest.head? then [spot] else []
  | .seq first second, spot =>
    (first.ends isBoundary ignoreCase spot).flatMap (second.ends isBoundary ignoreCase)
  | .alt left right, spot =>
    left.ends isBoundary ignoreCase spot ++ right.ends isBoundary ignoreCase spot
  | .repeated body least most, spot =>
    upTo (body.ends isBoundary ignoreCase) ((most.map (· - least)).getD spot.rest.length)
      (times (body.ends isBoundary ignoreCase) least [spot])

def spotsFrom (before : Option Char) : List Char → List Spot
  | [] => [⟨before, []⟩]
  | c :: rest => ⟨before, c :: rest⟩ :: spotsFrom (some c) rest

structure Pattern where
  ignoreCase : Bool
  regex : Regex

/-- Some part of the text matches. -/
def Pattern.isMatch (isBoundary : Boundary) (pattern : Pattern) (text : String) : Bool :=
  (spotsFrom none text.toList).any fun spot =>
    !(pattern.regex.ends isBoundary pattern.ignoreCase spot).isEmpty

example : (Pattern.mk true (.seq .boundary (.text "key"))).isMatch
    (wordBoundary Char.isAlphanum) "a KEY" = true := by decide

example : (Pattern.mk true (.seq .boundary (.text "key"))).isMatch
    (wordBoundary Char.isAlphanum) "monkey" = false := by decide

/-! ## More boundaries, more matches -/

theorem times_subset {step more : Spot → List Spot} (within : ∀ spot, step spot ⊆ more spot)
    (n : Nat) : ∀ {spots others : List Spot}, spots ⊆ others →
      times step n spots ⊆ times more n others := by
  induction n with
  | zero => exact fun inside => inside
  | succ n ih =>
    intro spots others inside
    refine ih fun spot mem => ?_
    obtain ⟨from_, here, reached⟩ := mem_flatMap.1 mem
    exact mem_flatMap.2 ⟨from_, inside here, within from_ reached⟩

theorem upTo_subset {step more : Spot → List Spot} (within : ∀ spot, step spot ⊆ more spot)
    (n : Nat) : ∀ {spots others : List Spot}, spots ⊆ others →
      upTo step n spots ⊆ upTo more n others := by
  induction n with
  | zero => exact fun inside => inside
  | succ n ih =>
    intro spots others inside
    refine append_subset.2 ⟨fun spot mem => mem_append_left _ (inside mem),
      fun spot mem => mem_append_right _ (ih (fun later there => ?_) mem)⟩
    obtain ⟨from_, here, reached⟩ := mem_flatMap.1 there
    exact mem_flatMap.2 ⟨from_, inside here, within from_ reached⟩

theorem Regex.ends_subset {isBoundary wider : Boundary}
    (weaker : ∀ left right, isBoundary left right = true → wider left right = true)
    (ignoreCase : Bool) (regex : Regex) :
    ∀ spot, regex.ends isBoundary ignoreCase spot ⊆ regex.ends wider ignoreCase spot := by
  induction regex with
  | empty | char cls | start | finish => exact fun _ => List.Subset.refl _
  | boundary =>
    intro spot
    unfold Regex.ends
    split
    · rename_i here
      rw [if_pos (weaker _ _ here)]
      exact List.Subset.refl _
    · exact nil_subset _
  | seq first second ihFirst ihSecond =>
    intro spot later mem
    obtain ⟨middle, reached, ends⟩ := mem_flatMap.1 mem
    exact mem_flatMap.2 ⟨middle, ihFirst spot reached, ihSecond middle ends⟩
  | alt left right ihLeft ihRight =>
    intro spot later mem
    exact (mem_append.1 mem).elim
      (fun here => mem_append_left _ (ihLeft spot here))
      fun here => mem_append_right _ (ihRight spot here)
  | repeated body least most ih =>
    intro spot
    exact upTo_subset ih _ (times_subset ih _ (List.Subset.refl _))

/-- **Taking more places for boundaries only adds matches.** -/
theorem Pattern.isMatch_mono {isBoundary wider : Boundary}
    (weaker : ∀ left right, isBoundary left right = true → wider left right = true)
    (pattern : Pattern) {text : String} (matches_ : pattern.isMatch isBoundary text = true) :
    pattern.isMatch wider text = true := by
  obtain ⟨spot, mem, found⟩ := any_eq_true.1 matches_
  refine any_eq_true.2 ⟨spot, mem, ?_⟩
  obtain ⟨stop, reached⟩ := exists_mem_of_ne_nil
    (pattern.regex.ends isBoundary pattern.ignoreCase spot) (by simpa using found)
  have there := pattern.regex.ends_subset weaker pattern.ignoreCase spot reached
  simpa using ne_nil_of_mem there

end WistAgentd.Theory.Matching
