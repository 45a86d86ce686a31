import PackageIndex.Php.Phrase
import PackageIndex.Php.Token
import Std.Data.HashSet

/-!
# Grammar rules

A rule says of which terminals and phrases a phrase may consist. Rules are laid out as a network
of states, so that how far a phrase has been read is a number. No phrase but the whole program
may be empty.
-/
namespace PackageIndex.Php

inductive Rule where
  /-- Any one of some terminals. -/
  | oneOf (terminals : List Terminal)
  | phrase (awaited : Phrase)
  | both (first second : Rule)
  | either (first second : Rule)
  | maybe (rule : Rule)
  /-- Any number of times. -/
  | many (rule : Rule)

namespace Rule

instance : Append Rule := ⟨both⟩
instance : OrOp Rule := ⟨either⟩
instance : Coe Phrase Rule := ⟨phrase⟩

def atLeastOne (rule : Rule) : Rule := rule ++ many rule

/-- One or more, with something between them. -/
def separated (separator rule : Rule) : Rule := rule ++ many (separator ++ rule)

def firstOf (first : Rule) (others : List Rule) : Rule := others.foldl either first

end Rule

/-- A place within a rule. -/
inductive State where
  | terminals (expected : List Terminal) (next : Nat)
  | phrase (expected : Phrase) (next : Nat)
  | fork (branches : List Nat)
  | finished (phrase : Phrase)

/-- Lays out a rule in front of the state `next`; gives the state it begins with. -/
def Rule.layOut : Rule → (next : Nat) → Array State → Nat × Array State
  | .oneOf terminals, next, states => (states.size, states.push (.terminals terminals next))
  | .phrase awaited, next, states => (states.size, states.push (.phrase awaited next))
  | .both first second, next, states =>
    let (middle, states) := second.layOut next states
    first.layOut middle states
  | .either first second, next, states =>
    let (a, states) := first.layOut next states
    let (b, states) := second.layOut next states
    (states.size, states.push (.fork [a, b]))
  | .maybe rule, next, states =>
    let (start, states) := rule.layOut next states
    (states.size, states.push (.fork [start, next]))
  | .many rule, next, states =>
    let loop := states.size
    let (start, states) := rule.layOut loop (states.push (.fork []))
    (loop, states.set! loop (.fork [start, next]))

/-- The states of all rules. -/
structure Network where
  states : Array State
  /-- By the number of a phrase: the states other than forks that it may begin in. -/
  openings : Array (List Nat)
  /-- By the number of a phrase: the terminals that it may begin with. -/
  initials : Array (Std.HashSet Terminal)
  /-- The signs among the terminals. -/
  signs : List (List Char × Terminal)

namespace Network

def state? (network : Network) (number : Nat) : Option State := network.states[number]?

def opening (network : Network) (phrase : Phrase) : List Nat :=
  network.openings[phrase.number]?.getD []

def canBegin (network : Network) (phrase : Phrase) (terminal : Terminal) : Bool :=
  match network.initials[phrase.number]? with
  | some initials => initials.contains terminal
  | none => false

/-- The states other than forks that can be reached through forks alone. -/
def throughForks (states : Array State) :
    (bound : Nat) → (agenda seen : List Nat) → List Nat
  | 0, _, _ => []
  | _, [], _ => []
  | bound + 1, number :: agenda, seen =>
    if number ∈ seen then throughForks states bound agenda seen
    else match states[number]? with
      | some (.fork branches) =>
        throughForks states bound (branches ++ agenda) (number :: seen)
      | some _ => number :: throughForks states bound agenda (number :: seen)
      | none => throughForks states bound agenda seen

/-- What the given phrases may begin with, and every phrase that one of them may begin with. -/
def initialsOf (states : Array State) (openings : Array (List Nat)) :
    (bound : Nat) → (agenda seen : List Phrase) → Std.HashSet Terminal → Std.HashSet Terminal
  | 0, _, _, found => found
  | _, [], _, found => found
  | bound + 1, phrase :: agenda, seen, found =>
    if phrase ∈ seen then initialsOf states openings bound agenda seen found
    else
      let opening := (openings[phrase.number]?.getD []).filterMap (states[·]?)
      let found := opening.foldl (fun found state =>
        match state with
        | .terminals expected _ => found.insertMany expected
        | _ => found) found
      let phrases := opening.filterMap fun state =>
        match state with
        | .phrase expected _ => some expected
        | _ => none
      initialsOf states openings bound (phrases ++ agenda) (phrase :: seen) found

def signsOf (states : Array State) : List (List Char × Terminal) :=
  let signs : Std.HashSet String := states.foldl (fun found state =>
    match state with
    | .terminals expected _ => expected.foldl (fun found terminal =>
        match terminal with
        | .sign text => found.insert text
        | _ => found) found
    | _ => found) ∅
  signs.toList.map fun text => (text.toList, Terminal.sign text)

/-- The network of a grammar. -/
def ofRules (rules : List (Phrase × Rule)) : Network :=
  let empty : Array Nat × Array State := (Array.replicate rules.length 0, #[])
  let (starts, states) := rules.foldl (fun (starts, states) (phrase, rule) =>
    let finished := states.size
    let (start, states) := rule.layOut finished (states.push (.finished phrase))
    (starts.set! phrase.number start, states)) empty
  let openings := starts.map fun start => throughForks states (2 * states.size) [start] []
  let initials := (Array.replicate rules.length ∅ : Array (Std.HashSet Terminal))
  let bound := states.size * 2
  let initials := rules.foldl (fun initials (phrase, _) =>
    initials.set! phrase.number (initialsOf states openings bound [phrase] [] ∅)) initials
  ⟨states, openings, initials, signsOf states⟩

end Network

end PackageIndex.Php
