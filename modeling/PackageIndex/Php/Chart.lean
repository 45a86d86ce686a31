import PackageIndex.Php.Lexer
import PackageIndex.Php.Rule

/-!
# Reading a program by its grammar

All ways to read a program are followed at once. After each token a column tells which phrases
have been read up to what point, and so what may come next; the token after it is read as one of
those. A phrase that can be read in several ways is kept as it was read first.
-/
namespace PackageIndex.Php

/-- A marked part: the tokens from `first` up to, but not including, `last`. -/
inductive Tree (Mark : Type) where
  | node (mark : Mark) (first last : Nat) (children : List (Tree Mark))

/-- A phrase that has been read up to a state since the token `origin`. -/
structure Item where
  state : Nat
  origin : Nat
  /-- The marked parts so far, the latest first. -/
  found : List (Tree Mark)

namespace Item

def isSame (a b : Item) : Bool := a.state = b.state && a.origin = b.origin

/-- The item behind a phrase that ended with the token before `here`. -/
def behind (item : Item) (phrase : Phrase) (here : Nat) (part : Item) : Item :=
  match phrase.mark? with
  | some mark => { item with
      found := .node mark part.origin here part.found.reverse :: item.found }
  | none => { item with found := part.found ++ item.found }

end Item

/-- The items that wait for a phrase that begins in a place, each as it stands behind it. -/
abbrev Column := List (Phrase × Item)

namespace Chart

variable (network : Network)

/-- Adds to some items all that follow from them without another token. -/
def settle (columns : Array Column) (here : Nat) :
    (bound : Nat) → (agenda settled : List Item) → List Item
  | 0, _, settled => settled
  | _, [], settled => settled
  | bound + 1, item :: agenda, settled =>
    if settled.any item.isSame then settle columns here bound agenda settled
    else
      let next : List Item :=
        match network.state? item.state with
        | some (.fork branches) => branches.map fun state => { item with state }
        | some (.finished phrase) =>
          (columns[item.origin]?.getD []).filterMap fun (awaited, waiting) =>
            if awaited = phrase then some (waiting.behind phrase here item) else none
        | _ => []
      settle columns here bound (next ++ agenda) (item :: settled)

/-- Whether a terminal may come next. -/
def allows (items : List Item) (terminal : Terminal) : Bool :=
  items.any fun item =>
    match network.state? item.state with
    | some (.terminals expected _) => expected.contains terminal
    | some (.phrase phrase _) => network.canBegin phrase terminal
    | _ => false

/-- What a terminal makes of some items: those that wait for a phrase it may begin, and those
that stand behind it. -/
structure Step where
  waiting : Column
  moved : List Item
  /-- The phrases that may begin here. -/
  begun : List Phrase

def Step.add (terminal : Terminal) (step : Step) (item : Item) : Step :=
  match network.state? item.state with
  | some (.terminals expected next) =>
    if expected.contains terminal then
      { step with moved := { item with state := next } :: step.moved }
    else step
  | some (.phrase phrase next) =>
    if network.canBegin phrase terminal then
      { step with
        waiting := (phrase, { item with state := next }) :: step.waiting
        begun := phrase :: step.begun }
    else step
  | _ => step

/-- Adds what begins here, phrase by phrase. -/
def begin (terminal : Terminal) (here : Nat) :
    (bound : Nat) → (seen : List Phrase) → Step → Step
  | 0, _, step => step
  | bound + 1, seen, step =>
    match step.begun with
    | [] => step
    | phrase :: begun =>
      if phrase ∈ seen then begin terminal here bound seen { step with begun }
      else
        let items : List Item := (network.opening phrase).map fun state => ⟨state, here, []⟩
        begin terminal here bound (phrase :: seen)
          (items.foldl (Step.add network terminal) { step with begun })

/-- How many steps there may be at most in one place. -/
def bound (here : Nat) : Nat := 8 * network.states.size * (here + 2)

structure Outcome where
  tokens : Array Token
  trees : List (Tree Mark)

/-- Reads on with the items of the place where reading stands. -/
def follow : (fuel : Nat) → Reader → Array Token → Array Column → List Item →
    Except Position Outcome
  | 0, reader, _, _, _ => .error reader.position
  | fuel + 1, reader, tokens, columns, items =>
    match reader.next ⟨allows network items, network.signs⟩ with
    | .unknown position => .error position
    | .finished =>
      let whole? := items.find? fun item =>
        match network.state? item.state with
        | some (.finished .program) => item.origin = 0
        | _ => false
      match whole? with
      | some item => .ok ⟨tokens, item.found.reverse⟩
      | none => .error reader.position
    | .token token reader =>
      let here := tokens.size
      let step := items.foldl (Step.add network token.terminal) ⟨[], [], []⟩
      let step := begin network token.terminal here (bound network here) [] step
      let columns := columns.push step.waiting
      let items := settle network columns (here + 1) (bound network here) step.moved []
      follow fuel reader (tokens.push token) columns items

/-- Reads a program from its first opening tag on. -/
def read (reader : Reader) : Except Position Outcome :=
  let start : List Item := (network.opening .program).map fun state => ⟨state, 0, []⟩
  follow network (2 * reader.bound + 2) reader #[] #[] start

end Chart

end PackageIndex.Php
