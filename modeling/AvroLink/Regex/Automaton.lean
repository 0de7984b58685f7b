import AvroLink.Regex.Basic

/-!
# Matching

An expression becomes an automaton whose nodes read a character, test an anchor or fork. A text is
read once, with all nodes at the same time that a match could be at, so the time is bounded by the
length of the text times the size of the automaton.
-/

namespace AvroLink.Regex

open Unicode

inductive Node where
  | accept
  | char (c : Char) (next : Nat)
  | set (s : CodeSet) (next : Nat)
  | anchor (a : Anchor) (next : Nat)
  | fork (nexts : List Nat)
  deriving Inhabited

namespace Node

/-- Where a node leads to when it reads `c`. -/
def read? (c : Char) : Node → Option Nat
  | char d next => if c = d then some next else none
  | set s next => if s.mem c then some next else none
  | _ => none

/-- How many nodes a node leads to. -/
def degree : Node → Nat
  | fork nexts => nexts.length
  | _ => 1

end Node

/-! ## Building -/

/-- Add a node; the answer is its index. -/
def addNode (node : Node) (nodes : Array Node) : Nat × Array Node :=
  (nodes.size, nodes.push node)

/-- Do a step `n` times. -/
def iterate (step : Nat × Array Node → Nat × Array Node) :
    Nat → Nat × Array Node → Nat × Array Node
  | 0, s => s
  | n + 1, s => iterate step n (step s)

mutual

/-- Add the nodes of an expression that goes on at the node `next`; the answer is where it
starts. -/
def build : Regex → Nat × Array Node → Nat × Array Node
  | .empty, s => s
  | .text cs, s => cs.reverse.foldl (fun (next, nodes) c => addNode (.char c next) nodes) s
  | .set members, (next, nodes) => addNode (.set members next) nodes
  | .anchor a, (next, nodes) => addNode (.anchor a next) nodes
  | .group _ r, s => build r s
  | .seq rs, s => buildSeq rs s
  | .alt rs, (next, nodes) =>
    let (starts, nodes) := buildAlt rs next nodes
    addNode (.fork starts) nodes
  | .times r min max, (next, nodes) =>
    let more : Nat × Array Node :=
      match max with
      | some max =>
        iterate (fun (start, nodes) =>
          let (body, nodes) := build r (start, nodes)
          addNode (.fork [body, next]) nodes) (max - min) (next, nodes)
      | none =>
        let (loop, nodes) := addNode (.fork []) nodes
        let (body, nodes) := build r (loop, nodes)
        (loop, nodes.setIfInBounds loop (.fork [body, next]))
    iterate (build r) min more

def buildSeq : List Regex → Nat × Array Node → Nat × Array Node
  | [], s => s
  | r :: rs, s => build r (buildSeq rs s)

def buildAlt : List Regex → Nat → Array Node → List Nat × Array Node
  | [], _, nodes => ([], nodes)
  | r :: rs, next, nodes =>
    let (start, nodes) := build r (next, nodes)
    let (starts, nodes) := buildAlt rs next nodes
    (start :: starts, nodes)

end

structure Automaton where
  nodes : Array Node
  start : Nat

def automaton (r : Regex) : Automaton :=
  let (start, nodes) := build r (addNode .accept #[])
  ⟨nodes, start⟩

/-! ## Running -/

namespace Automaton

/-- A bound for the nodes that are looked at in one place. -/
def work (a : Automaton) : Nat := a.nodes.foldl (fun n node => n + node.degree) 1

/-- What is reached in one place of a text. -/
structure Reached where
  /-- The last place in which each node was reached. -/
  seen : Array Nat
  /-- Nodes that read a character. -/
  readers : List Node
  accepted : Bool

/-- Follow the nodes of `stack` as far as no character is read. -/
def follow (a : Automaton) (place : Nat) (before after : Option Char) :
    Nat → List Nat → Reached → Reached
  | 0, _, r => r
  | _, [], r => r
  | fuel + 1, i :: stack, ⟨seen, readers, accepted⟩ =>
    if seen[i]? = some place then follow a place before after fuel stack ⟨seen, readers, accepted⟩
    else
      let seen := seen.setIfInBounds i place
      match a.nodes[i]? with
      | none => follow a place before after fuel stack ⟨seen, readers, accepted⟩
      | some .accept => ⟨seen, readers, true⟩
      | some (.anchor condition next) =>
        let stack := if condition.holds before after then next :: stack else stack
        follow a place before after fuel stack ⟨seen, readers, accepted⟩
      | some (.fork nexts) =>
        follow a place before after fuel (nexts ++ stack) ⟨seen, readers, accepted⟩
      | some node => follow a place before after fuel stack ⟨seen, node :: readers, accepted⟩

/-- Whether a match ends at or after a place; one may start at every place. -/
def run (a : Automaton) (work place : Nat) (seen : Array Nat) (before : Option Char)
    (entered : List Nat) (cs : List Char) : Bool :=
  let stack := a.start :: entered
  let r := a.follow place before cs.head? (work + stack.length) stack ⟨seen, [], false⟩
  r.accepted ||
    match cs with
    | [] => false
    | c :: cs => run a work (place + 1) r.seen (some c) (r.readers.filterMap (Node.read? c)) cs

/-- Whether some part of a text matches. -/
def accepts (a : Automaton) (s : String) : Bool :=
  a.run a.work 1 (Array.replicate a.nodes.size 0) none [] s.toList

end Automaton

/-- Whether some part of a text matches. -/
def isMatch (r : Regex) (s : String) : Bool := r.automaton.accepts s

end AvroLink.Regex
