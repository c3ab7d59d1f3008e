import PageCheck.Pattern.Outline
import Std.Data.HashMap

/-!
# The size of patterns

A pattern may not grow too large when its repetitions are written out and its characters are spelled
in bytes. Two machines are made from its outline, one that reads the bytes of a text forwards and
one that reads them backwards, and their states are counted: so many bytes for a state, for a way
out of a branching state and for a range of bytes in a state that reads one of several. Neither
machine may take more than `sizeLimit`.

States of a machine are numbered in the order in which they are made. Those that spell the
characters of a set are shared: a state that would say the same as an earlier one is not made again,
as long as the earlier one is remembered. What is remembered has a place that is computed from the
numbers of the states it leads to, so that the numbers decide what is forgotten.
-/

namespace PageCheck.Pattern

/-- The bytes of a state. -/
def stateBytes : Nat := 32

/-- The bytes of a way out of a branching state. -/
def branchBytes : Nat := 4

/-- The bytes of a range in a state that reads one of several ranges of bytes. -/
def rangeBytes : Nat := 8

/-- The greatest size of a machine. -/
def sizeLimit : Nat := 10 * Nat.pow 2 20

/-- How far a machine has been made. -/
structure Machine where
  /-- The number of its states. -/
  states : Nat
  /-- The bytes that its states take beyond those of every state. -/
  extra : Nat
deriving Repr, DecidableEq

namespace Machine

/-- A machine without states. -/
def start : Machine := ⟨0, 0⟩

/-- The size of a machine. -/
def size (machine : Machine) : Nat := machine.states * stateBytes + machine.extra

/-- A machine that has grown, unless it has grown too large. -/
def grow (states extra : Nat) (machine : Machine) : Option Machine :=
  let machine : Machine := ⟨machine.states + states, machine.extra + extra⟩
  if sizeLimit < machine.size then none else some machine

end Machine

/-! ### States that are shared -/

/-- What is remembered of states: what each one says, and its number. -/
structure Memory where
  /-- The number of places. -/
  capacity : Nat
  /-- The places that are taken. -/
  places : Std.HashMap Nat (List Nat × Nat)

/-- Mix one more number into a hash. -/
def mixHash (hash : UInt64) (n : Nat) : UInt64 :=
  UInt64.mul (UInt64.xor hash (UInt64.ofNat n)) 1099511628211

/-- The place of what a state says. -/
def Memory.place (memory : Memory) (content : List Nat) : Nat :=
  (content.foldl mixHash 14695981039346656037).toNat % memory.capacity

/-- A machine in which states are shared. -/
structure Weaving where
  /-- The machine. -/
  machine : Machine
  /-- The states that are remembered. -/
  memory : Memory

namespace Weaving

/-- The number of the state that says something, made if it is not remembered; it takes some bytes
beyond those of every state. -/
def state (content : List Nat) (extra : Nat) (weaving : Weaving) : Nat × Weaving :=
  let place := weaving.memory.place content
  let known := match weaving.memory.places[place]? with
    | some (other, number) => if other == content then some number else none
    | none => none
  match known with
  | some number => (number, weaving)
  | none =>
    let ⟨states, bytes⟩ := weaving.machine
    (states, ⟨⟨states + 1, bytes + extra⟩,
      ⟨weaving.memory.capacity, weaving.memory.places.insert place (content, states)⟩⟩)

/-- Spellings by their first ranges of bytes, those of one range together. -/
def byFirst : List ByteRanges → List ((Nat × Nat) × List ByteRanges)
  | [] => []
  | [] :: rest => byFirst rest
  | (first :: others) :: rest =>
    match byFirst rest with
    | (range, tails) :: runs =>
      if range = first then (range, others :: tails) :: runs
      else (first, [others]) :: (range, tails) :: runs
    | [] => [(first, [others])]

/-- The state that reads spellings forwards and then goes on to the state `target`. States are made
after those that they lead to. -/
def forwards (target : Nat) : Nat → List ByteRanges → Weaving → Nat × Weaving
  | 0, _, weaving => (target, weaving)
  | length + 1, spellings, weaving =>
    let runs := byFirst spellings
    if runs.isEmpty then (target, weaving)
    else
      let (content, weaving) := runs.foldl
        (fun (content, weaving) ((low, high), tails) =>
          let (next, weaving) := forwards target length tails weaving
          (content ++ [low, high, next], weaving)) ([], weaving)
      weaving.state content (runs.length * rangeBytes)

/-- Read one spelling backwards and then go on to the state `target`. -/
def backwards (target : Nat) (spelling : ByteRanges) (weaving : Weaving) : Weaving :=
  (spelling.foldl (fun (next, weaving) (low, high) => weaving.state [next, low, high] 0)
    (target, weaving)).2

end Weaving

/-- A machine with the states that read one of some spellings forwards. -/
def readForwards (spellings : List ByteRanges) (machine : Machine) : Machine :=
  let weaving : Weaving := ⟨⟨machine.states + 1, machine.extra⟩, ⟨10000, ∅⟩⟩
  (weaving.forwards machine.states 4 spellings).2.machine

/-- A machine with the states that read one of some spellings backwards. -/
def readBackwards (spellings : List ByteRanges) (machine : Machine) : Machine :=
  let weaving : Weaving := ⟨⟨machine.states + 2, machine.extra + spellings.length * branchBytes⟩,
    ⟨1000, ∅⟩⟩
  (spellings.foldl (fun weaving spelling => weaving.backwards (machine.states + 1) spelling)
    weaving).machine

/-! ### Choices between texts -/

/-- Texts that are left to read, in runs that are separated by the ends of texts. What comes after
the end of a text is of lower rank than it, so that runs are not mixed. -/
def runsOfTexts : List (List Nat) → List (List (List Nat))
  | [] => [[]]
  | [] :: rest => [] :: runsOfTexts rest
  | text :: rest =>
    match runsOfTexts rest with
    | run :: runs => (text :: run) :: runs
    | [] => [[text]]

/-- Texts that are left to read; several ends of texts before all others count as one. -/
def withoutRepeatedEnds : List (List Nat) → List (List Nat)
  | [] :: rest => [] :: rest.dropWhile List.isEmpty
  | texts => texts

/-- What the states that read one of some texts, of at most some length, add to a machine: their
number and their extra bytes. Texts that begin alike share states. -/
def textsSize : Nat → List (List Nat) → Nat × Nat
  | 0, _ => (0, 0)
  | length + 1, texts =>
    if texts.all List.isEmpty then (0, 0)
    else
      let runs := runsOfTexts (withoutRepeatedEnds texts)
      let readers := runs.filter fun run => !run.isEmpty
      readers.foldl
        (fun (states, extra) run =>
          let bytes := (run.filterMap List.head?).eraseDups
          let ranges := if bytes.length = 1 then 0 else bytes.length * rangeBytes
          bytes.foldl
            (fun (states, extra) byte =>
              let (more, moreExtra) := textsSize length
                (run.filterMap fun text => if text.head? = some byte then some text.tail else none)
              (states + more, extra + moreExtra))
            (states + 1, extra + ranges))
        (1, (runs.length - 1 + readers.length) * branchBytes)

/-! ### Fragments -/

/-- A part of a machine. -/
structure Fragment where
  /-- The machine that the part is added to, with it. -/
  draw : Machine → Option Machine
  /-- Whether its last state branches, so that leading on from it takes a further way out. -/
  isOpen : Bool

namespace Fragment

/-- Some states with extra bytes, the last of which does not branch. -/
def block (states extra : Nat) : Fragment := ⟨Machine.grow states extra, false⟩

/-- The bytes of leading on from a fragment. -/
def linkBytes (fragment : Fragment) : Nat := if fragment.isOpen then branchBytes else 0

/-- A fragment from which a way leads on. -/
def drawLinked (fragment : Fragment) (machine : Machine) : Option Machine :=
  (fragment.draw machine).bind (Machine.grow 0 fragment.linkBytes)

/-- One fragment after another. -/
def followedBy (first second : Fragment) : Fragment :=
  ⟨fun machine => (first.drawLinked machine).bind second.draw, second.isOpen⟩

/-- A state that does nothing. -/
def nothing : Fragment := block 1 0

/-- Fragments one after the other. -/
def inOrder : List Fragment → Fragment
  | [] => nothing
  | [fragment] => fragment
  | fragment :: rest => fragment.followedBy (inOrder rest)

/-- Draw something again and again. -/
def drawTimes (draw : Machine → Option Machine) : Nat → Machine → Option Machine
  | 0, machine => some machine
  | count + 1, machine =>
    match draw machine with
    | some machine => drawTimes draw count machine
    | none => none

/-- Draw fragments from which ways lead on, and a way to each of them. -/
def drawChoices : List Fragment → Machine → Option Machine
  | [], machine => some machine
  | fragment :: rest, machine => do
    let machine ← fragment.drawLinked machine
    drawChoices rest (← machine.grow 0 branchBytes)

/-- One of several fragments. The states at the fork and at the end are made after the first two of
them. -/
def oneOf (fragments : List Fragment) : Fragment where
  draw machine := do
    let machine ← drawChoices (fragments.take 2) machine
    drawChoices (fragments.drop 2) (← machine.grow 2 0)
  isOpen := false

/-- A fragment between the states that capture where it starts and where it ends. -/
def captured (fragment : Fragment) : Fragment where
  draw machine := do (← fragment.drawLinked (← machine.grow 1 0)).grow 1 0
  isOpen := false

/-- A fragment that can be left out. -/
def optional (fragment : Fragment) : Fragment where
  draw machine := do
    (← fragment.drawLinked (← machine.grow 1 (2 * branchBytes))).grow 1 0
  isOpen := false

/-- A fragment at least once. -/
def plus (fragment : Fragment) : Fragment where
  draw machine := do (← fragment.drawLinked machine).grow 1 branchBytes
  isOpen := true

/-- A fragment any number of times. One that can read the empty text is first repeated and then left
out. -/
def star (readsEmpty : Bool) (fragment : Fragment) : Fragment where
  draw machine :=
    if readsEmpty then do (← fragment.drawLinked machine).grow 3 (4 * branchBytes)
    else do fragment.drawLinked (← machine.grow 1 branchBytes)
  isOpen := !readsEmpty

/-- A fragment exactly some number of times. -/
def exactly (fragment : Fragment) : Nat → Fragment
  | 0 => nothing
  | count + 1 =>
    ⟨fun machine => (drawTimes fragment.drawLinked count machine).bind fragment.draw,
      fragment.isOpen⟩

/-- A fragment exactly some number of times, and then up to some number of times more, each of which
can be the first that is left out. -/
def between (fragment : Fragment) (least more : Nat) : Fragment where
  draw machine := do
    let machine ← (← (fragment.exactly least).drawLinked machine).grow 1 0
    drawTimes (fun machine => do fragment.drawLinked (← machine.grow 1 (2 * branchBytes)))
      more machine
  isOpen := false

/-- A fragment some number of times. -/
def times (readsEmpty : Bool) (fragment : Fragment) (least : Nat) (most : Option Nat) : Fragment :=
  match least, most with
  | 0, none => fragment.star readsEmpty
  | 1, none => fragment.plus
  | least, none => (fragment.exactly (least - 1)).followedBy fragment.plus
  | 0, some 1 => fragment.optional
  | least, some most =>
    if least = most then fragment.exactly least else fragment.between least (most - least)

/-- One character of a set. -/
def ofSet (backward : Bool) (set : CharSet) : Fragment :=
  if set.isAscii then block 2 (set.ranges.length * rangeBytes)
  else
    let spellings := set.spellings
    let read := if backward then readBackwards else readForwards
    ⟨fun machine => (read spellings machine).grow 0 0, false⟩

/-- One of some texts. -/
def ofTexts (texts : List (List Nat)) : Fragment :=
  let (states, extra) := textsSize (texts.foldl (fun most text => max most text.length) 0) texts
  block (states + 1) extra

end Fragment

/-! ### Machines of outlines -/

/-- The bytes of an outline that is a text. -/
def Outline.text? : Outline → Option (List Nat)
  | .text chars => some (chars.flatMap spelling)
  | _ => none

mutual

/-- The part of a machine, reading forwards or backwards, that an outline makes. A machine that
reads backwards captures nothing. -/
def fragment (backward : Bool) : Outline → Fragment
  | .empty => Fragment.nothing
  | .text chars => Fragment.block (chars.flatMap spelling).length 0
  | .set set => Fragment.ofSet backward set
  | .look _ => Fragment.block 1 0
  | .group part => if backward then fragment backward part else (fragment backward part).captured
  | .sequence parts =>
    let parts := fragments backward parts
    Fragment.inOrder (if backward then parts.reverse else parts)
  | .choice parts =>
    match parts.mapM Outline.text? with
    | some texts => Fragment.ofTexts (if backward then texts.map List.reverse else texts)
    | none => Fragment.oneOf (fragments backward parts)
  | .repeated part least most =>
    Fragment.times ((part.leastLength?.getD 0) == 0) (fragment backward part) least most

/-- The parts of a machine that some outlines make. -/
def fragments (backward : Bool) : List Outline → List Fragment
  | [] => []
  | part :: rest => fragment backward part :: fragments backward rest

end

/-- The machine of an outline, unless it grows too large. It begins with a loop over any bytes if
the text can match anywhere in what is read, and ends with a state that says so. -/
def machine? (backward : Bool) (outline : Outline) : Option Machine := do
  let fixed := if backward then outline.endsText else outline.beginsText
  let part := fragment backward outline
  let whole := if backward then part else part.captured
  let start ← if fixed then Machine.start.grow 1 0
    else Machine.start.grow 3 (rangeBytes + 2 * branchBytes)
  (← whole.drawLinked start).grow 1 0

/-- Whether a pattern grows too large. -/
def isTooLarge (pattern : Pattern) : Bool :=
  let outline := outline pattern
  (machine? false outline).isNone || (machine? true outline).isNone

end PageCheck.Pattern
