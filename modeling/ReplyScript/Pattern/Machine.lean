import ReplyScript.Pattern.Node

/-! # Matching

A pattern becomes a program whose threads run over the text side by side, in order of preference. A
thread that reaches an instruction where a more preferred one already is drops out, so the work per
character is bounded by the program. The match at a place is that of the most preferred thread that
ends.
-/

namespace ReplyScript.Pattern

open Text (CharSet)

/-- An instruction; numbers are places in the program. -/
inductive Step where
  | set (s : CharSet) (next : Nat)
  | assertion (a : Assertion) (isWord : CharSet) (next : Nat)
  | fork (preferred other : Nat)
  | mark (slot : Nat) (next : Nat)
  | accept

instance : Inhabited Step := ⟨.accept⟩

/-- A program under construction. It is written from its end to its start. -/
abbrev Program := Array Step

/-- Add an instruction; its place is returned. -/
def Program.add (p : Program) (s : Step) : Program × Nat :=
  (p.push s, p.size)

/-- A fork that prefers to go on or to leave. -/
def forkStep (greedy : Bool) (on off : Nat) : Step :=
  if greedy then .fork on off else .fork off on

/-- Repeat a piece of program at most `count` times before `next`; `rest` is where the program goes
on behind the pieces still to come. -/
def atMost (piece : Nat → Program → Program × Nat) (greedy : Bool) (next : Nat) :
    (count rest : Nat) → Program → Program × Nat
  | 0, rest, p => (p, rest)
  | count + 1, rest, p =>
      let (p, body) := piece rest p
      let (p, fork) := p.add (forkStep greedy body next)
      atMost piece greedy next count fork p

/-- Repeat a piece of program exactly `count` times before `next`. -/
def exactly (piece : Nat → Program → Program × Nat) : (count next : Nat) → Program → Program × Nat
  | 0, next, p => (p, next)
  | count + 1, next, p =>
      let (p, start) := piece next p
      exactly piece count start p

def onceOrMore (piece : Nat → Program → Program × Nat) (greedy : Bool) (next : Nat) (p : Program) :
    Program × Nat :=
  let (p, loop) := p.add .accept
  let (p, body) := piece loop p
  (p.setIfInBounds loop (forkStep greedy body next), body)

/-- Repeat a piece of program any number of times before `next`. A piece that may take no character
is tried once before it may repeat. -/
def anyNumber (piece : Nat → Program → Program × Nat) (nullable greedy : Bool) (next : Nat)
    (p : Program) : Program × Nat :=
  if nullable then
    let (p, body) := onceOrMore piece greedy next p
    p.add (forkStep greedy body next)
  else
    let (p, loop) := p.add .accept
    let (p, body) := piece loop p
    (p.setIfInBounds loop (forkStep greedy body next), loop)

/-- The program of a node that goes on at `next`; the place where it starts is returned. -/
def Node.compile : Node → Nat → Program → Program × Nat
  | .empty, next, p => (p, next)
  | .set s, next, p => p.add (.set s next)
  | .assertion a isWord, next, p => p.add (.assertion a isWord next)
  | .capture index body, next, p =>
      let (p, stop) := p.add (.mark (2 * index + 1) next)
      let (p, start) := body.compile stop p
      p.add (.mark (2 * index) start)
  | .sequence a b, next, p =>
      let (p, second) := b.compile next p
      a.compile second p
  | .either a b, next, p =>
      let (p, second) := b.compile next p
      let (p, first) := a.compile next p
      p.add (.fork first second)
  | .repetition body least most greedy, next, p =>
      match most with
      | some most =>
          let (p, rest) := atMost body.compile greedy next (most - least) next p
          exactly body.compile least rest p
      | none =>
          match least with
          | 0 => anyNumber body.compile body.nullable greedy next p
          | least + 1 =>
              let (p, rest) := onceOrMore body.compile greedy next p
              exactly body.compile least rest p

/-- A compiled pattern: its program, where it starts, and the names of its captures. -/
structure Machine where
  program : Program
  start : Nat
  names : List (String × Nat)
  /-- Of the matches at a place the longest one counts, whatever is preferred. -/
  longest : Bool := false

def Machine.ofNode (node : Node) (names : List (String × Nat)) : Machine :=
  let (program, start) := node.compile 0 #[.accept]
  { program, start, names }

/-- The marks a thread has set, latest first: slot and place. -/
abbrev Marks := List (Nat × Nat)

/-- A thread: where it is in the program, and its marks. -/
structure Thread where
  place : Nat
  marks : Marks
  deriving Inhabited

/-- Follow threads up to instructions that take a character or accept. Those that got there are
held latest first. `visited` holds the places already reached at this point of the text. The fuel
bounds the number of instructions followed. -/
def settle (m : Machine) (position : Nat) (before after : Option Char) :
    (fuel : Nat) → List Thread → (settled : List Thread) → Array Bool → List Thread
  | 0, _, settled, _ => settled.reverse
  | _ + 1, [], settled, _ => settled.reverse
  | fuel + 1, t :: ts, settled, visited =>
      if (visited[t.place]?).getD true then settle m position before after fuel ts settled visited
      else
        let visited := visited.setIfInBounds t.place true
        match m.program[t.place]? with
        | some (.assertion a isWord next) =>
            let ts := if a.holds isWord before after then ⟨next, t.marks⟩ :: ts else ts
            settle m position before after fuel ts settled visited
        | some (.fork preferred other) =>
            settle m position before after fuel (⟨preferred, t.marks⟩ :: ⟨other, t.marks⟩ :: ts)
              settled visited
        | some (.mark slot next) =>
            settle m position before after fuel (⟨next, (slot, position) :: t.marks⟩ :: ts) settled
              visited
        | some _ => settle m position before after fuel ts (t :: settled) visited
        | none => settle m position before after fuel ts settled visited

/-- Settle threads at a point of the text where nothing has been reached yet. -/
def settleAll (m : Machine) (position : Nat) (before after : Option Char) (ts : List Thread) :
    List Thread :=
  settle m position before after (3 * m.program.size + ts.length + 1) ts []
    (Array.replicate m.program.size false)

/-- Whether a thread has come to the end of the program. -/
def accepts (m : Machine) (t : Thread) : Bool :=
  match m.program[t.place]? with
  | some .accept => true
  | _ => false

def take (m : Machine) (c : Char) (t : Thread) : Option Thread :=
  match m.program[t.place]? with
  | some (.set s next) => if s.contains c then some ⟨next, t.marks⟩ else none
  | _ => none

/-- A match: how many characters it takes, and the marks set on the way. -/
structure Found where
  length : Nat
  marks : Marks
  deriving Inhabited

/-- Run threads over the rest of a text. `best` is the match of the most preferred thread that has
ended so far; threads behind it are given up, unless the longest match is looked for. -/
def runThreads (m : Machine) (offset length : Nat) (before : Option Char) :
    List Char → List Thread → Option Found → Option Found
  | rest, ts, best =>
    let ts := settleAll m (offset + length) before rest.head? ts
    let best := match ts.find? (accepts m) with
      | some t => some ⟨length, t.marks⟩
      | none => best
    let ts := if m.longest then ts.filter fun t => !accepts m t
      else ts.takeWhile fun t => !accepts m t
    match rest with
    | [] => best
    | c :: rest =>
        match ts.filterMap (take m c) with
        | [] => best
        | ts => runThreads m offset (length + 1) (some c) rest ts best

/-- The preferred match at the start of `text`, which stands at an offset after a character. -/
def Machine.matchHere (m : Machine) (offset : Nat) (before : Option Char) (text : List Char) :
    Option Found :=
  runThreads m offset 0 before text [⟨m.start, []⟩] none

end ReplyScript.Pattern
