import AgentTool.Regex.Meaning

/-!
# Regular expressions: the size of an automaton

A pattern is refused when its automaton over UTF-8 bytes takes more than a set
number of bytes of memory, read forwards or backwards.  The size is counted
without building the automaton:

| part | bytes |
| --- | ---: |
| state | 32 |
| byte range out of a state with several | 8 |
| alternative of a branching state | 4 |

Repetitions with counts are written out.  A set of characters beyond ASCII
becomes the byte ranges of its UTF-8 forms: forwards with common ends shared,
backwards with common starts shared.
-/

namespace AgentTool
namespace Regex

/-- A range of bytes. -/
abbrev ByteRange := Nat × Nat

/-- The bytes of a state of the automaton. -/
def stateSize : Nat := 32

/-- The bytes of one range out of a state. -/
def transitionSize : Nat := 8

/-- The bytes of one alternative. -/
def alternativeSize : Nat := 4

/-- The UTF-8 bytes of a code point. -/
def utf8Bytes (n : Nat) : List Nat :=
  (String.utf8EncodeChar (Char.ofNat n)).map UInt8.toNat

/-- Cuts a range of code points so that each part has UTF-8 forms of one length
that differ by independent ranges per byte. -/
def splitRange : (fuel : Nat) → (a b : Nat) → List (Nat × Nat)
  | 0, a, b => [(a, b)]
  | fuel + 1, a, b =>
    if a > b then []
    else if a < 0xD800 ∧ 0xD800 ≤ b then
      splitRange fuel a 0xD7FF ++ splitRange fuel 0xE000 b
    else if 0xD800 ≤ a ∧ a < 0xE000 then splitRange fuel 0xE000 b
    else
      match [0x7F, 0x7FF, 0xFFFF].find? fun m => a ≤ m && m < b with
      | some m => splitRange fuel a m ++ splitRange fuel (m + 1) b
      | none =>
        if b ≤ 0x7F then [(a, b)]
        else
          match [6, 12, 18].findSome? fun i =>
            let width := Nat.pow 2 i
            if a / width != b / width then
              if a % width != 0 then some (a / width * width + (width - 1))
              else if b % width != width - 1 then some (b / width * width - 1)
              else none
            else none with
          | some m => splitRange fuel a m ++ splitRange fuel (m + 1) b
          | none => [(a, b)]

/-- The byte ranges of the UTF-8 forms of a set, in order. -/
def byteSequences (s : CharSet) : List (List ByteRange) :=
  s.flatMap fun r => (splitRange 32 r.1 r.2).map fun p => (utf8Bytes p.1).zip (utf8Bytes p.2)

/-- The distinct states that sequences of one length class lead through, each as
its ranges with the numbers of the states behind them; number 0 is the end. -/
abbrev StateTable := List (List (ByteRange × Nat))

/-- The number of a state, entered into the table if it is new. -/
def StateTable.intern (t : StateTable) (state : List (ByteRange × Nat)) : Nat × StateTable :=
  match t.findIdx? (· == state) with
  | some i => (t.length - i, t)
  | none => (t.length + 1, state :: t)

/-- Groups neighbouring sequences that open with the same range. -/
def groupHeads : List (List ByteRange) → List (ByteRange × List (List ByteRange))
  | [] => []
  | [] :: rest => groupHeads rest
  | (r :: tail) :: rest =>
    match groupHeads rest with
    | (q, tails) :: groups =>
      if q = r then (r, tail :: tails) :: groups else (r, [tail]) :: (q, tails) :: groups
    | [] => [(r, [tail])]

/-- Enters the states of sequences into the table, ends first; sequences have at most `depth` bytes.
-/
def addStates : (depth : Nat) → StateTable → List (List ByteRange) → Nat × StateTable
  | 0, t, _ => (0, t)
  | depth + 1, t, seqs =>
    if seqs.all (·.isEmpty) then (0, t)
    else
      let (state, t) := (groupHeads seqs).foldl (fun acc g =>
        let (n, t) := addStates depth acc.2 g.2
        (acc.1 ++ [(g.1, n)], t)) (([] : List (ByteRange × Nat)), t)
      t.intern state

/-- The number of distinct non-empty beginnings of sequences, counted in order. -/
def countStarts : (previous : List ByteRange) → List (List ByteRange) → Nat
  | _, [] => 0
  | previous, s :: ss =>
    let common := ((previous.zip s).takeWhile fun p => p.1 == p.2).length
    (s.length - common) + countStarts s ss

/-- The bytes of a set of characters. -/
def setSize (reverse : Bool) (s : CharSet) : Nat :=
  if s.isAscii then 2 * stateSize + transitionSize * s.length
  else
    let seqs := byteSequences s
    if reverse then
      2 * stateSize + alternativeSize * seqs.length + stateSize * countStarts [] seqs
    else
      let (_, t) := addStates 4 [] seqs
      stateSize + t.foldl (fun n state => n + stateSize + transitionSize * state.length) 0

/-- The runs of words between the words that are empty. -/
def runsBetween : (current : List (List Nat)) → List (List Nat) → List (List (List Nat))
  | current, [] => [current]
  | current, [] :: rest => current :: runsBetween [] rest
  | current, w :: rest => runsBetween (current ++ [w]) rest

/-- The bytes of a tree of literals, without its end.  A literal that ends where
others go on separates those before it from those after it. -/
def literalTreeSize : (depth : Nat) → List (List Nat) → Nat
  | 0, _ => 0
  | depth + 1, words =>
    let runs := runsBetween [] words
    let chunks := runs.filter fun g => !g.isEmpty
    let chunkSize (g : List (List Nat)) : Nat :=
      let heads := (g.filterMap List.head?).eraseDups
      let below := heads.map fun h =>
        let tails := (g.filter fun w => w.head? == some h).map (·.drop 1)
        if tails.all (·.isEmpty) then 0 else literalTreeSize depth tails
      stateSize + (if heads.length > 1 then transitionSize * heads.length else 0) + below.foldl (· + ·) 0
    stateSize + alternativeSize * (chunks.length + (runs.length - 1)) +
      (chunks.map chunkSize).foldl (· + ·) 0

/-- The bytes of a literal. -/
def literalBytes (cs : List Char) : List Nat := (Text.utf8 cs).map UInt8.toNat

/-- The text of a literal. -/
def Expr.literal? : Expr → Option (List Char)
  | .literal cs => some cs
  | _ => none

mutual

/-- The bytes of an automaton. -/
def Expr.size (reverse : Bool) : Expr → Nat
  | .empty | .look _ => stateSize
  | .literal cs => stateSize * Text.utf8Size cs
  | .chars s => setSize reverse s
  | .capture sub => (if reverse then 0 else 2 * stateSize) + sub.size reverse
  | .concat items => sizes reverse items
  | .alternation branches =>
    match branches.mapM Expr.literal? with
    | some words =>
      let words := words.map literalBytes
      let words := if reverse then words.map List.reverse else words
      stateSize + literalTreeSize ((words.map List.length).foldl max 0 + 1) words
    | none => 2 * stateSize + alternativeSize * branches.length + sizes reverse branches
  | .repetition least most sub =>
    let one := sub.size reverse
    match least, most with
    | 0, none =>
      if sub.leastBytes.any (0 < ·) then stateSize + 2 * alternativeSize + one
      else 3 * stateSize + 4 * alternativeSize + one
    | least, none => least * one + stateSize + 2 * alternativeSize
    | least, some most =>
      if least = most then least * one
      else if least = 0 ∧ most = 1 then one + 2 * stateSize + 2 * alternativeSize
      else
        (if least = 0 then stateSize else least * one) + stateSize +
          (most - least) * (stateSize + 2 * alternativeSize + one)

/-- The bytes of several automata. -/
def sizes (reverse : Bool) : List Expr → Nat
  | [] => 0
  | e :: es => e.size reverse + sizes reverse es

end

/-- The bytes around an expression: a search prefix, the match, and forwards the
marks of the whole match. -/
def frameSize (reverse : Bool) : Nat :=
  4 * stateSize + transitionSize + 2 * alternativeSize + (if reverse then 0 else 2 * stateSize)

/-- The most bytes an automaton may take. -/
def sizeLimit : Nat := 1048576

/-- Whether the automata of an expression stay within the limit. -/
def Expr.fits (e : Expr) : Bool :=
  frameSize false + e.size false ≤ sizeLimit && frameSize true + e.size true ≤ sizeLimit

end Regex
end AgentTool
