import InlineAssert.Pattern.Form
import InlineAssert.Pattern.Layout.Sharing
import InlineAssert.Pattern.Layout.Words

namespace InlineAssert.Pattern

namespace Layout

def addSet (d : Direction) (s : CharSet) (l : Layout) : Layout :=
  if s.isAscii then (l.plain 1).reading (Form.scalars s).length
  else match d with
    | .forward => l.addForward (Encoding.sequences s)
    | .backward => l.addBackward (Encoding.sequences s)

def bytes (d : Direction) (word : List Char) : List Nat :=
  let bytes := (word.flatMap String.utf8EncodeChar).map UInt8.toNat
  match d with
  | .forward => bytes
  | .backward => bytes.reverse

mutual

def add (d : Direction) : Form → Layout → Layout
  | .empty, l | .look _, l => l.plain 1
  | .word cs, l => l.plain (Form.width cs)
  | .set s, l => l.addSet d s
  | .capture f, l =>
    match d with
    | .forward => ((l.plain 1).add d f).plain 1
    | .backward => l.add d f
  | .repeated min max _ f, l =>
    match min, max with
    | 0, some 1 => ((l.branching 2).add d f).plain 1
    | 0, none =>
      if f.least.any (0 < ·) then (l.branching 2).add d f
      else (((l.add d f).branching 2).branching 2).plain 1
    | n, none => (copies (·.add d f) n l).branching 2
    | n, some m =>
      let first := if n = 0 then l.plain 1 else copies (·.add d f) n l
      if n = m then first
      else copies (fun l => (l.branching 2).add d f) (m - n) (first.plain 1)
  | .cat fs, l => l.addAll d fs
  | .alt fs, l =>
    match fs.mapM Form.word? with
    | some words => l.addWords (words.map (bytes d))
    | none => l.addChoice d fs

def addAll (d : Direction) : List Form → Layout → Layout
  | [], l => l
  | f :: fs, l =>
    match d with
    | .forward => (l.add d f).addAll d fs
    | .backward => (l.addAll d fs).add d f

def addChoice (d : Direction) : List Form → Layout → Layout
  | [], l => l
  | [f], l => l.add d f
  -- all branches meet in one state, which comes after the first two of them
  | f :: g :: fs, l => addBranches d fs ((((l.add d f).add d g).branching 2).plain 1)

def addBranches (d : Direction) : List Form → Layout → Layout
  | [], l => l
  | f :: fs, l => addBranches d fs (l.add d f).branch

end

def ofForm (d : Direction) (f : Form) : Layout :=
  let edge := match d with
    | .forward => Look.textStart
    | .backward => Look.textEnd
  let start : Layout :=
    if f.bound d edge then Layout.plain {} 1 else ((Layout.branching {} 2).plain 1).reading 1
  (start.add d (.capture f)).plain 1

end Layout

def Form.fits (f : Form) : Bool :=
  (Layout.ofForm .backward f).fits && (Layout.ofForm .forward f).fits

end InlineAssert.Pattern
