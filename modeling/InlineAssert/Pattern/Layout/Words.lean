import InlineAssert.Pattern.Layout

namespace InlineAssert.Pattern.Layout

def cutAtEnds (words : List (List Nat)) : List (List (List Nat)) :=
  match words with
  -- of the ends before any word that goes on, one counts
  | [] :: rest => [] :: go (rest.dropWhile List.isEmpty)
  | words => go words
where
  go : List (List Nat) → List (List (List Nat))
    | [] => [[]]
    | [] :: words => [] :: go words
    | word :: words =>
      match go words with
      | [] => [[word]]
      | part :: parts => (word :: part) :: parts

def after (b : Nat) (words : List (List Nat)) : List (List Nat) :=
  words.filterMap fun
    | c :: word => if c = b then some word else none
    | [] => none

def tellApart : (depth : Nat) → List (List Nat) → Layout → Layout
  | 0, _, l => l
  | depth + 1, words, l =>
    if words.all List.isEmpty then l
    else
      let parts := cutAtEnds words
      let readers := (parts.filter fun part => !part.isEmpty).length
      parts.foldl (fun l part =>
        let firsts := (part.filterMap List.head?).eraseDups
        let l := match firsts.length with
          | 0 => l
          | 1 => l.plain 1
          | n => l.reading n
        firsts.foldl (fun l b => tellApart depth (after b part) l) l)
        (l.branching (parts.length - 1 + readers))

def addWords (words : List (List Nat)) (l : Layout) : Layout :=
  tellApart ((words.map List.length).foldl max 0) words (l.plain 1)

end InlineAssert.Pattern.Layout
