namespace InlineAssert.Text

/-- The characters that separate words in Unicode (`White_Space`). -/
def isBlank (c : Char) : Bool :=
  let n := c.toNat
  (9 ≤ n && n ≤ 13) || n = 0x20 || n = 0x85 || n = 0xA0 || n = 0x1680 ||
    (0x2000 ≤ n && n ≤ 0x200A) || n = 0x2028 || n = 0x2029 || n = 0x202F || n = 0x205F || n = 0x3000

def splitOnce? (sep : Char) : List Char → Option (List Char × List Char)
  | [] => none
  | c :: cs =>
    if c = sep then some ([], cs) else (splitOnce? sep cs).map fun (a, b) => (c :: a, b)

def pieces (sep : Char) : List Char → List (List Char)
  | [] => [[]]
  | c :: cs =>
    if c = sep then [] :: pieces sep cs
    else match pieces sep cs with
      | [] => [[c]]
      | p :: ps => (c :: p) :: ps

def after? : (lead : List Char) → List Char → Option (List Char)
  | [], cs => some cs
  | _ :: _, [] => none
  | p :: ps, c :: cs => if p = c then after? ps cs else none

def occurs (part : List Char) : List Char → Bool
  | [] => part.isEmpty
  | c :: cs => part.isPrefixOf (c :: cs) || occurs part cs

def dropFinal (c : Char) (cs : List Char) : List Char :=
  if cs.getLast? = some c then cs.dropLast else cs

/-- The lines of a text: each ends with a newline, which goes with a carriage return before it. A
last line without a newline is kept whole, an empty one is not a line. -/
def lines : List Char → List (List Char)
  | [] => []
  | c :: cs =>
    if c = '\n' then [] :: lines cs
    else match cs, lines cs with
      | '\n' :: _, _ :: ls => (if c = '\r' then [] else [c]) :: ls
      | _, [] => [[c]]
      | _, l :: ls => (c :: l) :: ls

def words : List Char → List (List Char)
  | [] => []
  | c :: cs =>
    if isBlank c then words cs
    else match cs, words cs with
      | [], _ => [[c]]
      | d :: _, ws => if isBlank d then [c] :: ws else match ws with
        | [] => [[c]]
        | w :: ws => (c :: w) :: ws

def join (sep : String) : List String → String
  | [] => ""
  | [s] => s
  | s :: t :: rest => s ++ sep ++ join sep (t :: rest)

def indent (depth : Nat) : String := String.ofList (List.replicate (2 * depth) ' ')

@[simp] theorem after?_nil (cs : List Char) : after? [] cs = some cs := by
  cases cs <;> rfl

theorem after?_append (lead cs : List Char) : after? lead (lead ++ cs) = some cs := by
  induction lead with
  | nil => simp
  | cons p ps ih => simp [after?, ih]

theorem eq_append_of_after? {lead cs rest : List Char} (h : after? lead cs = some rest) :
    cs = lead ++ rest := by
  induction lead generalizing cs with
  | nil => simpa using h
  | cons p ps ih =>
    cases cs with
    | nil => simp [after?] at h
    | cons c cs =>
      by_cases hp : p = c
      · subst hp; simp only [after?, if_true] at h; simp [ih h]
      · simp [after?, hp] at h

theorem splitOnce?_eq_some {sep : Char} {cs a b : List Char} :
    splitOnce? sep cs = some (a, b) ↔ cs = a ++ sep :: b ∧ sep ∉ a := by
  induction cs generalizing a with
  | nil => simp [splitOnce?]
  | cons c cs ih =>
    by_cases hc : c = sep
    · subst hc
      cases a with
      | nil => simp [splitOnce?]
      | cons x a => simp [splitOnce?]; grind
    · cases a with
      | nil => simp [splitOnce?, hc]
      | cons x a => simp [splitOnce?, hc, ih]; grind

end InlineAssert.Text
