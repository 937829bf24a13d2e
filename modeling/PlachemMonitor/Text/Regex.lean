import Mathlib.Data.List.Infix
import PlachemMonitor.Text.Lines

/-!
# Regular expressions

`re.search` and `re.sub` of patterns without groups that are referred to. The places at which a match can
end come in the order in which a backtracking matcher tries them, so that the first of them is the end of
the match.

* `sub_cases`: a replacement that does not occur in the result has not been made.
-/

namespace Plachem

namespace Regex

inductive Reg where
  | empty
  | char (p : Char → Bool)
  | seq (a b : Reg)
  | alt (a b : Reg)
  /-- As often as possible. -/
  | star (a : Reg)
  /-- `\b` -/
  | boundary

/-- A place in a text: the character before it, and the text from there on. -/
structure Place where
  before : Option Char
  rest : List Char
  deriving DecidableEq

/-! ## Patterns -/

/-- What `re.IGNORECASE` compares, of the characters that some ASCII letter matches. -/
def fold (c : Char) : Char :=
  if c.toNat < 128 then c.toLower
  else if c = '\u0130' ∨ c = '\u0131' then 'i'
  else if c = '\u017f' then 's'
  else if c = '\u212a' then 'k'
  else c

/-- The characters of the text, one after the other; `re.IGNORECASE` is set. -/
def lit (text : String) : Reg :=
  text.toList.foldr (fun c r => .seq (.char fun d => fold d == fold c) r) .empty

/-- `\s` -/
def space : Reg := .char Text.isWhitespace

/-- `\S` -/
def nonspace : Reg := .char fun c => !Text.isWhitespace c

/-- `a+` -/
def plus (a : Reg) : Reg := .seq a (.star a)

/-- `a?` -/
def opt (a : Reg) : Reg := .alt a .empty

/-- One pattern after the other. -/
def cat (rs : List Reg) : Reg := rs.foldr .seq .empty

/-- `a{n,}` -/
def atLeast (n : ℕ) (a : Reg) : Reg := cat (List.replicate n a ++ [.star a])

/-- `[A-Za-z0-9…]` with more characters; `re.IGNORECASE` is set. -/
def alnum (more : List Char) : Reg := .char fun c => (fold c).isLower || c.isDigit || more.contains c

/-- The first of the patterns that lets the match go on. -/
def any : List Reg → Reg
  | [] => .char fun _ => false
  | [r] => r
  | r :: rs => .alt r (any rs)

/-! ## Matching -/

/-- `\w`: the letters, digits and the underscore of ASCII, and what `letter` says of the other characters. -/
def isWord (letter : Char → Bool) (c : Char) : Bool :=
  if c.toNat < 128 then c.isAlphanum || c == '_' else letter c

variable (letter : Char → Bool)

def atBoundary (s : Place) : Bool := s.before.any (isWord letter) != s.rest.head?.any (isWord letter)

/-- The places that can be reached by repeated steps, those of more steps first. A step that does not go on
ends the repetition. -/
def iterate (step : Place → List Place) : ℕ → Place → List Place
  | 0, s => [s]
  | n + 1, s =>
    ((step s).filter fun e => decide (e.rest.length < s.rest.length)).flatMap (iterate step n) ++ [s]

/-- Where a match from here can end. -/
def ends : Reg → Place → List Place
  | .empty, s => [s]
  | .char p, s =>
    match s.rest with
    | [] => []
    | c :: cs => if p c then [⟨some c, cs⟩] else []
  | .seq a b, s => (ends a s).flatMap (ends b)
  | .alt a b, s => ends a s ++ ends b s
  | .star a, s => iterate (ends a) s.rest.length s
  | .boundary, s => if atBoundary letter s then [s] else []

/-- A match starts here or later. -/
def foundFrom (r : Reg) : Option Char → List Char → Bool
  | before, [] => !(ends letter r ⟨before, []⟩).isEmpty
  | before, c :: cs => !(ends letter r ⟨before, c :: cs⟩).isEmpty || foundFrom r (some c) cs

/-- `re.search(pattern, text) is not None` -/
def found (r : Reg) (text : List Char) : Bool := foundFrom letter r none text

/-- The number of characters that a match from here takes. -/
def matched (r : Reg) (s : Place) : ℕ :=
  match ends letter r s with
  | [] => 0
  | e :: _ => s.rest.length - e.rest.length

/-- The text from here on with its matches replaced, after the characters that are skipped. -/
def subFrom (r : Reg) (rep : List Char) : ℕ → Option Char → List Char → List Char
  | _, _, [] => []
  | skip + 1, _, c :: cs => subFrom r rep skip (some c) cs
  | 0, before, c :: cs =>
    match matched letter r ⟨before, c :: cs⟩ with
    | 0 => c :: subFrom r rep 0 (some c) cs
    | n + 1 => rep ++ subFrom r rep n (some c) cs

/-- `re.sub(pattern, rep, text)` of a pattern that matches no empty text. -/
def sub (r : Reg) (rep text : List Char) : List Char := subFrom letter r rep 0 none text

section Replacement

variable {letter} {r : Reg} {rep : List Char} {c : Char}

/-- Either nothing is replaced, or the replacement is there. -/
theorem subFrom_cases (skip : ℕ) (before : Option Char) (cs : List Char) :
    subFrom letter r rep skip before cs = cs.drop skip ∨ rep <:+: subFrom letter r rep skip before cs := by
  induction cs generalizing skip before with
  | nil =>
    left
    rw [List.drop_nil]
    cases skip <;> rfl
  | cons c cs ih =>
    cases skip with
    | succ skip =>
      rw [subFrom, List.drop_succ_cons]
      exact ih skip (some c)
    | zero =>
      rw [subFrom]
      split
      · rcases ih 0 (some c) with h | h
        · left
          rw [h]
          rfl
        · right
          exact h.trans (List.suffix_cons c _).isInfix
      · right
        exact (List.prefix_append rep _).isInfix

theorem sub_cases (text : List Char) :
    sub letter r rep text = text ∨ rep <:+: sub letter r rep text :=
  subFrom_cases 0 none text

theorem mem_subFrom {skip : ℕ} {before : Option Char} {cs : List Char}
    (h : c ∈ subFrom letter r rep skip before cs) : c ∈ cs ∨ c ∈ rep := by
  induction cs generalizing skip before with
  | nil => cases skip <;> cases h
  | cons d cs ih =>
    cases skip with
    | succ skip =>
      rw [subFrom] at h
      exact (ih h).imp_left (List.mem_cons_of_mem d)
    | zero =>
      rw [subFrom] at h
      split at h
      · rcases List.mem_cons.mp h with rfl | h
        · exact .inl List.mem_cons_self
        · exact (ih h).imp_left (List.mem_cons_of_mem d)
      · rcases List.mem_append.mp h with h | h
        · exact .inr h
        · exact (ih h).imp_left (List.mem_cons_of_mem d)

theorem mem_sub {text : List Char} (h : c ∈ sub letter r rep text) : c ∈ text ∨ c ∈ rep := mem_subFrom h

theorem subFrom_eq_self {before : Option Char} {cs : List Char} (h : foundFrom letter r before cs = false) :
    subFrom letter r rep 0 before cs = cs := by
  induction cs generalizing before with
  | nil => rfl
  | cons c cs ih =>
    rw [foundFrom, Bool.or_eq_false_iff, Bool.not_eq_false', List.isEmpty_iff] at h
    have hmatched : matched letter r ⟨before, c :: cs⟩ = 0 := by rw [matched, h.1]
    rw [subFrom, hmatched]
    exact congrArg _ (ih h.2)

/-- In a text without a match nothing is replaced. -/
theorem sub_eq_self {text : List Char} (h : found letter r text = false) : sub letter r rep text = text :=
  subFrom_eq_self h

end Replacement

end Regex

end Plachem
