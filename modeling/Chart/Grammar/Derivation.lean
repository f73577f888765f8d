import Chart.Grammar.Basic

/-!
# Grammar/Derivation — what a grammar generates

Two readings of a grammar.  **Rewriting** takes a list of symbols and replaces one variable at a time,
until only terminals are left.  **Yielding** builds words bottom up and does not ask which symbols are
variables: a symbol of a binary rule may stand for what it yields and for its own text.

* `Grammar.Generates` — the words that rewriting reaches from the start variable.
* `Grammar.Yields` — the words that a symbol yields.
-/

namespace Chart.Grammar

/-! ## Rewriting -/

/-- One variable of a list of symbols is replaced by the right-hand side of one of its rules. -/
inductive Rewrites (g : Grammar) : List Symbol → List Symbol → Prop where
  | replace {r : Rule} (before behind : List Symbol) (h : r ∈ g.rules) :
    Rewrites g (before ++ r.lhs :: behind) (before ++ r.rhs ++ behind)

/-- Any number of replacements, one after the other. -/
inductive Derives (g : Grammar) (origin : List Symbol) : List Symbol → Prop where
  | refl : Derives g origin origin
  | step {form next : List Symbol} : Derives g origin form → Rewrites g form next →
    Derives g origin next

/-- **A word is generated** if the start variable derives terminals whose texts make up the word. -/
def Generates (g : Grammar) (word : Text) : Prop :=
  ∃ form : List Symbol, Derives g [g.start] form ∧ (∀ a ∈ form, g.isVariable a = false) ∧
    form.flatten = word

/-! ## Yielding -/

/-- **The words that a symbol yields**: a unit rule gives a single character or what its symbol yields,
a binary rule joins two words, each of them the text of its symbol or yielded by it. -/
inductive Yields (g : Grammar) : Symbol → Text → Prop where
  | character {a : Symbol} {c : Char} : Rule.unit a [c] ∈ g.rules → Yields g a [c]
  | unit {a b : Symbol} {w : Text} : Rule.unit a b ∈ g.rules → Yields g b w → Yields g a w
  | binary {a x y : Symbol} {u v : Text} : Rule.binary a x y ∈ g.rules →
    Yields g x u → Yields g y v → Yields g a (u ++ v)
  | literalFirst {a x y : Symbol} {v : Text} : Rule.binary a x y ∈ g.rules →
    Yields g y v → Yields g a (x ++ v)
  | literalSecond {a x y : Symbol} {u : Text} : Rule.binary a x y ∈ g.rules →
    Yields g x u → Yields g a (u ++ y)
  | literalBoth {a x y : Symbol} : Rule.binary a x y ∈ g.rules → Yields g a (x ++ y)

/-- What a derivation reaches can be derived further. -/
theorem Derives.trans {g : Grammar} {a b c : List Symbol} (hab : Derives g a b)
    (hbc : Derives g b c) : Derives g a c := by
  induction hbc with
  | refl => exact hab
  | step _ hstep ih => exact ih.step hstep

end Chart.Grammar
