/-!
Points of time. The rows a store starts from lie on one time line before everything that happens
later; later moments are told apart by the step they belong to and by a tick of the clock.
-/
namespace BoardRules

inductive Moment where
  | seeded (micros : Int)
  | live (step tick : Nat)
deriving Repr, DecidableEq, Inhabited

namespace Moment

def before : Moment → Moment → Bool
  | .seeded a, .seeded b => a < b
  | .seeded _, .live _ _ => true
  | .live _ _, .seeded _ => false
  | .live s t, .live s' t' => s < s' || (s == s' && t < t')

def atMost (a b : Moment) : Bool := !b.before a

/-- The number a moment is shown as: the index of its step, or -1 for a time before the first. -/
def shown : Moment → Int
  | .seeded _ => -1
  | .live step _ => step

theorem before_irrefl (a : Moment) : a.before a = false := by
  cases a <;> simp [before]

theorem before_trans {a b c : Moment} (hab : a.before b = true) (hbc : b.before c = true) :
    a.before c = true := by
  cases a <;> cases b <;> cases c <;> simp [before] at * <;> omega

theorem eq_of_not_before {a b : Moment} (hab : a.before b = false) (hba : b.before a = false) :
    a = b := by
  cases a <;> cases b <;> simp [before] at * <;> omega

theorem atMost_trans {a b c : Moment} (hab : a.atMost b = true) (hbc : b.atMost c = true) :
    a.atMost c = true := by
  cases a <;> cases b <;> cases c <;> simp [atMost, before] at * <;> omega

theorem atMost_total (a b : Moment) : a.atMost b = true ∨ b.atMost a = true := by
  cases a <;> cases b <;> simp [atMost, before] <;> omega

end Moment
end BoardRules
