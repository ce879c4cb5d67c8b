/-
This file is a library of lineages. Individuals live, and each has a trait. A new individual
has the trait of its parent, or else it is founded with a trait of its own.

As long as no individual alters its trait, however long the line is, an individual has the
trait that stands at its beginning: that of an individual that was there at first, or the one
that a founder was given.
-/

import Mathlib.Logic.Function.Basic

/-- Where a line begins: with an individual of the first generation, or with a founder, of which
something is known. -/
inductive Beginning (Individual Founding : Type*)
  | first (individual : Individual)
  | founder (founding : Founding)
  deriving DecidableEq

/-- Who lives, with which trait, and where the lines of all individuals begin. -/
structure Lineage (Individual Founding Trait : Type*) where
  trait : Individual → Option Trait
  beginning : Individual → Beginning Individual Founding := .first

namespace Lineage

variable {Individual Founding Trait : Type*} [DecidableEq Individual]
  (lineage : Lineage Individual Founding Trait)

/-- From now on an individual lives with a trait, or does not live. -/
def settle (individual : Individual) (trait : Option Trait)
    (beginning : Beginning Individual Founding) : Lineage Individual Founding Trait where
  trait := Function.update lineage.trait individual trait
  beginning := Function.update lineage.beginning individual beginning

/-- A founder comes with a trait of its own. -/
def found (founding : Founding) (trait : Trait) (child : Individual) :
    Lineage Individual Founding Trait :=
  lineage.settle child (some trait) (.founder founding)

/-- A child has the trait of its parent. -/
def bear (parent child : Individual) : Lineage Individual Founding Trait :=
  lineage.settle child (lineage.trait parent) (lineage.beginning parent)

/-- An individual gets another trait. -/
def alter (individual : Individual) (trait : Trait) : Lineage Individual Founding Trait :=
  lineage.settle individual (some trait) (lineage.beginning individual)

def die (individual : Individual) : Lineage Individual Founding Trait :=
  lineage.settle individual none (lineage.beginning individual)

variable {lineage} {individual other : Individual} {trait : Option Trait}
  {beginning : Beginning Individual Founding}

theorem trait_settle_self : (lineage.settle individual trait beginning).trait individual = trait :=
  Function.update_self ..

theorem beginning_settle_self :
    (lineage.settle individual trait beginning).beginning individual = beginning :=
  Function.update_self ..

theorem trait_settle_of_ne (different : other ≠ individual) :
    (lineage.settle individual trait beginning).trait other = lineage.trait other :=
  Function.update_of_ne different ..

theorem beginning_settle_of_ne (different : other ≠ individual) :
    (lineage.settle individual trait beginning).beginning other = lineage.beginning other :=
  Function.update_of_ne different ..

/-! ### Traits are inherited -/

variable {first : Individual → Option Trait} {given : Founding → Trait}

/-- The trait at the beginning of a line. -/
def traitAt (first : Individual → Option Trait) (given : Founding → Trait) :
    Beginning Individual Founding → Option Trait
  | .first individual => first individual
  | .founder founding => some (given founding)

/-- All that live have the trait that stands at the beginning of their line. -/
def Inherits (first : Individual → Option Trait) (given : Founding → Trait)
    (lineage : Lineage Individual Founding Trait) : Prop :=
  ∀ individual trait, lineage.trait individual = some trait →
    traitAt first given (lineage.beginning individual) = some trait

omit [DecidableEq Individual] in
theorem inherits_first (first : Individual → Option Trait) (given : Founding → Trait) :
    Inherits first given { trait := first } := fun _ _ living => living

theorem Inherits.settle (inherits : lineage.Inherits first given)
    (fits : ∀ found, trait = some found → traitAt first given beginning = some found) :
    (lineage.settle individual trait beginning).Inherits first given := by
  intro other found living
  by_cases same : other = individual
  · subst same
    rw [trait_settle_self] at living
    rw [beginning_settle_self]
    exact fits found living
  · rw [trait_settle_of_ne same] at living
    rw [beginning_settle_of_ne same]
    exact inherits other found living

theorem Inherits.found (inherits : lineage.Inherits first given) (founding : Founding)
    (child : Individual) : (lineage.found founding (given founding) child).Inherits first given :=
  inherits.settle fun _ => id

theorem Inherits.bear (inherits : lineage.Inherits first given) (parent child : Individual) :
    (lineage.bear parent child).Inherits first given :=
  inherits.settle (inherits parent)

theorem Inherits.die (inherits : lineage.Inherits first given) (individual : Individual) :
    (lineage.die individual).Inherits first given :=
  inherits.settle fun _ living => (by cases living)

end Lineage
